import Kanna.Lib.Run
import Kanna.Lib.Text

/-!
# Orchestrated kills and the `Exit` they share

`session_replacements.rs`, `kill_session_replacing_for_run` of `task_creator/lifecycle.rs`
and the `Exit` arm of `terminal_watcher.rs`. A caller registers the kill under the session
id, sends `Kill` to the daemon and takes the registration back if the daemon does not know
the session; the watcher consumes the registration when the `Exit` arrives.

All kills of a session share one entry, and `cancel` removes it whoever registered it. If
two callers kill the same session, the one that comes second is told that the session was
not found, and its `cancel` also takes away the registration of the first one, whose `Exit`
may still be on its way. `exit_attributed_iff` gives the exact condition: the `Exit` is
attributed to the run if and only if the last thing that happened to the entry before was a
registration and not a `cancel`. `exit_not_attributed` is the shortest run that ends badly.
-/

namespace Kanna

/-! ### The registry -/

/-- `ConsumedReplacement`. -/
structure ConsumedReplacement where
  replaced : Bool
  outgoingRunId : Option String

/-- `ConsumedReplacement::default`. -/
def ConsumedReplacement.none : ConsumedReplacement := ⟨false, .none⟩

/-- `SessionReplacements`: the sessions that are being killed, with the run each one was
serving if it is known. -/
structure SessionReplacements where
  sessions : String → Option (Option String)

namespace SessionReplacements

/-- The run a caller names; a blank name is none. -/
def namedRun (outgoingRunId : Option String) : Option String :=
  (outgoingRunId.map trim).filter fun runId => runId ≠ ""

/-- `begin_for_run`. -/
def beginForRun (r : SessionReplacements) (sessionId : String) (outgoingRunId : Option String) :
    SessionReplacements :=
  match r.sessions sessionId with
  | some existing =>
    if existing ≠ namedRun outgoingRunId then
      ⟨Function.update r.sessions sessionId (some none)⟩
    else r
  | none => ⟨Function.update r.sessions sessionId (some (namedRun outgoingRunId))⟩

/-- `cancel`. -/
def cancel (r : SessionReplacements) (sessionId : String) : SessionReplacements :=
  ⟨Function.update r.sessions sessionId none⟩

/-- `consume`. -/
def consume (r : SessionReplacements) (sessionId : String) :
    ConsumedReplacement × SessionReplacements :=
  match r.sessions sessionId with
  | some outgoingRunId =>
    (⟨true, outgoingRunId⟩, ⟨Function.update r.sessions sessionId none⟩)
  | none => (.none, r)

end SessionReplacements

/-! ### A kill -/

/-- The codes of a daemon error that are told apart here. -/
inductive ErrorCode where
  | sessionNotFound
  | other

/-- What the daemon answers; other events are shown as they print. -/
inductive DaemonEvent where
  | ok
  | error (code : Option ErrorCode) (message : String)
  | other (debug : String)

/-- `to_ascii_lowercase().contains(needle)`. -/
def containsIgnoringCase (text needle : String) : Bool :=
  (text.toList.map Char.toLower).tails.any fun rest => needle.toList.isPrefixOf rest

/-- `kill_session_replacing_for_run` after the answer, or the failure to get one: whether the
registration is cancelled, and what is returned. -/
def killAnswered : Except String DaemonEvent → Bool × Except String Unit
  | .error e => (true, .error ("daemon error: " ++ e))
  | .ok .ok => (false, .ok ())
  | .ok (.error (some .sessionNotFound) _) => (true, .ok ())
  | .ok (.error _ message) =>
    if containsIgnoringCase message "session not found" then (true, .ok ())
    else (true, .error ("daemon error: " ++ message))
  | .ok (.other debug) => (true, .error ("unexpected daemon response: " ++ debug))

/-- Where a call of `kill_session_replacing_for_run` is. -/
inductive KillCall where
  | notStarted
  | registered
  | answered (answer : Except String DaemonEvent)
  | returned (result : Except String Unit)

/-- The callers, the daemon's session and the watcher. -/
structure KillRace (ι : Type) where
  replacements : SessionReplacements
  calls : ι → KillCall
  /-- the session runs -/
  alive : Bool
  /-- the `Exit`s on their way to the watcher -/
  exits : ℕ
  /-- what the watcher has learned -/
  consumed : List ConsumedReplacement

/-- The moves of the callers, the daemon and the watcher. -/
inductive KillMove (ι : Type) where
  /-- the caller registers -/
  | begin (i : ι)
  /-- the daemon handles the caller's `Kill` and answers -/
  | kill (i : ι)
  /-- the caller returns, and the registration stays -/
  | finish (i : ι)
  /-- the caller cancels and returns -/
  | cancel (i : ι)
  /-- the watcher handles an `Exit` -/
  | consume

namespace KillRace

variable {ι : Type} [DecidableEq ι]

/-- The session is alive, and nobody has called yet. -/
def start (replacements : SessionReplacements) : KillRace ι :=
  ⟨replacements, fun _ => .notStarted, true, 0, []⟩

/-- One move, if it is enabled. Every caller names `run`. -/
def step (sessionId run : String) (s : KillRace ι) : KillMove ι → Option (KillRace ι)
  | .begin i =>
    match s.calls i with
    | .notStarted =>
      some { s with
        replacements := s.replacements.beginForRun sessionId (some run)
        calls := Function.update s.calls i .registered }
    | _ => none
  | .kill i =>
    match s.calls i with
    | .registered =>
      if s.alive then
        some { s with
          alive := false
          exits := s.exits + 1
          calls := Function.update s.calls i (.answered (.ok .ok)) }
      else
        some { s with
          calls := Function.update s.calls i
            (.answered (.ok (.error (some .sessionNotFound)
              ("session not found: " ++ sessionId)))) }
    | _ => none
  | .finish i =>
    match s.calls i with
    | .answered answer =>
      if (killAnswered answer).1 then none
      else some { s with calls := Function.update s.calls i (.returned (killAnswered answer).2) }
    | _ => none
  | .cancel i =>
    match s.calls i with
    | .answered answer =>
      if (killAnswered answer).1 then
        some { s with
          replacements := s.replacements.cancel sessionId
          calls := Function.update s.calls i (.returned (killAnswered answer).2) }
      else none
    | _ => none
  | .consume =>
    if s.exits = 0 then none
    else
      some { s with
        replacements := (s.replacements.consume sessionId).2
        exits := s.exits - 1
        consumed := (s.replacements.consume sessionId).1 :: s.consumed }

/-- The last move that touched the entry registered a kill. -/
def lastRegisters : List (KillMove ι) → Bool → Bool
  | [], registered => registered
  | .begin _ :: moves, _ => lastRegisters moves true
  | .cancel _ :: moves, _ => lastRegisters moves false
  | .consume :: moves, _ => lastRegisters moves false
  | .kill _ :: moves, registered => lastRegisters moves registered
  | .finish _ :: moves, registered => lastRegisters moves registered

/-- The entry is there if the last move that touched it registered, and it names the run
every caller names. -/
def Entry (sessionId run : String) (s : KillRace ι) (registered : Bool) : Prop :=
  s.replacements.sessions sessionId = if registered then some (some run) else none

/-- The session lives, or its one `Exit` is on its way or consumed. -/
def OneExit (s : KillRace ι) : Prop :=
  (if s.alive then 1 else 0) + s.exits + s.consumed.length = 1

variable {sessionId run named : String} {s s' : KillRace ι} {registered : Bool}

open SessionReplacements

variable (hnamed : namedRun (some run) = some named)

include hnamed

theorem beginForRun_entry {r : SessionReplacements}
    (h : r.sessions sessionId = if registered then some (some named) else none) :
    (r.beginForRun sessionId (some run)).sessions sessionId = some (some named) := by
  rw [beginForRun, h, hnamed]
  cases registered with
  | true =>
    rw [if_pos rfl] at h ⊢
    dsimp only
    rw [if_neg (not_not.mpr rfl), h]
  | false => exact Function.update_self _ _ _

/-- What one move does to the entry is what its label says, and it keeps the one `Exit`. -/
theorem Entry.step {move : KillMove ι} (h : s.Entry sessionId named registered) (hone : s.OneExit)
    (hstep : s.step sessionId run move = some s') :
    s'.Entry sessionId named (lastRegisters [move] registered) ∧ s'.OneExit := by
  rw [OneExit] at hone
  cases move with
  | begin i =>
    rw [KillRace.step] at hstep
    split at hstep
    next =>
      cases hstep
      exact ⟨beginForRun_entry hnamed h, hone⟩
    next => cases hstep
  | kill i =>
    rw [KillRace.step] at hstep
    split at hstep
    next =>
      split at hstep
      next halive =>
        cases hstep
        refine ⟨h, ?_⟩
        rw [if_pos halive] at hone
        change 0 + (s.exits + 1) + s.consumed.length = 1
        omega
      next =>
        cases hstep
        exact ⟨h, hone⟩
    next => cases hstep
  | finish i =>
    rw [KillRace.step] at hstep
    split at hstep
    next =>
      rw [Option.ite_none_left_eq_some] at hstep
      cases hstep.2
      exact ⟨h, hone⟩
    next => cases hstep
  | cancel i =>
    rw [KillRace.step] at hstep
    split at hstep
    next =>
      rw [Option.ite_none_right_eq_some] at hstep
      cases hstep.2
      exact ⟨Function.update_self _ _ _, hone⟩
    next => cases hstep
  | consume =>
    rw [KillRace.step, Option.ite_none_left_eq_some] at hstep
    cases hstep.2
    constructor
    · rw [consume]
      split
      next => exact Function.update_self _ _ _
      next hnone => exact hnone
    · change (if s.alive then 1 else 0) + (s.exits - 1) + (s.consumed.length + 1) = 1
      omega

/-- After a whole run the entry is what the labels say. -/
theorem Entry.of_run {moves : List (KillMove ι)} (h : s.Entry sessionId named registered)
    (hone : s.OneExit) (hrun : Kanna.run (KillRace.step sessionId run) s moves = some s') :
    s'.Entry sessionId named (lastRegisters moves registered) ∧ s'.OneExit := by
  induction moves generalizing s registered with
  | nil =>
    cases hrun
    exact ⟨h, hone⟩
  | cons move moves ih =>
    obtain ⟨next, hstep, hrest⟩ := run_cons_eq_some hrun
    obtain ⟨h, hone⟩ := h.step hnamed hone hstep
    have hlast := ih h hone hrest
    cases move <;> exact hlast

omit hnamed

/-- **When the `Exit` is attributed.** Any number of callers kill one session and name the
same run. There is one `Exit`, and when the watcher handles it, it is attributed to the run
if the last move that touched the entry before was a registration; if it was a `cancel`, the
`Exit` is not even known to be a replacement. -/
theorem exit_attributed_iff {replacements : SessionReplacements}
    (hnamed : SessionReplacements.namedRun (some run) = some named)
    (hfresh : replacements.sessions sessionId = none) {moves : List (KillMove ι)}
    (hrun : Kanna.run (KillRace.step sessionId run) (start replacements) moves = some s)
    (hconsume : s.step sessionId run .consume = some s') :
    (s'.consumed = [⟨true, some named⟩] ↔ lastRegisters moves false = true) ∧
      (s'.consumed = [.none] ↔ lastRegisters moves false = false) := by
  have hstart : (start replacements : KillRace ι).Entry sessionId named false := hfresh
  obtain ⟨hentry, hone⟩ := hstart.of_run hnamed rfl hrun
  rw [KillRace.step, Option.ite_none_left_eq_some] at hconsume
  obtain ⟨hexit, hs'⟩ := hconsume
  have hnil : s.consumed = [] := by
    rw [OneExit] at hone
    exact List.eq_nil_of_length_eq_zero (by omega)
  cases hs'
  rw [Entry] at hentry
  rw [hnil, consume, hentry]
  cases lastRegisters moves false with
  | true => exact ⟨iff_of_true rfl rfl, iff_of_false nofun nofun⟩
  | false => exact ⟨iff_of_false nofun nofun, iff_of_true rfl rfl⟩

/-- The calls of both callers overlap, and the `Exit` is handled before the second one's
`cancel`. -/
theorem exit_attributed_overlapping :
    ∃ s s' : KillRace Bool,
      Kanna.run (KillRace.step "session" "run") (start ⟨fun _ => none⟩)
        [.begin true, .begin false, .kill true, .kill false] = some s ∧
      s.step "session" "run" .consume = some s' ∧ s'.consumed = [⟨true, some "run"⟩] := by
  obtain ⟨s, hrun, s', hconsume⟩ : ∃ s : KillRace Bool,
      Kanna.run (KillRace.step "session" "run") (start ⟨fun _ => none⟩)
        [.begin true, .begin false, .kill true, .kill false] = some s ∧
      ∃ s', s.step "session" "run" .consume = some s' := ⟨_, rfl, _, rfl⟩
  have hnamed : namedRun (some "run") = some "run" := by decide
  obtain ⟨hattributed, -⟩ := exit_attributed_iff hnamed rfl hrun hconsume
  exact ⟨s, s', hrun, hconsume, hattributed.mpr rfl⟩

/-- Both callers register, the first one's `Kill` succeeds, and the second one's `cancel`
comes before the `Exit` is handled. -/
def overlappingKills : List (KillMove Bool) :=
  [.begin true, .begin false, .kill true, .finish true, .kill false, .cancel false, .consume]

theorem exit_not_attributed :
    ∃ s : KillRace Bool,
      Kanna.run (KillRace.step "session" "run") (start ⟨fun _ => none⟩) overlappingKills = some s ∧
      s.consumed = [⟨false, none⟩] :=
  ⟨_, rfl, rfl⟩

end KillRace

end Kanna
