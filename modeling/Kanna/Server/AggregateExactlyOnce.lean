import Kanna.Server.AggregateSteps

/-!
# Aggregate waits return every event once

A watcher that starts without a cursor and goes on with the cursors that it gets has, for each
machine, the events of interest up to the checkpoint in its last cursor: none is left out, none
comes twice, and they are in order. It does not matter how many waits are cut off, fail, are
inherited from an earlier call, are aborted or are lost with their session.

The exception is `from=now` in a later call. A call that finds its session ignores it; one whose
session was evicted takes it over into the new session, although it has a cursor, and a machine
that has no checkpoint yet then starts at the head of its log.
-/

namespace Kanna.TaskEvents

/-- The number of the last event of a machine that the last cursor is past. -/
def State.checkpoint (s : State) (m : String) : ℕ := (s.cursor.bind (durableCursor · m)).getD 0

/-- The calls have the same filters, and the first one is without `from=now`. -/
def Chains (filters : TaskEventFilters) (s : State) (move : Move) : Prop :=
  ∀ query ∈ move.query?, query.filters = filters ∧
    (s.cursor.isNone = true → query.fromNow = false)

/-- A call with `from=now` finds its session. -/
def FindsSession (s : State) (move : Move) : Prop :=
  ∀ query ∈ move.query?, query.fromNow = true → s.stored.isSome = true

instance (filters : TaskEventFilters) (s : State) (move : Move) :
    Decidable (Chains filters s move) :=
  inferInstanceAs (Decidable (∀ query ∈ move.query?, _))

instance (s : State) (move : Move) : Decidable (FindsSession s move) :=
  inferInstanceAs (Decidable (∀ query ∈ move.query?, _))

/-! ### One machine -/

section Exact

variable {world : World} {bound : Option ℕ} {m : String} {asked : Option Query} {now : Prop}
  {log : Log} {keep : TaskEvent → Bool} {entry : Entry} {v v' : View}

/-- The events of an entry are those up to its cursor. -/
structure Entry.Exact (keep : TaskEvent → Bool) (log : Log) (entry : Entry) : Prop where
  events : entry.events = log.between keep 0 (entry.cursor.getD 0)
  le : entry.cursor.getD 0 ≤ log.head

theorem Entry.Exact.append (h : entry.Exact keep log) {event : TaskEvent}
    (hevent : log.head < event.seq) : entry.Exact keep (log.append event hevent) := by
  refine ⟨?_, Nat.le_of_lt (Nat.lt_of_le_of_lt h.le hevent)⟩
  rw [CursorLog.between_append hevent h.le]
  exact h.events

/-- The entry goes on from its cursor. -/
theorem Entry.Exact.extend (h : entry.Exact keep log) {b b' : ℕ} (hbase : entry.cursor.getD 0 = b)
    (hle : b ≤ b') (hhead : b' ≤ log.head) :
    Entry.Exact keep log ⟨some b', entry.events ++ log.between keep b b'⟩ := by
  refine ⟨?_, hhead⟩
  rw [h.events, hbase]
  exact CursorLog.between_trans (Nat.zero_le b) hle

theorem exact_effect {f : TaskEventFilters}
    (hfilters : ∀ entry, v.call = some entry → entry.filters = f) (hnow : ¬now)
    (heffect : Effect world bound m asked now v v')
    (h : v.All (Entry.Exact (world.keeps m f))) : v'.All (Entry.Exact (world.keeps m f)) := by
  refine h.effect heffect (fun _ _ hevent hexact => hexact.append hevent)
    fun entry hcall b b' hexact hbase hle hhead => ?_
  rw [hfilters entry hcall]
  refine hexact.extend ?_ hle hhead
  rcases hbase with hcursor | ⟨hcursor, hzero | hasks⟩
  · rw [hcursor]
    rfl
  · rw [hcursor, hzero]
    rfl
  · exact absurd hasks.1 hnow

end Exact

/-! ### All machines -/

section ExactlyOnce

variable {world : World} {localMachineId unreachable : String} {filters : TaskEventFilters}
  {s s' : State} {move : Move}

/-- No session has `from=now`, and what was returned, or would be by the call in progress, is
exact. -/
structure State.Exact (world : World) (filters : TaskEventFilters) (s : State) : Prop where
  ok : s.Ok world fun _ => none
  fixed : ∀ m entry, (s.view m).call = some entry → entry.filters = filters
  fromNow : ∀ session, s.Has session → session.fromNow = false
  exact : ∀ m, (s.view m).All (Entry.Exact (world.keeps m filters))

theorem pins_none (s : State) (move : Move) : move.Pins (fun _ => none) s := nofun

theorem State.Exact.step (hchains : Chains filters s move) (hfinds : FindsSession s move)
    (hstep : step world localMachineId unreachable s move = some s')
    (h : s.Exact world filters) : s'.Exact world filters := by
  obtain ⟨hok, -, -, hnow, heffect⟩ := steps_step h.ok (pins_none s move) hstep
  refine ⟨hok, fun m entry' hcall' => ?_, fun session hsession => ?_, fun m => ?_⟩
  · rcases (heffect m).filters entry' hcall' with ⟨entry, hcall, heq⟩ | ⟨query, hquery, heq⟩
    · exact heq ▸ h.fixed m entry hcall
    · exact heq ▸ (hchains query hquery).1
  · rcases hnow session hsession with ⟨other, hother, heq⟩ | ⟨hnone, query, hquery, heq⟩
    · rw [← heq]
      exact h.fromNow other hother
    · rw [← heq]
      refine Bool.eq_false_iff.mpr fun hasked => ?_
      have hsome := hfinds query hquery hasked
      rw [hnone] at hsome
      cases hsome
  · refine exact_effect (h.fixed m) (fun hasks => ?_) (heffect m) (h.exact m)
    obtain ⟨call, hcall, hasked⟩ := hasks
    rw [h.fromNow call.session (.inr ⟨call, hcall, rfl⟩)] at hasked
    cases hasked

theorem exact_new (logs : String → Log) : (State.new logs).Exact world filters := by
  refine ⟨ok_state_new logs, fun _ => nofun, ?_, fun m => ⟨⟨?_, Nat.zero_le _⟩, ?_⟩⟩
  · rintro session (hstored | ⟨_, hcall, -⟩)
    · cases hstored
    · cases hcall
  · exact (CursorLog.between_of_le (Nat.le_refl 0)).symm
  · exact nofun

end ExactlyOnce

/-- **Every event comes once.** In every run of calls with the same filters, of which the first is
without `from=now` and those with `from=now` find their session, the events of a machine that were
returned are always those of interest up to its checkpoint. -/
theorem aggregate_waits_exactly_once (world : World) (localMachineId unreachable : String)
    (filters : TaskEventFilters) (logs : String → Log) (moves : List Move)
    (h : Meets (step world localMachineId unreachable)
      (fun s move => Chains filters s move ∧ FindsSession s move) (State.new logs) moves) :
    Always (step world localMachineId unreachable)
      (fun s => ∀ m,
        eventsOf m s.returned = (s.logs m).upTo (world.keeps m filters) (s.checkpoint m))
      (State.new logs) moves := by
  refine always_of_meets (I := State.Exact world filters) (fun hexact m => ?_)
    (fun hexact hguard hstep => hexact.step hguard.1 hguard.2 hstep) (exact_new logs) h
  rw [← CursorLog.between_zero]
  exact (hexact.exact m).stored.events

/-- Every event is in scope. -/
def everything : World := ⟨fun _ _ => true, fun _ taskId => taskId⟩

/-- A watcher of two machines: its first call cuts off the events of the other one, its session is
evicted, and its third call inherits a wait. -/
def resumedWatch : List Move :=
  let query : Query := ⟨⟨[], []⟩, false, false, some 1, true, some ["b"]⟩
  [.append "b" ⟨1, "t", "run.started", ""⟩, .append "b" ⟨2, "t", "run.finished", ""⟩,
    .begin query, .start, .legStart 1, .legRead 1 [] false, .join 1 true true, .finish, .evict,
    .begin query, .start, .legStart 1, .append "b" ⟨3, "t", "task.closed", ""⟩,
    .legRead 1 [] false, .join 1 true true, .finish,
    .begin { query with fromNow := true }, .start, .legStart 1, .legRead 1 [] false,
    .join 1 true true, .finish]

theorem aggregate_waits_exactly_once_resumed :
    (run (step everything "a" "") (State.new fun _ => .empty) resumedWatch).map
        (fun s => (eventsOf "b" s.returned).map TaskEvent.seq) = some [1, 2, 3] ∧
      Always (step everything "a" "")
        (fun s => ∀ m, eventsOf m s.returned =
          (s.logs m).upTo (everything.keeps m ⟨[], []⟩) (s.checkpoint m))
        (State.new fun _ => .empty) resumedWatch :=
  ⟨by decide, aggregate_waits_exactly_once _ "a" "" ⟨[], []⟩ _ resumedWatch (by decide)⟩

/-- **One wait for each machine, and no cursor ahead of its log**, in every run of calls. -/
theorem aggregate_waits_sound (world : World) (localMachineId unreachable : String)
    (logs : String → Log) (moves : List Move) : Always (step world localMachineId unreachable)
      (State.Ok world fun _ => none) (State.new logs) moves :=
  always_of_invariant (fun h hstep => (steps_step h (pins_none _ _) hstep).ok) moves
    (ok_state_new logs)

/-- The first call returns before a machine has answered, its session is evicted, and the second
call has `from=now`. -/
def overtakenWatch : List Move :=
  let query : Query := ⟨⟨[], []⟩, false, false, none, true, some ["b"]⟩
  [.append "b" ⟨1, "t", "run.finished", ""⟩, .begin query, .start, .giveUp, .finish, .evict,
    .begin { query with fromNow := true }, .start, .legStart 1, .legRead 1 [] true,
    .join 1 true false, .finish]

/-- The event from before is left out for good. -/
theorem from_now_skips_retained_events :
    Meets (step everything "a" "") (Chains ⟨[], []⟩) (State.new fun _ => .empty)
        overtakenWatch ∧
      ∃ s, run (step everything "a" "") (State.new fun _ => .empty) overtakenWatch = some s ∧
        eventsOf "b" s.returned = [] ∧
        (s.logs "b").upTo (everything.keeps "b" ⟨[], []⟩) (s.checkpoint "b") =
          [⟨1, "t", "run.finished", ""⟩] :=
  ⟨by decide, _, rfl, by decide, by decide⟩

end Kanna.TaskEvents
