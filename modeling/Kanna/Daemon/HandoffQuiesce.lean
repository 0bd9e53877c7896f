import Kanna.Lib.Run

/-!
# Quiescing the PTY readers for a handoff

`handle_handoff` takes the daemon lifecycle guard for writing, asks every reader to quiesce and
waits until each is quiesced or stopped (`handoff.rs`). A reader whose child has hung up leaves
its loop without setting either flag and asks for the same guard for reading (`output.rs`). The
guard is a fair read-write lock: requests are granted in the order they were made.

* `NoCycle` — the handoff does not wait for a reader that waits for the guard.
* `Lucky` — no child hangs up during a handoff, and none has just done so when it is requested.
-/

namespace Kanna.HandoffQuiesce

/-- The flags of `StreamControl`. -/
structure StreamControl where
  stopRequested : Bool := false
  stopped : Bool := false
  quiesceRequested : Bool := false
  quiesced : Bool := false

/-- `request_stop`. -/
def StreamControl.requestStop (control : StreamControl) : StreamControl :=
  { control with stopRequested := true }

/-- `request_quiesce`. -/
def StreamControl.requestQuiesce (control : StreamControl) : StreamControl :=
  { control with quiesceRequested := true }

/-- `resume`. -/
def StreamControl.resume (control : StreamControl) : StreamControl :=
  { control with quiesceRequested := false }

/-- `mark_stopped`. -/
def StreamControl.markStopped (control : StreamControl) : StreamControl :=
  { control with stopped := true, quiesced := false }

/-- Where `stream_output` stands: in its loop, in the loop of a quiesced reader, past the loop on
the way to the guard, waiting for it, or cleaning up under it. -/
inductive Place where
  | absent
  | reading
  | quiesced
  | left
  | waiting
  | cleaning
  | done
  deriving DecidableEq

/-- A reader. `retired` stands for a session that was retired or has another stream control. -/
structure Reader where
  place : Place := .absent
  control : StreamControl := {}
  retired : Bool := false

/-- The reader was asked to stop, or its session was retired. -/
def Reader.shouldStop (reader : Reader) : Bool := reader.control.stopRequested || reader.retired

/-- The reader ends. -/
def Reader.stop (reader : Reader) : Reader :=
  { reader with place := .done, control := reader.control.markStopped }

/-- How far a handoff is; `granted` and later phases hold the guard. -/
inductive Phase (n : Nat) where
  | idle
  | requesting
  | granted
  | waiting (controls : List (Fin n))
  | transferring (controls : List (Fin n))
  deriving DecidableEq

/-- The handoff holds the guard. -/
def Phase.holds {n : Nat} : Phase n → Bool
  | .idle | .requesting => false
  | .granted | .waiting _ | .transferring _ => true

/-- Who waits for the guard. -/
inductive Waiter (n : Nat) where
  | reader (i : Fin n)
  | handoff

/-- The readers, the sessions of the manager, the requests for the guard in their order, the
readers that hold it, and the handoff. -/
structure State (n : Nat) where
  readers : Fin n → Reader := fun _ => {}
  handles : List (Fin n) := []
  queue : List (Waiter n) := []
  /-- the readers that clean up under the guard -/
  holders : List (Fin n) := []
  phase : Phase n := .idle
  /-- the manager removes no session -/
  sealed : Bool := false
  running : Bool := true

variable {n : Nat}

/-- The steps of the readers, of the guard and of the handoff. -/
inductive Move (n : Nat) where
  | spawn (i : Fin n)
  | kill (i : Fin n)
  | stop (i : Fin n)
  | quiesce (i : Fin n)
  | resume (i : Fin n)
  | hangup (i : Fin n)
  | ask (i : Fin n)
  | grant
  | clean (i : Fin n)
  | request
  | refuse
  | quiesceAll
  | proceed
  | rollback
  | commit

variable (s : State n)

/-- A reader has changed. -/
def State.set (i : Fin n) (reader : Reader) : State n :=
  { s with readers := Function.update s.readers i reader }

/-- The readers, with the controls of the given ones changed by `f`. -/
def mapControls (readers : Fin n → Reader) (is : List (Fin n))
    (f : StreamControl → StreamControl) (i : Fin n) : Reader :=
  if i ∈ is then { readers i with control := f (readers i).control } else readers i

/-- The reader is quiesced or stopped, as the handoff's poll has it. -/
def Reader.settled (reader : Reader) : Bool := reader.control.quiesced || reader.control.stopped

/-- A reader's own moves, and `Spawn` and `Kill`, which hold the guard for reading. -/
def readerStep : Move n → Option (State n)
  | .spawn i =>
    if (s.readers i).place = .absent ∧ s.phase.holds = false then
      some { s.set i { place := .reading } with handles := s.handles ++ [i] }
    else none
  | .kill i =>
    if s.phase.holds = false then
      let control := (s.readers i).control.requestStop
      some { s.set i { s.readers i with retired := true, control } with
        handles := s.handles.filter (· ≠ i) }
    else none
  | .stop i =>
    if ((s.readers i).place = .reading ∨ (s.readers i).place = .quiesced) ∧
        (s.readers i).shouldStop then
      some (s.set i (s.readers i).stop)
    else none
  | .quiesce i =>
    -- the input that was pending has been written
    if (s.readers i).place = .reading ∧ (s.readers i).control.quiesceRequested then
      let control := { (s.readers i).control with quiesced := true }
      some (s.set i { s.readers i with place := .quiesced, control })
    else none
  | .resume i =>
    if (s.readers i).place = .quiesced ∧ (s.readers i).control.quiesceRequested = false then
      let control := { (s.readers i).control with quiesced := false }
      some (s.set i { s.readers i with place := .reading, control })
    else none
  | .hangup i =>
    if (s.readers i).place = .reading then some (s.set i { s.readers i with place := .left })
    else none
  | .ask i =>
    if (s.readers i).place = .left then
      if (s.readers i).shouldStop then some (s.set i (s.readers i).stop)
      else
        some { s.set i { s.readers i with place := .waiting } with
          queue := s.queue ++ [.reader i] }
    else none
  | .clean i =>
    if i ∈ s.holders then
      let rest := { s.set i (s.readers i).stop with holders := s.holders.filter (· ≠ i) }
      if s.running = false ∨ (s.readers i).shouldStop then some rest
      -- a sealed manager parks the reader
      else if s.sealed then none
      else some { rest with handles := s.handles.filter (· ≠ i) }
    else none
  | _ => none

/-- The first request is granted as soon as the lock allows it. -/
def grantStep : Option (State n) :=
  match s.queue with
  | .reader i :: rest =>
    if s.phase.holds then none
    else some { s.set i { s.readers i with place := .cleaning } with
      queue := rest, holders := s.holders ++ [i] }
  | .handoff :: rest =>
    if s.holders = [] then some { s with queue := rest, phase := .granted } else none
  | [] => none

/-- `handle_handoff`. A poll that finds every reader settled goes on to the transfer; one that
runs out of time, or a transfer that fails, rolls back. -/
def handoffStep : Move n → Option (State n)
  | .request =>
    if s.phase = .idle then some { s with phase := .requesting, queue := s.queue ++ [.handoff] }
    else none
  | .refuse => if s.phase = .granted then some { s with phase := .idle } else none
  | .quiesceAll =>
    if s.phase = .granted ∧ s.running then
      some { s with
        readers := mapControls s.readers s.handles (·.requestQuiesce)
        sealed := true
        phase := .waiting s.handles }
    else none
  | .proceed =>
    match s.phase with
    | .waiting controls =>
      if ∀ i ∈ controls, (s.readers i).settled then some { s with phase := .transferring controls }
      else none
    | _ => none
  | .rollback =>
    match s.phase with
    | .waiting controls | .transferring controls =>
      some { s with
        readers := mapControls s.readers controls (·.resume)
        sealed := false
        phase := .idle }
    | _ => none
  | .commit =>
    match s.phase with
    | .transferring controls =>
      some { s with
        readers := mapControls s.readers controls (·.requestStop)
        running := false
        phase := .idle }
    | _ => none
  | _ => none

/-- One step, if it is enabled. -/
def step : Move n → Option (State n)
  | .grant => grantStep s
  | a => (readerStep s a).or (handoffStep s a)

/-- The handoff does not wait for a reader that waits for the guard the handoff holds. -/
def NoCycle : Prop :=
  ∀ controls, s.phase = .waiting controls → ∀ i ∈ controls,
    (s.readers i).settled = false → (s.readers i).place ≠ .waiting

/-- A child hangs up while no handoff is under way, and a handoff is requested while no reader is
between its loop and the guard. -/
def Lucky : Move n → Prop
  | .hangup _ => s.phase = .idle
  | .request => ∀ i, (s.readers i).place ≠ .left
  | _ => True

instance (s : State n) : (a : Move n) → Decidable (Lucky s a)
  | .hangup _ => inferInstanceAs (Decidable (s.phase = .idle))
  | .request => inferInstanceAs (Decidable (∀ i, (s.readers i).place ≠ .left))
  | .spawn _ | .kill _ | .stop _ | .quiesce _ | .resume _ | .ask _ | .grant | .clean _ | .refuse
  | .quiesceAll | .proceed | .rollback | .commit => .isTrue trivial

/-! ### The invariant -/

/-- A reader that waits for the guard has its request in the queue; during a handoff no reader is
on its way to the guard; the handoff's request is the last one, and once it is granted there is
none. -/
structure Inv (s : State n) : Prop where
  queued : ∀ i, (s.readers i).place = .waiting → .reader i ∈ s.queue
  none_left : s.phase ≠ .idle → ∀ i, (s.readers i).place ≠ .left
  last : ∀ before after, s.queue = before ++ .handoff :: after → after = [] ∧ s.phase = .requesting
  alone : s.phase.holds = true → s.queue = []

variable {s s' : State n}

open List

/-- **The handoff waits for no reader that waits for it**: there is no request left. -/
theorem Inv.noCycle (hI : Inv s) : NoCycle s := by
  intro controls hphase i _ _ hwaiting
  have hmem := hI.queued i hwaiting
  rw [hI.alone (by rw [hphase]; rfl)] at hmem
  exact not_mem_nil hmem

theorem mapControls_place (readers : Fin n → Reader) (is : List (Fin n))
    (f : StreamControl → StreamControl) (i : Fin n) :
    (mapControls readers is f i).place = (readers i).place := by
  unfold mapControls
  split <;> rfl

variable (hI : Inv s) {handles holders : List (Fin n)} {isSealed isRunning : Bool}

include hI

/-- One reader moves to a place where it does not wait; the requests and the phase stay. -/
theorem Inv.set {i : Fin n} {reader : Reader} (hplace : reader.place = (s.readers i).place ∨
      reader.place ≠ .waiting ∧ (reader.place = .left → s.phase = .idle)) :
    Inv ⟨Function.update s.readers i reader, handles, s.queue, holders, s.phase, isSealed,
      isRunning⟩ := by
  have hplaces := (Function.forall_update_iff s.readers fun j (reader : Reader) =>
    reader.place = (s.readers j).place ∨
      reader.place ≠ .waiting ∧ (reader.place = .left → s.phase = .idle)).mpr
    ⟨hplace, fun _ _ => .inl rfl⟩
  refine ⟨fun j hwaiting => ?_, fun hbusy j hleft => ?_, hI.last, hI.alone⟩
  · obtain hsame | ⟨hne, -⟩ := hplaces j
    · exact hI.queued j (hsame ▸ hwaiting)
    · exact absurd hwaiting hne
  · obtain hsame | ⟨-, hidle⟩ := hplaces j
    · exact hI.none_left hbusy j (hsame ▸ hleft)
    · exact hbusy (hidle hleft)

/-- A handoff that holds the guard goes on or ends. -/
theorem Inv.phase {readers : Fin n → Reader} {phase : Phase n} (hheld : s.phase.holds = true)
    (hplace : ∀ i, (readers i).place = (s.readers i).place) :
    Inv ⟨readers, handles, s.queue, holders, phase, isSealed, isRunning⟩ := by
  have hempty := hI.alone hheld
  have hbusy : s.phase ≠ .idle := by
    rintro hidle
    rw [hidle] at hheld
    cases hheld
  refine ⟨fun i hwaiting => hI.queued i (hplace i ▸ hwaiting),
    fun _ i => hplace i ▸ hI.none_left hbusy i, ?_, fun _ => hempty⟩
  intro before after hsplit
  rw [hempty] at hsplit
  exact absurd hsplit.symm (append_ne_nil_of_right_ne_nil _ (cons_ne_nil _ _))

/-- A reader asks while no handoff is under way, so its request is not behind one. -/
theorem Inv.ask {i : Fin n} (hleft : (s.readers i).place = .left) :
    Inv { s.set i { s.readers i with place := .waiting } with
      queue := s.queue ++ [.reader i] } := by
  have hidle : s.phase = .idle := by
    by_contra hbusy
    exact hI.none_left hbusy i hleft
  refine ⟨fun j hwaiting => ?_, fun hbusy => absurd hidle hbusy, fun before after hsplit => ?_,
    fun hheld => ?_⟩
  · by_cases hj : j = i
    · exact mem_append_right _ (by rw [hj]; exact mem_singleton_self _)
    · refine mem_append_left _ (hI.queued j ?_)
      simpa [State.set, Function.update_of_ne hj] using hwaiting
  · -- an older handoff request would mean that one is under way
    obtain ⟨mid, -, hqueue⟩ | ⟨mid, hqueue, hlast⟩ := append_eq_append_iff.mp hsplit
    · have := congrArg getLast? hqueue
      cases mid <;> simp_all
    · cases mid with
      | nil => simp at hlast
      | cons first mid =>
        obtain ⟨-, hphase⟩ := hI.last before mid (by simp_all)
        rw [hidle] at hphase
        cases hphase
  · have hheld : s.phase.holds = true := hheld
    rw [hidle] at hheld
    cases hheld

theorem Inv.request (hnone : ∀ i, (s.readers i).place ≠ .left) (hidle : s.phase = .idle) :
    Inv { s with phase := .requesting, queue := s.queue ++ [.handoff] } := by
  refine ⟨fun i hwaiting => mem_append_left _ (hI.queued i hwaiting), fun _ => hnone,
    fun before after hsplit => ⟨?_, rfl⟩, nofun⟩
  obtain rfl | ⟨rest, last, rfl⟩ := eq_nil_or_concat' after
  · rfl
  · have hsplit : s.queue ++ [.handoff] = (before ++ .handoff :: rest) ++ [last] := by
      simpa using hsplit
    obtain ⟨hqueue, -⟩ := append_inj' hsplit rfl
    obtain ⟨-, hphase⟩ := hI.last before rest hqueue
    rw [hidle] at hphase
    cases hphase

theorem Inv.grant (hstep : grantStep s = some s') : Inv s' := by
  unfold grantStep at hstep
  split at hstep
  next i rest hqueue =>
    obtain ⟨hfree, hstep⟩ := of_exit hstep
    cases hstep
    refine ⟨fun j hwaiting => ?_, fun hbusy j => ?_, fun before after hsplit => ?_,
      fun hheld => absurd hheld hfree⟩
    · by_cases hj : j = i
      · subst hj
        simp [State.set] at hwaiting
      · have hmem := hI.queued j (by simpa [State.set, Function.update_of_ne hj] using hwaiting)
        rw [hqueue] at hmem
        exact (mem_cons.mp hmem).resolve_left fun h => hj (Waiter.reader.inj h)
    · by_cases hj : j = i
      · subst hj
        simp [State.set]
      · simpa [State.set, Function.update_of_ne hj] using hI.none_left hbusy j
    · have hrest : rest = before ++ .handoff :: after := hsplit
      exact hI.last (.reader i :: before) after (by rw [hqueue, hrest]; rfl)
  next rest hqueue =>
    split at hstep
    · cases hstep
      -- the request was the last one
      obtain ⟨rfl, hphase⟩ := hI.last [] rest hqueue
      have hbusy : s.phase ≠ .idle := by
        rw [hphase]
        nofun
      refine ⟨fun i hwaiting => ?_, fun _ => hI.none_left hbusy, fun before after hsplit => ?_,
        fun _ => rfl⟩
      · have hmem := hI.queued i hwaiting
        rw [hqueue] at hmem
        simp at hmem
      · simp at hsplit
    · cases hstep
  · cases hstep

variable {a : Move n}

theorem Inv.readerStep (hlucky : Lucky s a) (hstep : readerStep s a = some s') : Inv s' := by
  cases a <;> simp only [HandoffQuiesce.readerStep, reduceCtorEq] at hstep
  case ask i =>
    split_ifs at hstep with hleft
    · cases hstep
      exact hI.set (.inr ⟨nofun, nofun⟩)
    · cases hstep
      exact hI.ask hleft
  case hangup i =>
    split_ifs at hstep
    cases hstep
    exact hI.set (.inr ⟨nofun, fun _ => hlucky⟩)
  case kill i =>
    split_ifs at hstep
    cases hstep
    exact hI.set (.inl rfl)
  -- the other moves lead to a place off the way to the guard
  all_goals
    split_ifs at hstep <;> cases hstep <;> exact hI.set (.inr ⟨nofun, nofun⟩)

theorem Inv.handoffStep (hlucky : Lucky s a) (hstep : handoffStep s a = some s') : Inv s' := by
  cases a <;> simp only [HandoffQuiesce.handoffStep, reduceCtorEq] at hstep
  case request =>
    split_ifs at hstep with hidle
    cases hstep
    exact hI.request hlucky hidle
  case refuse =>
    split_ifs at hstep with hgranted
    cases hstep
    exact hI.phase (by rw [hgranted]; rfl) fun _ => rfl
  case quiesceAll =>
    split_ifs at hstep with hgranted
    cases hstep
    exact hI.phase (by rw [hgranted.1]; rfl) (mapControls_place _ _ _)
  case proceed =>
    split at hstep
    next controls hwaiting =>
      split_ifs at hstep
      cases hstep
      exact hI.phase (by rw [hwaiting]; rfl) fun _ => rfl
    · cases hstep
  case rollback =>
    split at hstep
    next controls hwaiting =>
      cases hstep
      exact hI.phase (by rw [hwaiting]; rfl) (mapControls_place _ _ _)
    next controls htransferring =>
      cases hstep
      exact hI.phase (by rw [htransferring]; rfl) (mapControls_place _ _ _)
    · cases hstep
  case commit =>
    split at hstep
    next controls htransferring =>
      cases hstep
      exact hI.phase (by rw [htransferring]; rfl) (mapControls_place _ _ _)
    · cases hstep

omit hI

theorem inv_step (hI : Inv s) (hlucky : Lucky s a) (hstep : step s a = some s') : Inv s' := by
  by_cases hgrant : a = .grant
  · subst hgrant
    exact hI.grant hstep
  · have hor : (readerStep s a).or (handoffStep s a) = some s' := by
      cases a <;> first | exact hstep | exact absurd rfl hgrant
    obtain hreader | ⟨-, hhandoff⟩ := Option.or_eq_some_iff.mp hor
    · exact hI.readerStep hlucky hreader
    · exact hI.handoffStep hlucky hhandoff

/-- **No cycle without an unlucky hangup.** Over any number of readers and every interleaving: if
no child hangs up during a handoff, and none has just hung up when one is requested, the handoff
never waits for a reader that waits for the guard the handoff holds. -/
theorem no_cycle (moves : List (Move n)) (hlucky : Meets step Lucky ({} : State n) moves) :
    Always step NoCycle ({} : State n) moves := by
  have hinit : Inv ({} : State n) :=
    ⟨nofun, fun hbusy => absurd rfl hbusy, fun before after hsplit => by simp at hsplit, nofun⟩
  exact always_of_meets Inv.noCycle inv_step hinit hlucky

/-- A reader quiesces for a handoff that is rolled back; then its child hangs up. -/
def orderly : List (Move 1) :=
  [.spawn 0, .request, .grant, .quiesceAll, .quiesce 0, .proceed, .rollback, .resume 0, .hangup 0,
    .ask 0, .grant, .clean 0]

theorem no_cycle_orderly :
    Meets step Lucky ({} : State 1) orderly ∧ Always step NoCycle ({} : State 1) orderly := by
  have hlucky : Meets step Lucky ({} : State 1) orderly := by decide
  exact ⟨hlucky, no_cycle orderly hlucky⟩

/-- **A hangup closes the cycle**: the reader leaves its loop while the handoff waits for it. -/
theorem hangup_cycle :
    ¬ ∀ (n : Nat) (moves : List (Move n)), Always step NoCycle ({} : State n) moves := by
  intro h
  have hrun : (run step ({} : State 1)
      [.spawn 0, .request, .grant, .quiesceAll, .hangup 0, .ask 0]).map
      (fun s => (s.phase, (s.readers 0).settled, (s.readers 0).place)) =
      some (.waiting [0], false, .waiting) := by decide
  obtain ⟨s, hs, hfields⟩ := Option.map_eq_some_iff.mp hrun
  obtain ⟨hphase, hsettled, hplace⟩ := by simpa only [Prod.mk.injEq] using hfields
  exact (h 1 _).last hs [0] hphase 0 (mem_singleton_self _) hsettled hplace

end Kanna.HandoffQuiesce
