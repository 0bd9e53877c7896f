import Kanna.Lib.Retries

/-!
# Work items of the transfer engine

`transfer_engine/push.rs` and `transfer_engine/import.rs`: each handler runs as the attempts of
one work item, and a crash may come between any two of its steps. A step that must run once
claims a phase before its effect, and an attempt that finds the phase claimed skips the effect.

* `outgoing_completed_closed` — a commit item completes its transfer and marks the receipt only
  with the source task closed, if no attempt stops between the claim and the end of the close.
* `incoming_completed_acknowledged` — likewise for an import and its acknowledgment.
* `push_leaves_no_active_row` — a push that settles unaccepted leaves no active row, if no
  attempt stops at the commit request.

Without the conditions they fail (`outgoing_completed_open`, `incoming_completed_unheard`,
`push_leaves_active_row`).
-/

namespace Kanna.TransferWork

open Retries Item

/-- How an operation of a step ends. -/
inductive Outcome where
  | ok
  | error
  /-- the close reports an error and the task is closed -/
  | errorClosed
  /-- no retry of the import can succeed -/
  | terminal
  deriving DecidableEq

/-- `MAX_TRANSFER_WORK_ATTEMPTS`. -/
def maxTransferWorkAttempts : ℕ := 8

/-- The statuses of an outgoing `task_transfer`. -/
inductive OutgoingStatus where
  | pending
  | streaming
  | completed
  | rejected
  | failed
  deriving DecidableEq

/-- `ACTIVE_OUTGOING_TRANSFER_STATUSES`. -/
def OutgoingStatus.active : OutgoingStatus → Bool
  | .pending | .streaming => true
  | _ => false

/-! ### The commit of an outgoing transfer -/

/-- What `outgoing_committed` reads and writes: the row, `closed_at` of the source task, the
phase `source-task-close` and the receipt. -/
structure Commit where
  row : OutgoingStatus
  closed : Bool
  phase : Bool
  applied : Bool
  deriving DecidableEq

/-- What `outgoing_committed` does, in its order. -/
inductive CommitStep where
  | load
  | claimPhase
  | close
  | readClosed
  | release
  | complete
  | apply
  deriving DecidableEq

/-- `outgoing_committed`, for a row that exists. -/
def outgoingCommitted (s : Commit) : CommitStep → Outcome → Commit × Next CommitStep
  | .load, .ok => (s, .goto .claimPhase)
  | .claimPhase, .ok =>
    if s.phase then (s, .goto .complete) else ({ s with phase := true }, .goto .close)
  | .close, .ok => ({ s with closed := true }, .goto .complete)
  | .close, .errorClosed => ({ s with closed := true }, .goto .readClosed)
  | .close, _ => (s, .goto .readClosed)
  | .readClosed, .ok => if s.closed then (s, .goto .complete) else (s, .goto .release)
  | .release, .ok => ({ s with phase := false }, .finish false)
  | .complete, .ok =>
    if s.row.active || s.row = .completed then ({ s with row := .completed }, .goto .apply)
    else (s, .finish false)
  | .apply, .ok => ({ s with applied := true }, .finish true)
  | _, _ => (s, .finish false)

/-- The work item of a committed push. -/
def commitWork : Handler Commit CommitStep Outcome :=
  ⟨.load, outgoingCommitted, maxTransferWorkAttempts⟩

/-- What is completed or marked applied has its source task closed. -/
def CompletedClosed (item : Item Commit CommitStep) : Prop :=
  item.store.row = .completed ∨ item.store.applied = true → item.store.closed = true

/-- The phase `source-task-close`. -/
def closePhase : Phase Commit CommitStep where
  claimed s := s.phase
  effect s := s.closed
  finished s := s.row = .completed || s.applied
  acts place := place = .close
  undoes place := place = .readClosed || place = .release
  past place := place = .complete || place = .apply

variable {outcome : Outcome}

theorem closePhase_exec {s : Commit} {place : CommitStep}
    (hG : closePhase.undoes place → outcome = .ok) (h : closePhase.Ok (some place) s) :
    closePhase.Ok (outgoingCommitted s place outcome).2.place
      (outgoingCommitted s place outcome).1 := by
  obtain ⟨hdone, hphase, hpast⟩ := h
  simp only [closePhase, Option.mem_some_iff, exists_eq_left', forall_eq'] at *
  fun_cases outgoingCommitted s place outcome
  all_goals constructor <;> grind -ring -linarith -lia [Next.place]

/-- **Completed with the task closed.** -/
theorem outgoing_completed_closed {s : Commit} (hrow : s.row ≠ .completed)
    (hphase : s.phase = false) (happlied : s.applied = false) {moves : List (Move Outcome)}
    (hmeets : Meets (step commitWork) (closePhase.Settles .ok) (Item.new s) moves) :
    Always (step commitWork) CompletedClosed (Item.new s) moves := by
  refine always_of_phase (fun h => ?_) rfl closePhase_exec hphase ?_ hmeets
  · simpa [closePhase, CompletedClosed] using h
  · simp [closePhase, hrow, happlied]

/-- A transfer that is out, with its source task open. -/
def Commit.out : Commit := ⟨.streaming, false, false, false⟩

theorem outgoing_completed_closed_retried :
    let moves := [.claim, .perform .ok, .perform .ok, .perform .error, .perform .ok, .perform .ok,
      .claim, .perform .ok, .perform .ok, .perform .ok, .crash, .claim, .perform .ok, .perform .ok,
      .perform .ok, .perform .ok]
    Commit.out.row ≠ .completed ∧ Commit.out.phase = false ∧ Commit.out.applied = false ∧
      Meets (step commitWork) (closePhase.Settles .ok) (new Commit.out) moves ∧
      Always (step commitWork) CompletedClosed (new Commit.out) moves :=
  ⟨by decide, rfl, rfl, by decide, outgoing_completed_closed (by decide) rfl rfl (by decide)⟩

/-- A crash right after the claim: the next attempt skips the close. -/
theorem outgoing_completed_open : ¬ ∀ moves : List (Move Outcome),
    Always (step commitWork) CompletedClosed (Item.new Commit.out) moves := by
  intro h
  have hrun : run (step commitWork) (new Commit.out) [.claim, .perform .ok, .perform .ok,
      .crash, .claim, .perform .ok, .perform .ok, .perform .ok, .perform .ok] =
      some ⟨.done, 2, none, ⟨.completed, false, true, true⟩⟩ := by decide
  cases (h _).last hrun (.inl rfl)

/-! ### An import -/

/-- The statuses of an incoming `task_transfer`. -/
inductive IncomingStatus where
  | pending
  | claimed
  | importing
  | awaitingAcknowledgment
  | completed
  | rejected
  | failed
  deriving DecidableEq

/-- The transfer is over. -/
def IncomingStatus.terminal : IncomingStatus → Bool
  | .completed | .rejected | .failed => true
  | _ => false

/-- What `run_import` reads and writes: the row, whether it names a local task, the phase
`acknowledge-import`, and whether `acknowledge_import_committed` has returned success. -/
structure Import where
  row : IncomingStatus
  localTask : Bool
  phase : Bool
  acknowledged : Bool
  deriving DecidableEq

/-- What `import_transfer` does, in its order. -/
inductive ImportStep where
  | load
  | claim
  | parse
  | finalizeFromSource
  | createTask
  | markImporting
  | identify
  | markAwaiting
  | claimPhase
  | acknowledge
  | release
  | complete
  | refuse
  | releaseReservation
  deriving DecidableEq

/-- `import_transfer` and `run_import`. -/
def importTransfer (s : Import) : ImportStep → Outcome → Import × Next ImportStep
  | .load, .ok => if s.row.terminal then (s, .finish true) else (s, .goto .claim)
  | .claim, .ok =>
    if s.row = .pending then ({ s with row := .claimed }, .goto .parse) else (s, .goto .parse)
  | .parse, .ok => if s.localTask then (s, .goto .identify) else (s, .goto .finalizeFromSource)
  | .finalizeFromSource, .ok => (s, .goto .createTask)
  | .createTask, .ok => (s, .goto .markImporting)
  | .parse, .terminal | .finalizeFromSource, .terminal | .createTask, .terminal =>
    (s, .goto .refuse)
  | .markImporting, .ok =>
    if s.row = .claimed || s.row = .importing && s.localTask then
      ({ s with row := .importing, localTask := true }, .goto .identify)
    else (s, .finish false)
  | .identify, .ok => (s, .goto .markAwaiting)
  | .markAwaiting, .ok =>
    if s.row = .importing || s.row = .awaitingAcknowledgment then
      ({ s with row := .awaitingAcknowledgment }, .goto .claimPhase)
    else (s, .finish false)
  | .claimPhase, .ok =>
    if s.phase then (s, .goto .complete) else ({ s with phase := true }, .goto .acknowledge)
  | .acknowledge, .ok => ({ s with acknowledged := true }, .goto .complete)
  | .acknowledge, _ => (s, .goto .release)
  | .release, .ok => ({ s with phase := false }, .finish false)
  | .complete, .ok =>
    if s.row = .awaitingAcknowledgment || s.row = .completed then
      ({ s with row := .completed }, .goto .releaseReservation)
    else (s, .finish false)
  | .refuse, .ok =>
    if s.row.terminal then (s, .goto .releaseReservation)
    else ({ s with row := .failed }, .goto .releaseReservation)
  | .releaseReservation, .ok => (s, .finish true)
  | _, _ => (s, .finish false)

/-- The work item of an import. -/
def importWork : Handler Import ImportStep Outcome :=
  ⟨.load, importTransfer, maxTransferWorkAttempts⟩

/-- What is completed was acknowledged. -/
def CompletedAcknowledged (item : Item Import ImportStep) : Prop :=
  item.store.row = .completed → item.store.acknowledged = true

/-- The phase `acknowledge-import`. -/
def acknowledgePhase : Phase Import ImportStep where
  claimed s := s.phase
  effect s := s.acknowledged
  finished s := s.row = .completed
  acts place := place = .acknowledge
  undoes place := place = .release
  past place := place = .complete

theorem acknowledgePhase_exec {s : Import} {place : ImportStep}
    (hG : acknowledgePhase.undoes place → outcome = .ok) (h : acknowledgePhase.Ok (some place) s) :
    acknowledgePhase.Ok (importTransfer s place outcome).2.place
      (importTransfer s place outcome).1 := by
  obtain ⟨hdone, hphase, hpast⟩ := h
  simp only [acknowledgePhase, Option.mem_some_iff, exists_eq_left', forall_eq'] at *
  fun_cases importTransfer s place outcome
  all_goals constructor <;> grind -ring -linarith -lia [Next.place]

/-- **Completed and acknowledged.** -/
theorem incoming_completed_acknowledged {s : Import} (hrow : s.row ≠ .completed)
    (hphase : s.phase = false) {moves : List (Move Outcome)}
    (hmeets : Meets (step importWork) (acknowledgePhase.Settles .ok) (Item.new s) moves) :
    Always (step importWork) CompletedAcknowledged (Item.new s) moves := by
  refine always_of_phase (fun h => ?_) rfl acknowledgePhase_exec hphase ?_ hmeets
  · simpa [acknowledgePhase, CompletedAcknowledged] using h
  · simp [acknowledgePhase, hrow]

/-- A transfer that was imported and whose acknowledgment is due. -/
def Import.imported : Import := ⟨.awaitingAcknowledgment, true, false, false⟩

/-- An attempt at it, up to the claim of the phase. -/
def upToPhase : List (Move Outcome) := .claim :: List.replicate 6 (.perform .ok)

theorem incoming_completed_acknowledged_retried :
    let moves := upToPhase ++ [.perform .error, .perform .ok] ++ upToPhase ++
      [.perform .ok, .crash] ++ upToPhase ++ [.perform .ok, .perform .ok]
    Import.imported.row ≠ .completed ∧ Import.imported.phase = false ∧
      Meets (step importWork) (acknowledgePhase.Settles .ok) (new Import.imported) moves ∧
      Always (step importWork) CompletedAcknowledged (new Import.imported) moves :=
  ⟨by decide, rfl, by decide, incoming_completed_acknowledged (by decide) rfl (by decide)⟩

/-- A crash right after the claim: the next attempt completes what the source never heard of. -/
theorem incoming_completed_unheard : ¬ ∀ moves : List (Move Outcome),
    Always (step importWork) CompletedAcknowledged (Item.new Import.imported) moves := by
  intro h
  have hrun : run (step importWork) (new Import.imported)
      (upToPhase ++ [.crash] ++ upToPhase ++ [.perform .ok, .perform .ok]) =
      some ⟨.done, 2, none, ⟨.completed, true, true, false⟩⟩ := by decide
  cases (h _).last hrun rfl

/-! ### A push -/

/-- What `run_push` reads and writes: whether the source task is closed, its outgoing rows, and
whether the sidecar accepted a commit. -/
structure Push where
  closed : Bool
  rows : List OutgoingStatus
  accepted : Bool
  deriving DecidableEq

/-- `active_outgoing_transfer_for_source` finds a row. -/
def Push.active (s : Push) : Bool := s.rows.any (·.active)

/-- What `push_task` does, in its order. -/
inductive PushStep where
  | load
  | eligibility
  | repo
  | plan
  | report
  | identity
  | preflight
  | stage
  | insert
  | commit
  deriving DecidableEq

/-- `push_task`: `run_push`, and `report_terminal_push` where the plan fails. Releasing the
reservation concerns the sidecar alone. -/
def pushTask (s : Push) : PushStep → Outcome → Push × Next PushStep
  | .load, .ok => if s.closed then (s, .finish true) else (s, .goto .eligibility)
  | .eligibility, .ok => if s.active then (s, .finish true) else (s, .goto .repo)
  | .repo, .ok => (s, .goto .plan)
  | .plan, .ok => (s, .goto .identity)
  | .plan, _ => (s, .goto .report)
  | .report, .ok => ({ s with rows := .failed :: s.rows }, .finish true)
  | .identity, .ok => (s, .goto .preflight)
  | .preflight, .ok => (s, .goto .stage)
  | .stage, .ok => (s, .goto .insert)
  | .insert, .ok =>
    if s.active then (s, .finish false)
    else ({ s with rows := .pending :: s.rows }, .goto .commit)
  | .commit, .ok => ({ s with accepted := true }, .finish true)
  | _, _ => (s, .finish false)

/-- The work item of a push. -/
def pushWork : Handler Push PushStep Outcome := ⟨.load, pushTask, maxTransferWorkAttempts⟩

/-- A push that settled unaccepted leaves no active row. -/
def NothingLeft (item : Item Push PushStep) : Prop :=
  item.status = .done ∨ item.status = .failed → item.store.accepted = false →
    item.store.active = false

/-- Every commit request that is made is accepted. -/
def CommitAccepted (item : Item Push PushStep) (move : Move Outcome) : Prop :=
  item.place = some .commit → move = .perform .ok

instance (item : Item Push PushStep) (move : Move Outcome) :
    Decidable (CommitAccepted item move) := inferInstanceAs (Decidable (_ → _))

/-- An active row is one that was accepted, or whose commit is being requested. -/
def Push.Ok (place : Option PushStep) (s : Push) : Prop :=
  place ≠ some .commit → s.accepted = false → s.active = false

theorem Push.Ok.exec {s : Push} {place : PushStep} (h : Push.Ok (some place) s)
    (hG : place = .commit → outcome = .ok) :
    Push.Ok (pushTask s place outcome).2.place (pushTask s place outcome).1 := by
  fun_cases pushTask s place outcome
  all_goals simp_all [Push.Ok, Push.active, Next.place, OutgoingStatus.active]

/-- **No row is left.** -/
theorem push_leaves_no_active_row {s : Push} (hrows : s.active = false)
    {moves : List (Move Outcome)}
    (hmeets : Meets (step pushWork) CommitAccepted (Item.new s) moves) :
    Always (step pushWork) NothingLeft (Item.new s) moves := by
  refine always_of_handler (J := Push.Ok) ?_ ?_ ?_ ?_ (fun _ _ => hrows) hmeets
  · intro item hrunning h hsettled
    refine h fun hplace => ?_
    rw [hrunning (by simp [hplace])] at hsettled
    simp at hsettled
  · intro s h _
    exact h (by simp)
  · intro item place outcome hplace hG h
    refine h.exec fun hcommit => ?_
    simpa using hG (hcommit ▸ hplace)
  · intro item place hplace hG h _
    refine h fun hcommit => ?_
    cases hG (hplace.trans hcommit)

/-- An attempt up to its commit request. -/
def upToCommit : List (Move Outcome) := .claim :: List.replicate 8 (.perform .ok)

theorem push_leaves_no_active_row_accepted :
    let moves := [.claim, .perform .ok, .crash] ++ upToCommit ++ [.perform .ok]
    Push.active ⟨false, [.failed], false⟩ = false ∧
      Meets (step pushWork) CommitAccepted (new ⟨false, [.failed], false⟩) moves ∧
      Always (step pushWork) NothingLeft (new ⟨false, [.failed], false⟩) moves :=
  ⟨rfl, by decide, push_leaves_no_active_row rfl (by decide)⟩

/-- A refused commit: the next attempt finds the row of the first and skips the push. -/
theorem push_leaves_active_row : ¬ ∀ moves : List (Move Outcome),
    Always (step pushWork) NothingLeft (Item.new ⟨false, [], false⟩) moves := by
  intro h
  have hrun : run (step pushWork) (new ⟨false, [], false⟩)
      (upToCommit ++ [.perform .error, .claim, .perform .ok, .perform .ok]) =
      some ⟨.done, 2, none, ⟨false, [.pending], false⟩⟩ := by decide
  cases (h _).last hrun (.inl rfl) rfl

end Kanna.TransferWork
