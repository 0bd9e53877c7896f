import Kanna.Lib.Run

/-!
# Settled transfers

`db/transfers.rs`: an operation on a row of `task_transfer` is one conditional update, and the
engine and the HTTP routes may issue any of them at any time.
`mark_task_transfer_rejected` has no condition on the status, and `report_exhausted_work` records
a cleanup whose call failed.
-/

namespace Kanna.TransferRows

/-- The column `direction`. -/
inductive Direction where
  | incoming
  | outgoing
  | other (text : String)
  deriving DecidableEq

/-- The column `status`. -/
inductive Status where
  | pending
  | streaming
  | claimed
  | importing
  | awaitingAcknowledgment
  | completed
  | rejected
  | failed
  | other (text : String)
  deriving DecidableEq

/-- `('completed', 'rejected', 'failed')`. -/
def settled : List Status := [.completed, .rejected, .failed]

/-- The columns that the updates read and write. -/
structure Row where
  direction : Direction
  status : Status
  localTaskId : Option String
  claimOwnerToken : Option String
  /-- `sidecar_cleanup_completed_at` is set -/
  cleanedUp : Bool

/-! ### The updates, `none` where no row is affected -/

variable (row : Row)

/-- `mark_task_transfer_completed`; no value is equal to `NULL`. -/
def markTaskTransferCompleted (localTaskId : String)
    (claimOwnerToken : Option String) : Option Row :=
  if row.direction = .outgoing ∧ (row.status ∈ [.pending, .streaming] ∨
        row.status = .completed ∧ row.localTaskId = some localTaskId) ∨
      row.direction = .incoming ∧ row.localTaskId = some localTaskId ∧ claimOwnerToken.isSome ∧
        row.claimOwnerToken = claimOwnerToken ∧
        row.status ∈ [.awaitingAcknowledgment, .completed] then
    some { row with status := .completed, localTaskId := some localTaskId }
  else none

/-- `mark_incoming_transfer_importing`. -/
def markIncomingTransferImporting (localTaskId claimOwnerToken : String) : Option Row :=
  if row.direction = .incoming ∧ row.claimOwnerToken = some claimOwnerToken ∧
      (row.status = .claimed ∨ row.status = .importing ∧ row.localTaskId = some localTaskId) then
    some { row with status := .importing, localTaskId := some localTaskId }
  else none

/-- `mark_incoming_transfer_awaiting_acknowledgment`. -/
def markIncomingTransferAwaitingAcknowledgment (localTaskId claimOwnerToken : String) :
    Option Row :=
  if row.direction = .incoming ∧ row.localTaskId = some localTaskId ∧
      row.claimOwnerToken = some claimOwnerToken ∧
      row.status ∈ [.importing, .awaitingAcknowledgment] then
    some { row with status := .awaitingAcknowledgment }
  else none

/-- `mark_task_transfer_rejected`. -/
def markTaskTransferRejected : Option Row := some { row with status := .rejected }

/-- `claim_pending_incoming_transfer`. -/
def claimPendingIncomingTransfer (ownerToken : String) (recovery : Bool) : Option Row :=
  if row.direction = .incoming ∧ (row.status = .pending ∨ recovery = true ∧
      row.status ∈ [.claimed, .importing, .awaitingAcknowledgment]) then
    some { row with
      status := if row.status = .pending then .claimed else row.status
      claimOwnerToken := some ownerToken }
  else none

/-- `fail_pending_incoming_transfer`. -/
def failPendingIncomingTransfer (claimOwnerToken : Option String) : Option Row :=
  if row.direction = .incoming ∧ row.claimOwnerToken = claimOwnerToken ∧
      row.status = (if claimOwnerToken.isSome then .claimed else .pending) then
    some { row with status := .failed }
  else none

/-- `fail_incoming_task_transfer` and `fail_outgoing_task_transfer`. -/
def failTaskTransfer (direction : Direction) (row : Row) : Option Row :=
  if row.direction = direction ∧ row.status ∉ settled then some { row with status := .failed }
  else none

/-- `fail_incoming_task_transfer`. -/
def failIncomingTaskTransfer : Row → Option Row := failTaskTransfer .incoming

/-- `fail_outgoing_task_transfer`. -/
def failOutgoingTaskTransfer : Row → Option Row := failTaskTransfer .outgoing

/-- `mark_incoming_transfer_sidecar_cleanup_completed`. -/
def markIncomingTransferSidecarCleanupCompleted : Option Row :=
  if row.direction = .incoming ∧ row.status ∈ settled then some { row with cleanedUp := true }
  else none

/-- The updates that write the columns; the others renew a claim, replace the payload, or insert
a row that is not there. -/
inductive Update where
  | complete (localTaskId : String) (claimOwnerToken : Option String)
  | startImport (localTaskId claimOwnerToken : String)
  | awaitAcknowledgment (localTaskId claimOwnerToken : String)
  | reject
  | claim (ownerToken : String) (recovery : Bool)
  | failPending (claimOwnerToken : Option String)
  | failIncoming
  | failOutgoing

/-- The row after an update that applies. -/
def Row.update : Update → Option Row
  | .complete localTaskId claimOwnerToken =>
    markTaskTransferCompleted row localTaskId claimOwnerToken
  | .startImport localTaskId claimOwnerToken =>
    markIncomingTransferImporting row localTaskId claimOwnerToken
  | .awaitAcknowledgment localTaskId claimOwnerToken =>
    markIncomingTransferAwaitingAcknowledgment row localTaskId claimOwnerToken
  | .reject => markTaskTransferRejected row
  | .claim ownerToken recovery => claimPendingIncomingTransfer row ownerToken recovery
  | .failPending claimOwnerToken => failPendingIncomingTransfer row claimOwnerToken
  | .failIncoming => failIncomingTaskTransfer row
  | .failOutgoing => failOutgoingTaskTransfer row

/-- An update that does not apply changes nothing. -/
def Row.step (update : Update) : Option Row := some ((row.update update).getD row)

/-- No completed or failed row is rejected. -/
def KeepsSettled : Update → Prop
  | .reject => row.status ∉ [.completed, .failed]
  | _ => True

variable {row row' : Row} {update : Update}

open Option

/-- Every other update leaves a settled row alone, or completes a completed one again. -/
theorem status_update (hsettled : row.status ∈ settled) (hkeeps : KeepsSettled row update)
    (h : row.update update = some row') : row'.status = row.status := by
  simp only [settled, List.mem_cons, List.not_mem_nil, or_false] at hsettled
  cases update with
  | reject =>
    obtain rfl := some.inj h
    simp only [KeepsSettled, List.mem_cons, List.not_mem_nil, or_false] at hkeeps
    obtain hstatus | hstatus | hstatus := hsettled <;> simp_all
  | complete =>
    obtain ⟨hcondition, h⟩ := ite_none_right_eq_some.mp h
    obtain rfl := some.inj h
    obtain hstatus | hstatus | hstatus := hsettled <;> simp_all
  | failPending claimOwnerToken =>
    obtain ⟨hcondition, -⟩ := ite_none_right_eq_some.mp h
    cases claimOwnerToken <;> obtain hstatus | hstatus | hstatus := hsettled <;> simp_all
  | _ =>
    obtain ⟨hcondition, -⟩ := ite_none_right_eq_some.mp h
    obtain hstatus | hstatus | hstatus := hsettled <;> simp_all [settled]

/-- **A settled row keeps its status if and only if nobody rejects it after it was completed or
failed.** -/
theorem settled_status_kept_iff (hsettled : row.status ∈ settled) (updates : List Update) :
    Always Row.step (fun now => now.status = row.status) row updates ↔
      Meets Row.step KeepsSettled row updates := by
  refine always_iff_meets id (fun {now update now'} hnow hkeeps hstep => ?_)
    (fun {now update} hnow hmiss => ?_) rfl
  · cases hstep
    cases hupdate : now.update update with
    | none => exact hnow
    | some now' => exact (status_update (hnow ▸ hsettled) hkeeps hupdate).trans hnow
  · cases update with
    | reject =>
      refine ⟨_, rfl, fun hrejected => hmiss ?_⟩
      have hrejected : .rejected = row.status := hrejected
      rw [KeepsSettled, hnow, ← hrejected]
      decide
    | _ => exact absurd trivial hmiss

/-- An imported row, with its task. -/
def imported : Row := ⟨.incoming, .completed, some "task", some "engine", false⟩

theorem settled_status_kept_imported :
    imported.status ∈ settled ∧
      (Always Row.step (fun now => now.status = imported.status) imported
          [.complete "task" (some "engine"), .failIncoming] ↔
        Meets Row.step KeepsSettled imported [.complete "task" (some "engine"), .failIncoming]) :=
  ⟨by decide, settled_status_kept_iff (by decide) _⟩

/-- The transfer whose task is live is reported as rejected. -/
theorem imported_row_rejected :
    run Row.step imported [.reject] = some { imported with status := .rejected } := rfl

/-! ### The cleanup of the sidecar -/

/-- A row, and whether the sidecar has confirmed `mark_import_ack_completed` for it. -/
structure State where
  row : Row
  confirmed : Bool

/-- `release_incoming_reservation`: the call, and then the record of the cleanup, where either
may fail. Imports, rejections and cleanups end with it. -/
def releaseIncomingReservation (s : State) (confirms records : Bool) : State :=
  if confirms then
    ⟨if records then (markIncomingTransferSidecarCleanupCompleted s.row).getD s.row else s.row,
      true⟩
  else s

/-- `report_exhausted_work`: the row is failed; for an incoming transfer the call is made, and
the cleanup recorded. The results of all three are ignored. -/
def reportExhaustedWork (s : State) (fails confirms records : Bool) : State :=
  let failed := match s.row.direction with
    | .outgoing => failOutgoingTaskTransfer s.row
    | .incoming => failIncomingTaskTransfer s.row
    | .other _ => none
  let row := if fails then failed.getD s.row else s.row
  if s.row.direction = .incoming then
    ⟨if records then (markIncomingTransferSidecarCleanupCompleted row).getD row else row,
      s.confirmed || confirms⟩
  else { s with row }

/-- An update of the row, a release of its reservation, or the end of its attempts. -/
inductive Move where
  | update (update : Update)
  | release (confirms records : Bool)
  | exhaust (fails confirms records : Bool)

/-- One move. -/
def State.step (s : State) : Move → Option State
  | .update update => some { s with row := (s.row.update update).getD s.row }
  | .release confirms records => some (releaseIncomingReservation s confirms records)
  | .exhaust fails confirms records => some (reportExhaustedWork s fails confirms records)

end Kanna.TransferRows
