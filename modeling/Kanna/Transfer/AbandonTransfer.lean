import Kanna.Lib.Run
import Kanna.Transfer.ImportReceipts
import Kanna.Transfer.IncomingReservations

/-!
# Abandoning a transfer

`abandon_outgoing_transfer` (`runtime/transfers.rs`) asks the destination to drop its incoming
reservation, and then drops its own. It returns early if the destination does not confirm, and
it reports every file it could not delete, so that the caller tries again.

The handler of the destination drops the entry of its map before it deletes the file. When the
deletion fails the source tries again, and the second request is answered from the map: there
is no reservation, so it is a success, and the file is still there.
-/

namespace Kanna.Abandoned

open Durable Reservations
open Receipts (OutgoingReservation)

/-! ### The source -/

/-- A staged artifact. -/
structure ArtifactRecord where
  path : String
  owned : Bool

/-- The reservations of the source with their files, and the artifacts it staged. -/
structure Source where
  peerId : String
  outgoingTransfers : Records String OutgoingReservation
  files : Records String OutgoingReservation
  transferArtifacts : Records String (List ArtifactRecord)

/-- Both machines, and whether the last attempt to abandon the transfer succeeded. -/
structure Machines where
  source : Source
  destination : Incoming
  succeeded : Bool

/-- How the exchange with the destination goes. -/
inductive Exchange where
  /-- the peer is not found, not trusted or not reached -/
  | unsent (error : RuntimeError)
  /-- the request is handled, and the answer is lost -/
  | lost (error : RuntimeError)
  | answered

/-- What an attempt runs into. -/
structure Attempt where
  /-- what becomes of the request and its answer -/
  exchange : Exchange
  /-- what the destination makes of the request -/
  authenticated : Except RuntimeError Unit
  now : ℕ
  /-- which deletions of the destination's prune fail -/
  pruneFails : String → Bool
  /-- of the deletion there -/
  destinationFailure : Option RuntimeError
  /-- of the deletion of the source's file -/
  sourceFailure : Option RuntimeError
  artifactFailure : String → Option RuntimeError

/-- `cleanup_transfer_artifacts_checked`. What could not be deleted is kept. -/
def cleanupTransferArtifactsChecked (source : Source) (transferId : String)
    (failure : String → Option RuntimeError) : Source × Except RuntimeError Unit :=
  let records := (source.transferArtifacts.lookup transferId).getD []
  let undeleted := records.filter fun record => record.owned && (failure record.path).isSome
  let artifacts := source.transferArtifacts.erase transferId
  ({ source with
      transferArtifacts := if undeleted.isEmpty then artifacts
        else artifacts.insert transferId undeleted },
    match undeleted.findSome? fun record => failure record.path with
    | none => .ok ()
    | some error => .error error)

/-- `release_peer_transfer_reservation`. -/
def releasePeerTransferReservation (config : StoreConfig) (destination : Incoming)
    (sourcePeerId transferId : String) (attempt : Attempt) :
    Incoming × Except RuntimeError Unit :=
  let handled := destination.abandonTransfer config attempt.now attempt.pruneFails transferId
    sourcePeerId attempt.authenticated attempt.destinationFailure
  match attempt.exchange with
  | .unsent error => (destination, .error error)
  | .lost error => (handled.1, .error error)
  | .answered =>
    (handled.1, match handled.2 with
      | .ok () => .ok ()
      | .error error => .error (.protocol error.toString))

/-- The part of `abandon_outgoing_transfer` that concerns the source. -/
def dropOutgoingTransfer (source : Source) (transferId : String) (attempt : Attempt) :
    Source × Except RuntimeError Unit :=
  let reservation := delete source.files transferId attempt.sourceFailure
  let artifacts := cleanupTransferArtifactsChecked
    { source with
      outgoingTransfers := source.outgoingTransfers.erase transferId
      files := reservation.1 } transferId attempt.artifactFailure
  (artifacts.1, match reservation.2 with
    | .ok () => artifacts.2
    | .error error => .error error)

/-- The destination is asked if the source knows which one it is. -/
def releaseReserved (config : StoreConfig) (m : Machines) (transferId : String)
    (attempt : Attempt) : Incoming × Except RuntimeError Unit :=
  match m.source.outgoingTransfers.lookup transferId with
  | none => (m.destination, .ok ())
  | some _ =>
    releasePeerTransferReservation config m.destination m.source.peerId transferId attempt

/-- `abandon_outgoing_transfer`. -/
def abandonOutgoingTransfer (config : StoreConfig) (m : Machines) (transferId : String)
    (attempt : Attempt) : Machines × Except RuntimeError Unit :=
  match releaseReserved config m transferId attempt with
  | (destination, .error error) =>
    ({ m with destination := destination, succeeded := false }, .error error)
  | (destination, .ok ()) =>
    let dropped := dropOutgoingTransfer m.source transferId attempt
    ({ source := dropped.1, destination := destination, succeeded := dropped.2.isOk }, dropped.2)

/-! ### Runs -/

/-- An attempt, or something else that happens on the destination. -/
inductive Move where
  | abandon (attempt : Attempt)
  | submitTransferPayload (submission : Submission)
  | markIncomingEventRecorded (transferId : String) (save : WriteOutcome RuntimeError)
  | markImportAckCompleted (fails : String → Bool) (transferId : String)
  | restart (now : ℕ) (fails : String → Bool)

/-- The destination has changed. -/
def Machines.setDestination (m : Machines) (destination : Incoming) : Machines :=
  { m with destination := destination }

/-- One move on either machine. -/
def step (config : StoreConfig) (transferId : String) (m : Machines) : Move → Option Machines
  | .abandon attempt => some (abandonOutgoingTransfer config m transferId attempt).1
  | .submitTransferPayload submission =>
    some (m.setDestination (m.destination.submitTransferPayload config submission).1)
  | .markIncomingEventRecorded other save =>
    some (m.setDestination (m.destination.markIncomingEventRecorded other save).1)
  | .markImportAckCompleted fails other =>
    some (m.setDestination (m.destination.markImportAckCompleted fails other))
  | .restart now fails =>
    some (m.setDestination (Incoming.loadIncomingReservations config now fails
      m.destination.files))

/-- No deletion of the destination's file for the transfer fails. -/
def Deletes (transferId : String) (_ : Machines) : Move → Prop
  | .abandon attempt =>
    attempt.pruneFails transferId = false ∧ attempt.destinationFailure = none
  | .submitTransferPayload submission => submission.fails transferId = false
  | .markIncomingEventRecorded .. => True
  | .markImportAckCompleted fails _ => fails transferId = false
  | .restart _ fails => fails transferId = false

/-- After a success no reservation file is left on the source. -/
def SourceReleased (transferId : String) (m : Machines) : Prop :=
  m.succeeded = true → m.source.files.lookup transferId = none

/-- After a success no reservation file is left on the destination, unless it is committed. -/
def DestinationReleased (transferId : String) (m : Machines) : Prop :=
  m.succeeded = true → ∀ reservation, m.destination.files.lookup transferId = some reservation →
    reservation.committed = true

/-! ### The destination -/

section Destination

variable {config : StoreConfig} {now : ℕ} {fails : String → Bool} {s : Incoming}
  {transferId other : String} {records : Records String IncomingTransferReservation}

/-- The record of the transfer is committed if it is there. -/
def Committed (records : Records String IncomingTransferReservation) (transferId : String) : Prop :=
  ∀ reservation, records.lookup transferId = some reservation → reservation.committed = true

/-- The map knows of every file that is not committed. -/
def Tracked (s : Incoming) (transferId : String) : Prop :=
  s.reservations.lookup transferId = none → Committed s.files transferId

/-- Neither the map nor the files have a reservation that is not committed. -/
structure Released (s : Incoming) (transferId : String) : Prop where
  reservation : Committed s.reservations transferId
  file : Committed s.files transferId

/-- The map still knows of the files, and what was released still is. -/
structure Keeps (transferId : String) (s s' : Incoming) : Prop where
  tracked : Tracked s' transferId
  released : Released s transferId → Released s' transferId

theorem Keeps.trans {s' s'' : Incoming} (h : Keeps transferId s s') (h' : Keeps transferId s' s'') :
    Keeps transferId s s'' :=
  ⟨h'.tracked, fun hreleased => h'.released (h.released hreleased)⟩

open Incoming

variable {reservation : IncomingTransferReservation}

theorem lookup_files_prune
    (h : (s.pruneIncomingReservations config now fails).files.lookup transferId =
      some reservation) :
    s.files.lookup transferId = some reservation := by
  rw [pruneIncomingReservations, lookup_deleteAll] at h
  obtain ⟨-, h⟩ := of_exit h
  exact h

theorem Tracked.prune (h : Tracked s transferId) (hfails : fails transferId = false) :
    Keeps transferId s (s.pruneIncomingReservations config now fails) := by
  refine ⟨fun hnone reservation hlookup => ?_, fun hreleased => ?_⟩
  · cases hbefore : s.reservations.lookup transferId with
    | none => exact h hbefore reservation (lookup_files_prune hlookup)
    | some record =>
      -- the reservation expired, and its file was deleted with it
      by_cases hexpired : record.expired config now = true
      · rw [pruneIncomingReservations, lookup_deleteAll, if_pos] at hlookup
        · cases hlookup
        · exact ⟨mem_keysWhere.mpr ⟨record, hbefore, hexpired⟩, hfails⟩
      · have hkept : (s.pruneIncomingReservations config now fails).reservations.lookup transferId =
            some record := lookup_prune.mpr ⟨hbefore, Bool.eq_false_iff.mpr hexpired⟩
        rw [hnone] at hkept
        cases hkept
  · exact ⟨fun reservation hlookup => hreleased.reservation reservation (lookup_prune.mp hlookup).1,
      fun reservation hlookup => hreleased.file reservation (lookup_files_prune hlookup)⟩

theorem committed_insert {record : IncomingTransferReservation} (h : Committed records transferId)
    (hrecord : transferId = other → record.committed = true) :
    Committed (records.insert other record) transferId := by
  intro reservation hlookup
  rw [lookup_insert_eq] at hlookup
  split at hlookup
  next heq =>
    cases hlookup
    exact hrecord heq
  next => exact h reservation hlookup

variable {save : WriteOutcome RuntimeError} {record : IncomingTransferReservation}

variable (h : Tracked s transferId)

include h

/-- A save for a transfer that the map has. -/
theorem Tracked.saveAndInsert (hin : s.reservations.lookup other = some reservation)
    (hrecord : Released s transferId → transferId = other → record.committed = true) :
    Keeps transferId s (s.saveAndInsert other record save).1 := by
  -- where the map has nothing the transfer is another one
  have hother (hnone : s.reservations.lookup transferId = none) :
      Committed (s.files.insert other record) transferId := by
    refine committed_insert (h hnone) fun heq => ?_
    rw [heq, hin] at hnone
    cases hnone
  have hfile (hreleased : Released s transferId) :=
    committed_insert hreleased.file (hrecord hreleased)
  rcases saveAndInsert_cases s other record save with ⟨_, _, rfl | rfl, heq⟩ | heq <;> rw [heq]
  · exact ⟨h, id⟩
  · exact ⟨hother, fun hreleased => ⟨hreleased.reservation, hfile hreleased⟩⟩
  · refine ⟨fun hnone => ?_, fun hreleased =>
      ⟨committed_insert hreleased.reservation (hrecord hreleased), hfile hreleased⟩⟩
    rw [lookup_insert_eq] at hnone
    split at hnone
    next => cases hnone
    next => exact hother hnone

theorem Tracked.submit {submission : Submission} (hfails : submission.fails transferId = false) :
    Keeps transferId s (s.submitTransferPayload config submission).1 := by
  have hpruned : Keeps transferId s
      (s.pruneIncomingReservations config submission.now submission.fails) := h.prune hfails
  have hsubmitted := submitted config s submission
  generalize s.submitTransferPayload config submission = result at hsubmitted
  cases hsubmitted with
  | refused => exact hpruned
  | again => exact hpruned
  | saved found _ save =>
    rw [← save]
    exact hpruned.trans (hpruned.tracked.saveAndInsert found.lookup fun _ _ => rfl)

theorem Tracked.markRecorded : Keeps transferId s (s.markIncomingEventRecorded other save).1 := by
  rcases markIncomingEventRecorded_fst s other save with heq | ⟨reservation, hlookup, heq⟩ <;>
    rw [heq]
  · exact ⟨h, id⟩
  · exact h.saveAndInsert hlookup fun hreleased heq =>
      hreleased.reservation reservation (heq ▸ hlookup)

theorem Tracked.ackCompleted (hfails : fails transferId = false) :
    Keeps transferId s (s.markImportAckCompleted fails other) := by
  refine ⟨fun hnone reservation hlookup => ?_, fun hreleased =>
    ⟨fun reservation hlookup => ?_, fun reservation hlookup => ?_⟩⟩
  · rw [markImportAckCompleted, lookup_deleteAll] at hlookup
    rw [markImportAckCompleted, lookup_erase_eq] at hnone
    by_cases heq : transferId = other
    · rw [if_pos ⟨List.mem_singleton.mpr heq, hfails⟩] at hlookup
      cases hlookup
    · rw [if_neg heq] at hnone
      rw [if_neg fun hmem => heq (List.mem_singleton.mp hmem.1)] at hlookup
      exact h hnone reservation hlookup
  · rw [markImportAckCompleted, lookup_erase_eq] at hlookup
    obtain ⟨-, hlookup⟩ := of_exit hlookup
    exact hreleased.reservation reservation hlookup
  · rw [markImportAckCompleted, lookup_deleteAll] at hlookup
    obtain ⟨-, hlookup⟩ := of_exit hlookup
    exact hreleased.file reservation hlookup

omit h

theorem keeps_load (s : Incoming) (hfails : fails transferId = false) :
    Keeps transferId s (loadIncomingReservations config now fails s.files) := by
  have hboth : Tracked ⟨s.files, s.files⟩ transferId := by
    intro hnone reservation hlookup
    cases hnone.symm.trans hlookup
  obtain ⟨htracked, hreleased⟩ := hboth.prune hfails
  exact ⟨htracked, fun h => hreleased ⟨h.file, h.file⟩⟩

theorem committed_erase : Committed (records.erase transferId) transferId := by
  intro reservation hlookup
  rw [AList.lookup_erase] at hlookup
  cases hlookup

/-- A request to abandon the transfer, when no deletion of its file fails: nothing is left if the
answer is a success. -/
theorem Tracked.abandonTransfer (h : Tracked s transferId) (hfails : fails transferId = false)
    (config : StoreConfig) (now : ℕ) (sourcePeerId : String)
    (authenticated : Except RuntimeError Unit) :
    Keeps transferId s
        (s.abandonTransfer config now fails transferId sourcePeerId authenticated none).1 ∧
      ((s.abandonTransfer config now fails transferId sourcePeerId authenticated none).2 = .ok () →
        Released (s.abandonTransfer config now fails transferId sourcePeerId authenticated none).1
          transferId) := by
  cases authenticated with
  | error error => exact ⟨⟨h, id⟩, by rintro ⟨⟩⟩
  | ok =>
    have hpruned : Keeps transferId s (s.pruneIncomingReservations config now fails) :=
      h.prune hfails
    simp only [Incoming.abandonTransfer]
    split
    next hnone =>
      refine ⟨hpruned, fun _ => ⟨fun reservation hlookup => ?_, hpruned.tracked hnone⟩⟩
      rw [hnone] at hlookup
      cases hlookup
    next =>
    split
    next => exact ⟨hpruned, by rintro ⟨⟩⟩
    next =>
    split
    next => exact ⟨hpruned, by rintro ⟨⟩⟩
    next =>
      -- the entry of the map is dropped, and then the file
      exact ⟨⟨fun _ => committed_erase, fun _ => ⟨committed_erase, committed_erase⟩⟩,
        fun _ => ⟨committed_erase, committed_erase⟩⟩

end Destination

/-! ### The attempts -/

section Attempts

variable {config : StoreConfig} {transferId : String} {m m' : Machines} {attempt : Attempt}

/-- What an attempt does: the destination did not confirm, or the source went on to drop its
own reservation. -/
theorem abandonOutgoingTransfer_cases (config : StoreConfig) (m : Machines) (transferId : String)
    (attempt : Attempt) :
    (∃ error, (releaseReserved config m transferId attempt).2 = .error error ∧
      (abandonOutgoingTransfer config m transferId attempt).1 = { m with
          destination := (releaseReserved config m transferId attempt).1, succeeded := false }) ∨
    (releaseReserved config m transferId attempt).2 = .ok () ∧
      (abandonOutgoingTransfer config m transferId attempt).1 =
        ⟨(dropOutgoingTransfer m.source transferId attempt).1,
          (releaseReserved config m transferId attempt).1,
          (dropOutgoingTransfer m.source transferId attempt).2.isOk⟩ := by
  rw [abandonOutgoingTransfer]
  rcases releaseReserved config m transferId attempt with ⟨destination, error | _⟩
  · exact .inl ⟨error, rfl, rfl⟩
  · exact .inr ⟨rfl, rfl⟩

theorem sourceReleased_step {move : Move} (h : SourceReleased transferId m)
    (hstep : step config transferId m move = some m') : SourceReleased transferId m' := by
  cases move with
  | abandon attempt =>
    cases hstep
    rcases abandonOutgoingTransfer_cases config m transferId attempt with
      ⟨_, -, heq⟩ | ⟨-, heq⟩
    · rw [heq]
      intro hsucceeded
      cases hsucceeded
    · rw [heq, dropOutgoingTransfer]
      intro hok
      cases hfailure : attempt.sourceFailure with
      | none => exact AList.lookup_erase transferId m.source.files
      | some error =>
        rw [hfailure] at hok
        cases hok
  | _ =>
    cases hstep
    exact h

/-- The invariant of the runs in which no deletion of the destination's file fails. -/
structure Inv (transferId : String) (m : Machines) : Prop where
  tracked : Tracked m.destination transferId
  dropped : m.source.outgoingTransfers.lookup transferId = none →
    Released m.destination transferId
  succeeded : m.succeeded = true → Released m.destination transferId

/-- Something happens on the destination that keeps what it knows. -/
theorem Inv.setDestination {destination : Incoming} (h : Inv transferId m)
    (hkeeps : Keeps transferId m.destination destination) :
    Inv transferId (m.setDestination destination) :=
  ⟨hkeeps.tracked, fun hnone => hkeeps.released (h.dropped hnone),
    fun hsucceeded => hkeeps.released (h.succeeded hsucceeded)⟩

/-- What asking the destination leaves behind. -/
theorem Inv.releaseReserved (config : StoreConfig) (h : Inv transferId m)
    (hdeletes : Deletes transferId m (.abandon attempt)) :
    Keeps transferId m.destination (releaseReserved config m transferId attempt).1 ∧
      ((releaseReserved config m transferId attempt).2 = .ok () →
        Released (releaseReserved config m transferId attempt).1 transferId) := by
  obtain ⟨hfails, hnone⟩ := hdeletes
  rw [Abandoned.releaseReserved]
  split
  next hmissing => exact ⟨⟨h.tracked, id⟩, fun _ => h.dropped hmissing⟩
  next =>
    rw [releasePeerTransferReservation, hnone]
    obtain ⟨hkeeps, hok⟩ := h.tracked.abandonTransfer hfails config attempt.now
      m.source.peerId attempt.authenticated
    split
    next => exact ⟨⟨h.tracked, id⟩, nofun⟩
    next => exact ⟨hkeeps, nofun⟩
    next =>
      refine ⟨hkeeps, fun hanswer => hok ?_⟩
      split at hanswer
      next hhandled => exact hhandled
      next => cases hanswer

theorem Inv.abandon (h : Inv transferId m) (hdeletes : Deletes transferId m (.abandon attempt)) :
    Inv transferId (abandonOutgoingTransfer config m transferId attempt).1 := by
  obtain ⟨⟨htracked, hkept⟩, hok⟩ := h.releaseReserved config hdeletes
  rcases abandonOutgoingTransfer_cases config m transferId attempt with
    ⟨_, -, heq⟩ | ⟨hconfirmed, heq⟩
  · rw [heq]
    exact ⟨htracked, fun hnone => hkept (h.dropped hnone), nofun⟩
  · rw [heq]
    exact ⟨htracked, fun _ => hok hconfirmed, fun _ => hok hconfirmed⟩

theorem inv_step {move : Move} (h : Inv transferId m) (hdeletes : Deletes transferId m move)
    (hstep : step config transferId m move = some m') : Inv transferId m' := by
  cases move with
  | abandon attempt =>
    cases hstep
    exact h.abandon hdeletes
  | submitTransferPayload =>
    cases hstep
    exact h.setDestination (h.tracked.submit hdeletes)
  | markIncomingEventRecorded =>
    cases hstep
    exact h.setDestination h.tracked.markRecorded
  | markImportAckCompleted =>
    cases hstep
    exact h.setDestination (h.tracked.ackCompleted hdeletes)
  | restart =>
    cases hstep
    exact h.setDestination (keeps_load _ hdeletes)

end Attempts

/-- The source has a reservation for the transfer, the map and the files of the destination agree
about it, and it was not abandoned yet. -/
structure Reserved (transferId : String) (m : Machines) : Prop where
  source : (m.source.outgoingTransfers.lookup transferId).isSome = true
  destination : m.destination.reservations.lookup transferId =
    m.destination.files.lookup transferId
  succeeded : m.succeeded = false

theorem Reserved.inv {transferId : String} {m : Machines} (h : Reserved transferId m) :
    Inv transferId m := by
  refine ⟨fun hnone reservation hlookup => ?_, fun hnone => ?_, fun hsucceeded => ?_⟩
  · rw [← h.destination, hnone] at hlookup
    cases hlookup
  · have hsource := h.source
    rw [hnone] at hsource
    cases hsource
  · rw [h.succeeded] at hsucceeded
    cases hsucceeded

/-- **What is left of an abandoned transfer.** When an attempt has succeeded, the source has no
reservation file for the transfer, whatever failed before; and the destination has none that is
not committed, if no deletion of that file failed there. -/
theorem abandoned_transfer_leaves_nothing (config : StoreConfig) {transferId : String}
    {m : Machines} (hreserved : Reserved transferId m) (moves : List Move) :
    Always (step config transferId) (SourceReleased transferId) m moves ∧
      (Meets (step config transferId) (Deletes transferId) m moves →
        Always (step config transferId) (DestinationReleased transferId) m moves) := by
  refine ⟨always_of_invariant sourceReleased_step moves fun hsucceeded => ?_,
    always_of_meets (fun h hsucceeded => (h.succeeded hsucceeded).file) inv_step hreserved.inv⟩
  rw [hreserved.succeeded] at hsucceeded
  cases hsucceeded

/-- Both machines have reserved the transfer `t`. -/
def reservedMachines : Machines where
  source := ⟨"source", (∅ : Records String OutgoingReservation).insert "t" ⟨"destination", "task"⟩,
    (∅ : Records String OutgoingReservation).insert "t" ⟨"destination", "task"⟩, ∅⟩
  destination := ⟨(∅ : Records String IncomingTransferReservation).insert "t"
      ⟨"source", "task", 0, false, none, false⟩,
    (∅ : Records String IncomingTransferReservation).insert "t"
      ⟨"source", "task", 0, false, none, false⟩⟩
  succeeded := false

/-- An attempt in which the destination's deletion ends as given and nothing else fails. -/
def attemptWith (destinationFailure : Option RuntimeError) : Move :=
  .abandon ⟨.answered, .ok (), 1, fun _ => false, destinationFailure, none, fun _ => none⟩

theorem reserved_reservedMachines : Reserved "t" reservedMachines := ⟨rfl, rfl, rfl⟩

/-- Two attempts without a failure. -/
def retried : List Move := [attemptWith none, attemptWith none]

theorem abandoned_transfer_leaves_nothing_retried :
    Reserved "t" reservedMachines ∧
      Always (step ⟨1000, 10⟩ "t") (SourceReleased "t") reservedMachines retried ∧
      Always (step ⟨1000, 10⟩ "t") (DestinationReleased "t") reservedMachines retried := by
  obtain ⟨hsource, hdestination⟩ :=
    abandoned_transfer_leaves_nothing ⟨1000, 10⟩ reserved_reservedMachines retried
  exact ⟨reserved_reservedMachines, hsource,
    hdestination ⟨⟨rfl, rfl⟩, fun _ _ => ⟨⟨rfl, rfl⟩, fun _ _ => trivial⟩⟩⟩

/-- The destination cannot delete its file and says so. The second attempt succeeds, and the
file of a reservation that was never committed is still there. -/
theorem abandoned_after_failed_deletion :
    (run (step ⟨1000, 10⟩ "t") reservedMachines
      [attemptWith (some (.io "permission denied")), attemptWith none]).map
        (fun m => (m.succeeded,
          (m.destination.files.lookup "t").map IncomingTransferReservation.committed)) =
      some (true, some false) := by
  decide

end Kanna.Abandoned
