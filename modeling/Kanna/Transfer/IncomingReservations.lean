import Kanna.Lib.Durable
import Kanna.Lib.Run
import Kanna.Transfer.Payload

/-!
# Incoming reservations

The destination of a transfer keeps a reservation for it, in the map `incoming_reservations` of
the process and in a file of the replay store (`runtime/replay_store.rs`). The handlers of
`runtime/listener.rs` and the calls of the desktop (`runtime/transfers.rs`) write the file first
and the map then, or drop the entry of the map first and the file then, and any of these file
operations may fail.

What a call finds out elsewhere is an argument: the clock, whether the peer is known, trusted
and authentic, what a sealed payload opens to, and how each file operation ends.

A reservation is `Announced` when it is committed and has its event. `announced_of_*` say which
reservations are, after each call.
-/

namespace Kanna.Reservations

open Durable

/-- `IncomingTransferEvent`. -/
structure IncomingTransferEvent where
  transferId : String
  sourcePeerId : String
  sourceTaskId : String
  sourceName : Option String
  payload : Value

/-- `IncomingTransferReservation`. -/
structure IncomingTransferReservation where
  sourcePeerId : String
  sourceTaskId : String
  createdAtUnixMs : ℕ
  committed : Bool
  event : Option IncomingTransferEvent
  eventRecorded : Bool

/-- The configuration of a `TransferReplayStore`. -/
structure StoreConfig where
  ttl : ℕ
  maxIncomingReservations : ℕ

/-- The map of the process, and the files. -/
structure Incoming where
  reservations : Records String IncomingTransferReservation
  files : Records String IncomingTransferReservation

/-- A reservation that was never committed and is as old as the configuration allows. -/
def IncomingTransferReservation.expired (config : StoreConfig) (now : ℕ)
    (reservation : IncomingTransferReservation) : Bool :=
  !reservation.committed && now - reservation.createdAtUnixMs ≥ config.ttl

/-- A reservation that is committed with its event: a further submission is answered with
success and tells nobody. -/
def IncomingTransferReservation.announced (reservation : IncomingTransferReservation) : Bool :=
  reservation.committed && reservation.event.isSome

/-- The payload names no other task than the reservation. -/
def IncomingTransferReservation.reserves (reservation : IncomingTransferReservation)
    (payload : Value) : Bool :=
  ((payload.pointer ["task", "source_task_id"]).bind Value.asStr).getD
    reservation.sourceTaskId = reservation.sourceTaskId

/-- A request to submit a payload, with what its handler finds out and runs into. -/
structure Submission where
  now : ℕ
  /-- the deletions of the prune that fail -/
  fails : String → Bool
  transferId : String
  /-- the name of the peer, if it is trusted -/
  sourceName : Except RuntimeError String
  /-- what the sealed payload opens to -/
  opened : Except RuntimeError Value
  save : WriteOutcome RuntimeError

namespace Incoming

variable (config : StoreConfig) (now : ℕ) (fails : String → Bool)

/-! ### The store -/

variable (s : Incoming)

/-- `prune_incoming_reservations`. Deletions that fail are not reported. -/
def pruneIncomingReservations : Incoming :=
  let remove := keysWhere (·.expired config now) s.reservations
  { reservations := deleteAll (fun _ => false) remove s.reservations
    files := deleteAll fails remove s.files }

/-- `load_incoming_reservations`, which leaves out what a prune would remove. -/
def loadIncomingReservations (files : Records String IncomingTransferReservation) : Incoming :=
  pruneIncomingReservations config now fails ⟨files, files⟩

/-- Saves the reservation, and enters it into the map if that succeeds. -/
def saveAndInsert (transferId : String) (reservation : IncomingTransferReservation)
    (save : WriteOutcome RuntimeError) : Incoming × Except RuntimeError Unit :=
  match write s.files transferId reservation save with
  | (files, .error error) => ({ s with files := files }, .error error)
  | (files, .ok ()) =>
    ({ reservations := s.reservations.insert transferId reservation, files := files }, .ok ())

/-! ### The handlers -/

/-- The `PrepareTransfer` handler once the request is authenticated, with an id that no
reservation has. -/
def prepareTransfer (sourcePeerId sourceTaskId transferId : String)
    (save : WriteOutcome RuntimeError) : Incoming × Except RuntimeError Unit :=
  let pruned := s.pruneIncomingReservations config now fails
  if pruned.reservations.entries.length ≥ config.maxIncomingReservations then
    (pruned, .error (.protocol ("too many active incoming transfer reservations (maximum " ++
      config.maxIncomingReservations.repr ++ ")")))
  else
    pruned.saveAndInsert transferId ⟨sourcePeerId, sourceTaskId, now, false, none, false⟩ save

/-- `build_incoming_event`. -/
def buildIncomingEvent (submission : Submission) :
    Incoming × Except RuntimeError IncomingTransferEvent :=
  let pruned := s.pruneIncomingReservations config submission.now submission.fails
  (pruned, do
    let reservation ← okOr (pruned.reservations.lookup submission.transferId)
      (.protocol ("unknown transfer id " ++ submission.transferId))
    let name ← submission.sourceName
    let payload ← submission.opened
    if !reservation.reserves payload then
      .error (.protocol ("transfer " ++ submission.transferId ++
        " payload source task does not match its reservation"))
    else
      .ok ⟨submission.transferId, reservation.sourcePeerId, reservation.sourceTaskId, some name,
        payload⟩)

/-- Commits the event of a transfer, and says whether it is a new one. -/
def commitEvent (transferId : String) (event : IncomingTransferEvent)
    (save : WriteOutcome RuntimeError) : Incoming × Except RuntimeError Bool :=
  match s.reservations.lookup transferId with
  | none => (s, .error (.protocol ("unknown transfer id " ++ transferId)))
  | some reservation =>
    if reservation.announced then (s, .ok false)
    else
      let saved := s.saveAndInsert transferId { reservation with
        committed := true, event := some event, eventRecorded := false } save
      (saved.1, saved.2.map fun _ => true)

/-- The `SubmitTransferPayload` handler up to the event channel: the event, and whether it is a
new one. -/
def submitTransferPayload (submission : Submission) :
    Incoming × Except RuntimeError (IncomingTransferEvent × Bool) :=
  let built := s.buildIncomingEvent config submission
  match built.2 with
  | .error error => (built.1, .error error)
  | .ok event =>
    let committed := built.1.commitEvent submission.transferId event submission.save
    (committed.1, committed.2.map fun newlyCommitted => (event, newlyCommitted))

/-- The `AbandonTransfer` handler. The entry of the map is dropped before the deletion of the
file is tried. -/
def abandonTransfer (transferId sourcePeerId : String)
    (authenticated : Except RuntimeError Unit) (failure : Option RuntimeError) :
    Incoming × Except RuntimeError Unit :=
  match authenticated with
  | .error error => (s, .error error)
  | .ok () =>
    let pruned := s.pruneIncomingReservations config now fails
    match pruned.reservations.lookup transferId with
    | none => (pruned, .ok ())
    | some reservation =>
      if reservation.sourcePeerId ≠ sourcePeerId then
        (pruned, .error (.protocol ("peer " ++ sourcePeerId ++ " cannot abandon transfer " ++
          transferId ++ " reserved for another source")))
      else if reservation.committed then
        (pruned, .error (.protocol ("transfer " ++ transferId ++
          " is already committed and cannot be abandoned")))
      else
        let deleted := delete pruned.files transferId failure
        ({ reservations := pruned.reservations.erase transferId, files := deleted.1 }, deleted.2)

/-! ### The calls of the desktop -/

/-- `mark_incoming_event_recorded`. -/
def markIncomingEventRecorded (transferId : String)
    (save : WriteOutcome RuntimeError) : Incoming × Except RuntimeError Unit :=
  match s.reservations.lookup transferId with
  | none =>
    (s, .error (.protocol ("missing incoming transfer reservation " ++ transferId)))
  | some reservation =>
    if reservation.eventRecorded then (s, .ok ())
    else s.saveAndInsert transferId { reservation with eventRecorded := true } save

/-- `mark_import_ack_completed`. -/
def markImportAckCompleted (transferId : String) : Incoming :=
  { reservations := s.reservations.erase transferId
    files := deleteAll fails [transferId] s.files }

/-! ### Which reservations are announced -/

/-- The transfer has a reservation that is announced. -/
def Announced (transferId : String) : Prop :=
  ∃ reservation, s.reservations.lookup transferId = some reservation ∧
    reservation.announced = true

variable {config now fails} {s s' : Incoming} {transferId other : String}
  {reservation : IncomingTransferReservation}

theorem lookup_prune :
    (s.pruneIncomingReservations config now fails).reservations.lookup other = some reservation ↔
      s.reservations.lookup other = some reservation ∧ reservation.expired config now = false := by
  rw [pruneIncomingReservations, lookup_deleteAll]
  constructor
  · intro h
    split at h
    next => cases h
    next hkept =>
      refine ⟨h, Bool.eq_false_iff.mpr fun hexpired => hkept ⟨?_, rfl⟩⟩
      exact mem_keysWhere.mpr ⟨reservation, h, hexpired⟩
  · rintro ⟨h, hfresh⟩
    rw [if_neg, h]
    rintro ⟨hmem, -⟩
    obtain ⟨record, hrecord, hexpired⟩ := mem_keysWhere.mp hmem
    rw [h] at hrecord
    cases hrecord
    rw [hfresh] at hexpired
    cases hexpired

/-- What `save_incoming_reservation` and the entry into the map leave behind. -/
theorem saveAndInsert_cases (s : Incoming) (transferId : String)
    (reservation : IncomingTransferReservation) (save : WriteOutcome RuntimeError) :
    (∃ files error, (files = s.files ∨ files = s.files.insert transferId reservation) ∧
      s.saveAndInsert transferId reservation save = ({ s with files }, .error error)) ∨
    s.saveAndInsert transferId reservation save =
      (⟨s.reservations.insert transferId reservation, s.files.insert transferId reservation⟩,
        .ok ()) := by
  cases save with
  | written => exact .inr rfl
  | unsynced error => exact .inl ⟨_, error, .inr rfl, rfl⟩
  | refused error => exact .inl ⟨_, error, .inl rfl, rfl⟩

variable {save : WriteOutcome RuntimeError}

/-- What the record of an event leaves behind. -/
theorem markIncomingEventRecorded_fst (s : Incoming) (transferId : String)
    (save : WriteOutcome RuntimeError) :
    (s.markIncomingEventRecorded transferId save).1 = s ∨
      ∃ reservation, s.reservations.lookup transferId = some reservation ∧
        (s.markIncomingEventRecorded transferId save).1 =
          (s.saveAndInsert transferId { reservation with eventRecorded := true } save).1 := by
  rw [markIncomingEventRecorded]
  split
  next => exact .inl rfl
  next reservation hlookup =>
  split
  next => exact .inl rfl
  next => exact .inr ⟨reservation, hlookup, rfl⟩

section Submission

variable (config) (s) (submission : Submission)

/-- After the prune there is a reservation of the transfer, and the payload opens to the one of
the event, which is for it. -/
structure Found (reservation : IncomingTransferReservation) (event : IncomingTransferEvent) :
    Prop where
  lookup : (s.pruneIncomingReservations config submission.now
    submission.fails).reservations.lookup submission.transferId = some reservation
  name : submission.sourceName.isOk = true
  payload : submission.opened = .ok event.payload
  reserves : reservation.reserves event.payload = true

/-- What a submission does: it is refused after the prune, it finds the transfer announced
already, or it saves the reservation with the event. -/
inductive Submitted : Incoming × Except RuntimeError (IncomingTransferEvent × Bool) → Prop where
  | refused {error} :
    Submitted (s.pruneIncomingReservations config submission.now submission.fails, .error error)
  | again {reservation event} (found : Found config s submission reservation event)
      (done : reservation.announced = true) :
    Submitted (s.pruneIncomingReservations config submission.now submission.fails,
      .ok (event, false))
  | saved {reservation event saved} (found : Found config s submission reservation event)
      (new : reservation.announced = false)
      (save : (s.pruneIncomingReservations config submission.now submission.fails).saveAndInsert
        submission.transferId { reservation with
          committed := true, event := some event, eventRecorded := false } submission.save =
            saved) :
    Submitted (saved.1, saved.2.map fun _ => (event, true))

theorem submitted : Submitted config s submission (s.submitTransferPayload config submission) := by
  rw [submitTransferPayload]
  dsimp only
  split
  next error _ => exact .refused
  next event hbuilt =>
    obtain ⟨reservation, hlookup, hbuilt⟩ := of_okOr hbuilt
    obtain ⟨name, hname, hbuilt⟩ := of_bind hbuilt
    obtain ⟨payload, hpayload, hbuilt⟩ := of_bind hbuilt
    obtain ⟨hreserves, hbuilt⟩ := of_throw hbuilt
    cases hbuilt
    have hfound : Found config s submission reservation ⟨submission.transferId,
        reservation.sourcePeerId, reservation.sourceTaskId, some name, payload⟩ :=
      ⟨hlookup, by rw [hname]; rfl, hpayload, by simpa using hreserves⟩
    rw [buildIncomingEvent, commitEvent, hlookup]
    dsimp only
    split
    next hdone => exact .again hfound hdone
    next hnew =>
      rcases hsaved : saveAndInsert _ _ _ _ with ⟨_, error | _⟩
      · exact .saved hfound (Bool.eq_false_iff.mpr hnew) hsaved
      · exact .saved hfound (Bool.eq_false_iff.mpr hnew) hsaved

variable {config s submission} {committed : IncomingTransferEvent × Bool}

/-- The event of a submission has what the payload opens to. -/
theorem opened_of_submitTransferPayload
    (h : (s.submitTransferPayload config submission).2 = .ok committed) :
    submission.opened = .ok committed.1.payload := by
  have hsubmitted := submitted config s submission
  generalize s.submitTransferPayload config submission = result at h hsubmitted
  cases hsubmitted with
  | refused => cases h
  | again found =>
    cases h
    exact found.payload
  | saved found =>
    obtain ⟨_, -, rfl⟩ := of_map h
    exact found.payload

end Submission

end Incoming

end Kanna.Reservations
