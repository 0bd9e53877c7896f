import Mathlib.Data.List.Sort
import Kanna.Lib.Durable
import Kanna.Lib.Run
import Kanna.Transfer.Payload

/-!
# Receipts for imported tasks

When the destination has imported a task it acknowledges that to the source
(`PeerRequest::ImportCommitted` in `runtime/listener.rs`). The source records a durable receipt
and delivers one event for it, after which its desktop closes the task and marks the receipt as
applied, or gives the event back.

Three flags of a receipt (`runtime/state.rs`) say where its event is: `event_queued` while it is
on the bounded receipt channel, `delivery_in_flight` while a delivery is out, and `applied` in
the end. A retry task offers the event of every receipt again. The flags of a delivery are not
durable, so a restart queues every receipt that is not applied.

`next_event` takes an event from the channel first and looks up its receipt then, so the events
in `taken` are on their way from the one to the other. Files are read and deleted without failures
here. A write may fail, and a crash between two file operations of a handler leaves behind what a
failed write does.

What is delivered, marked and given back is noted by `step`, from what the calls answer.
-/

namespace Kanna.Receipts

open Durable

/-! ### Receipts and their events -/

/-- What the destination seals as the acknowledgment. -/
def importAcknowledgment (sourceTaskId destinationLocalTaskId : String) : Value :=
  .object [("destination_local_task_id", .string destinationLocalTaskId),
    ("source_task_id", .string sourceTaskId)]

/-- `OutgoingTransferReservation`. -/
structure OutgoingReservation where
  targetPeerId : String
  sourceTaskId : String

/-- `StoredImportCommitReceipt`. -/
structure StoredReceipt where
  targetPeerId : String
  sourceTaskId : String
  destinationLocalTaskId : String
  createdAtUnixMs : ℕ
  applied : Bool

/-- `ImportCommitReceipt`. -/
structure Receipt : Type extends StoredReceipt where
  /-- its event is in the channel -/
  eventQueued : Bool
  /-- its event was delivered and is not answered yet -/
  deliveryInFlight : Bool

/-- `OutgoingTransferCommittedEvent`. -/
structure CommittedEvent where
  transferId : String
  sourceTaskId : String
  destinationLocalTaskId : String

/-- What a process is configured with. -/
structure Config where
  maxUnappliedReceipts : ℕ
  maxAppliedReceipts : ℕ
  appliedReceiptTtl : ℕ

/-- The capacity of the receipt channel. -/
def Config.capacity (config : Config) : ℕ := max config.maxUnappliedReceipts 1

/-- An applied receipt that is as old as the configuration allows. -/
def StoredReceipt.expired (config : Config) (now : ℕ) (receipt : StoredReceipt) : Bool :=
  receipt.applied && now - receipt.createdAtUnixMs ≥ config.appliedReceiptTtl

namespace Receipt

/-- A receipt as it is read back. -/
def ofStored (stored : StoredReceipt) : Receipt := ⟨stored, false, false⟩

/-- Whether its event waits in the channel. -/
def setQueued (queued : Bool) (receipt : Receipt) : Receipt :=
  { receipt with eventQueued := queued }

/-- Whether its event is being delivered. -/
def setInFlight (inFlight : Bool) (receipt : Receipt) : Receipt :=
  { receipt with deliveryInFlight := inFlight }

/-- The desktop has applied it. -/
def setApplied (receipt : Receipt) : Receipt :=
  { receipt with applied := true, deliveryInFlight := false }

/-- The event that announces it. -/
def event (receipt : Receipt) (transferId : String) : CommittedEvent :=
  ⟨transferId, receipt.sourceTaskId, receipt.destinationLocalTaskId⟩

/-- The event is neither queued nor out, and there is one to come. -/
def idle (receipt : Receipt) : Bool :=
  !(receipt.applied || receipt.eventQueued || receipt.deliveryInFlight)

end Receipt

/-- The applied receipts, the newest first. -/
def appliedByAge {ρ : Type} (stored : ρ → StoredReceipt) (receipts : Records String ρ) :
    List (String × ℕ) :=
  ((receipts.entries.filter fun entry => (stored entry.2).applied).map fun entry =>
    (entry.1, (stored entry.2).createdAtUnixMs)).insertionSort fun left right =>
      right.2 ≤ left.2

/-- The number of receipts that are not applied. -/
def unapplied {ρ : Type} (stored : ρ → StoredReceipt) (receipts : Records String ρ) : ℕ :=
  (receipts.entries.filter fun entry => !(stored entry.2).applied).length

/-! ### The process of the source -/

/-- A delivery by `next_event`, or a receipt that was marked as applied. -/
inductive LogEntry where
  | delivered (transferId : String)
  | marked (transferId : String)
  deriving DecidableEq

/-- A process of the source with its files. -/
structure Process where
  outgoingTransfers : Records String OutgoingReservation
  reservationFiles : Records String OutgoingReservation
  receipts : Records String Receipt
  receiptFiles : Records String StoredReceipt
  /-- the receipt channel -/
  channel : List CommittedEvent
  /-- events that a `next_event` has received and whose receipt it looks up next -/
  taken : List CommittedEvent
  /-- deliveries of this process that were neither marked nor given back -/
  outstanding : List String
  /-- what was delivered and marked in all processes, the newest first -/
  log : List LogEntry

namespace Process

variable (config : Config)

variable (p : Process)

/-- The map of receipts has changed. -/
def setReceipts (receipts : Records String Receipt) : Process :=
  { p with receipts := receipts }

/-- Enters the reservation of a transfer, in the map and on disk. -/
def reserve (transferId : String) (reservation : OutgoingReservation) : Process :=
  { p with
    outgoingTransfers := p.outgoingTransfers.insert transferId reservation
    reservationFiles := p.reservationFiles.insert transferId reservation }

/-- Drops the reservation of a transfer, in the map and on disk. -/
def dropReservation (transferId : String) : Process :=
  { p with
    outgoingTransfers := p.outgoingTransfers.erase transferId
    reservationFiles := p.reservationFiles.erase transferId }

/-- `try_queue_event` of a transfer's receipt. -/
def tryQueue (transferId : String) : Process :=
  match p.receipts.lookup transferId with
  | none => p
  | some receipt =>
    if receipt.idle && p.channel.length < config.capacity then
      { p with
        receipts := p.receipts.insert transferId (receipt.setQueued true)
        channel := p.channel ++ [receipt.event transferId] }
    else p

/-- One tick of the retry task, which visits the receipts in some order. -/
def tick (order : List String) : Process := order.foldl (tryQueue config) p

/-- `prune_outgoing_transfers`, with the files of what it removes. -/
def pruneOutgoingTransfers (expired : String → Bool) : Process :=
  let remove := p.outgoingTransfers.keys.filter expired
  { p with
    outgoingTransfers := deleteAll (fun _ => false) remove p.outgoingTransfers
    reservationFiles := deleteAll (fun _ => false) remove p.reservationFiles }

/-! ### Acknowledgments of the destination -/

/-- The two fields of an acknowledgment, which is opened if it comes from the peer that the task
went to. -/
def acknowledgedTasks (targetPeerId transferId requesterPeerId : String)
    (opened : Except RuntimeError Value) : Except RuntimeError (String × String) :=
  if requesterPeerId ≠ targetPeerId then
    .error (.protocol ("unexpected import acknowledgment requester " ++ requesterPeerId ++
      " for transfer " ++ transferId))
  else do
    let payload ← opened
    let sourceTaskId ← okOr (payload.str "source_task_id")
      (.protocol "import acknowledgment payload missing source_task_id")
    let destinationLocalTaskId ← okOr (payload.str "destination_local_task_id")
      (.protocol "import acknowledgment payload missing destination_local_task_id")
    return (sourceTaskId, destinationLocalTaskId)

/-- Records the receipt and offers its event. -/
def insertReceipt (transferId : String) (stored : StoredReceipt)
    (save : WriteOutcome RuntimeError) : Process × Except RuntimeError Unit :=
  match write p.receiptFiles transferId stored save with
  | (files, .error error) => ({ p with receiptFiles := files }, .error error)
  | (files, .ok ()) =>
    ((({ p with receiptFiles := files }.dropReservation transferId).setReceipts
      (p.receipts.insert transferId (.ofStored stored))).tryQueue config transferId, .ok ())

/-- The receipt for a transfer that has a reservation only. -/
def newReceipt (transferId requesterPeerId : String) (now : ℕ)
    (opened : Except RuntimeError Value) : Except RuntimeError StoredReceipt := do
  let reservation ← okOr (p.outgoingTransfers.lookup transferId)
    (.protocol ("missing target peer for import acknowledgment " ++ transferId))
  let (sourceTaskId, destinationLocalTaskId) ← acknowledgedTasks reservation.targetPeerId
    transferId requesterPeerId opened
  if reservation.sourceTaskId ≠ sourceTaskId then
    .error (.protocol ("unexpected source task " ++ sourceTaskId ++
      " for import acknowledgment " ++ transferId))
  else if unapplied Receipt.toStoredReceipt p.receipts ≥ config.maxUnappliedReceipts then
    .error (.protocol ("too many unapplied import acknowledgments (maximum " ++
      config.maxUnappliedReceipts.repr ++ ")"))
  else .ok ⟨requesterPeerId, sourceTaskId, destinationLocalTaskId, now, false⟩

/-- The `ImportCommitted` handler, given what looking up the peer and opening the payload give. -/
def importCommitted (transferId requesterPeerId : String) (now : ℕ)
    (expired : String → Bool) (save : WriteOutcome RuntimeError)
    (opened : Except RuntimeError Value) : Process × Except RuntimeError Unit :=
  match p.receipts.lookup transferId with
  | some receipt =>
    match acknowledgedTasks receipt.targetPeerId transferId requesterPeerId opened with
    | .error error => (p, .error error)
    | .ok (sourceTaskId, destinationLocalTaskId) =>
      if receipt.sourceTaskId ≠ sourceTaskId ∨
          receipt.destinationLocalTaskId ≠ destinationLocalTaskId then
        (p, .error (.protocol
          ("mismatched duplicate import acknowledgment for transfer " ++ transferId)))
      else (p.tryQueue config transferId, .ok ())
  | none =>
    let pruned := p.pruneOutgoingTransfers expired
    match pruned.newReceipt config transferId requesterPeerId now opened with
    | .error error => (pruned, .error error)
    | .ok stored => pruned.insertReceipt config transferId stored save

/-! ### Delivery -/

/-- `next_event` receives the first event of the channel. -/
def take : Option Process :=
  match p.channel with
  | [] => none
  | event :: rest => some { p with channel := rest, taken := p.taken ++ [event] }

/-- `next_event` looks up the receipt of an event that it received, and returns the event or
goes on to the next one. -/
def deliver (k : ℕ) : Option (Process × Option CommittedEvent) :=
  match p.taken[k]? with
  | none => none
  | some event =>
    let rest := { p with taken := p.taken.eraseIdx k }
    match p.receipts.lookup event.transferId with
    | none => some (rest, none)
    | some receipt =>
      if receipt.applied then
        some (rest.setReceipts (p.receipts.insert event.transferId (receipt.setQueued false)), none)
      else
        some (rest.setReceipts (p.receipts.insert event.transferId
          ((receipt.setQueued false).setInFlight true)), some event)

/-- `compact_receipts`. -/
def compactReceipts (now : ℕ) : Process :=
  let remove := (appliedByAge Receipt.toStoredReceipt p.receipts).zipIdx.filterMap fun entry =>
    if entry.2 ≥ config.maxAppliedReceipts ∨ now - entry.1.2 ≥ config.appliedReceiptTtl then
      some entry.1.1
    else none
  { p with
    receipts := deleteAll (fun _ => false) remove p.receipts
    receiptFiles := deleteAll (fun _ => false) remove p.receiptFiles }

/-- `mark_import_commit_applied`. -/
def markImportCommitApplied (transferId : String) (now : ℕ)
    (save : WriteOutcome RuntimeError) : Process × Except RuntimeError Unit :=
  match p.receipts.lookup transferId with
  | none => (p, .error (.protocol ("missing import commit receipt " ++ transferId)))
  | some receipt =>
    if receipt.applied then (p, .ok ())
    else
      match write p.receiptFiles transferId receipt.setApplied.toStoredReceipt save with
      | (files, .error error) => ({ p with receiptFiles := files }, .error error)
      | (files, .ok ()) =>
        (compactReceipts config { p with
          receiptFiles := files
          receipts := p.receipts.insert transferId receipt.setApplied } now, .ok ())

/-- `nack_import_commit`. -/
def nackImportCommit (transferId : String) : Process × Except RuntimeError Unit :=
  match p.receipts.lookup transferId with
  | none => (p, .error (.protocol ("missing import commit receipt " ++ transferId)))
  | some receipt =>
    if receipt.applied then (p, .ok ())
    else (p.setReceipts (p.receipts.insert transferId (receipt.setInFlight false)), .ok ())

/-! ### Starting -/

/-- `load_receipts`, which gives up if there are more receipts to apply than configured. -/
def loadReceipts (files : Records String StoredReceipt) (now : ℕ) :
    Option (Records String StoredReceipt) :=
  let fresh := deleteAll (fun _ => false) (keysWhere (·.expired config now) files) files
  if unapplied id fresh > config.maxUnappliedReceipts then none
  else
    some (deleteAll (fun _ => false)
      (((appliedByAge id fresh).drop config.maxAppliedReceipts).map Prod.fst) fresh)

/-- The start of a process from the files. A transfer that has a receipt keeps no reservation,
and the events of the receipts are queued in some order. -/
def start (reservationFiles : Records String OutgoingReservation)
    (receiptFiles : Records String StoredReceipt) (log : List LogEntry) (now : ℕ)
    (expired : String → Bool) : Option Process :=
  match loadReceipts config receiptFiles now with
  | none => none
  | some stored =>
    let outgoing := deleteAll (fun _ => false)
      (reservationFiles.keys.filter expired ++ stored.keys) reservationFiles
    let loaded : Process :=
      ⟨outgoing, outgoing, mapRecords Receipt.ofStored stored, stored, [], [], [], log⟩
    some (loaded.tick config stored.keys)

/-! ### Moves -/

/-- An event that `next_event` returns is out. -/
def noteDelivery : Process × Option CommittedEvent → Process
  | (p, none) => p
  | (p, some event) =>
    { p with
      outstanding := event.transferId :: p.outstanding
      log := .delivered event.transferId :: p.log }

/-- The delivery of a transfer is no longer out once a call of the desktop for it succeeds. -/
def noteAnswer (transferId : String) (entries : List LogEntry) :
    Process × Except RuntimeError Unit → Process
  | (p, .ok ()) =>
    { p with outstanding := p.outstanding.erase transferId, log := entries ++ p.log }
  | (p, .error _) => p

end Process

/-- A call of the destination, of the retry task or of the desktop, or a crash. -/
inductive Move where
  | importCommitted (transferId requesterPeerId : String) (now : ℕ) (expired : String → Bool)
      (save : WriteOutcome RuntimeError) (opened : Except RuntimeError Value)
  | tick (order : List String)
  | take
  | deliver (k : ℕ)
  | markImportCommitApplied (transferId : String) (now : ℕ) (save : WriteOutcome RuntimeError)
  | nackImportCommit (transferId : String)
  | restart (now : ℕ) (expired : String → Bool)

/-- One move, if it is enabled. -/
def step (config : Config) (p : Process) : Move → Option Process
  | .importCommitted transferId requesterPeerId now expired save opened =>
    some (p.importCommitted config transferId requesterPeerId now expired save opened).1
  | .tick order => some (p.tick config order)
  | .take => p.take
  | .deliver k => (p.deliver k).map Process.noteDelivery
  | .markImportCommitApplied transferId now save =>
    some (Process.noteAnswer transferId [.marked transferId]
      (p.markImportCommitApplied config transferId now save))
  | .nackImportCommit transferId =>
    some (Process.noteAnswer transferId [] (p.nackImportCommit transferId))
  | .restart now expired =>
    Process.start config p.reservationFiles p.receiptFiles p.log now expired

end Kanna.Receipts
