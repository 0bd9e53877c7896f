import Kanna.Lib.Run
import Kanna.Transfer.IncomingReservations

/-!
# Telling the desktop about a submitted payload

`SubmitTransferPayload` commits the payload of a transfer durably and then puts an event for
the desktop on the bounded lifecycle channel. If the channel is full the source gets an error
and submits again. The second submission finds the payload committed, and is answered with
success although nobody was told.

At its start a process tells the desktop about every committed payload that the desktop had not
recorded.
-/

namespace Kanna.SubmittedPayload

open Durable Reservations

/-- The configuration of a `TransferRuntime`. -/
structure Config : Type extends StoreConfig where
  maxLifecycleEvents : ℕ

/-- The capacity of the event channel. -/
def Config.capacity (config : Config) : ℕ := max config.maxLifecycleEvents 1

/-- What is on the event channel. -/
inductive LifecycleEvent where
  | incomingTransferRequest (event : IncomingTransferEvent)
  | other

/-- A process of the destination. -/
structure Process where
  incoming : Incoming
  /-- the lifecycle channel -/
  events : List LifecycleEvent
  /-- the transfers whose event was put on the channel -/
  notified : List String
  /-- the transfers that the desktop had recorded before the process started -/
  recordedBefore : List String
  /-- the transfers for which a submission was answered with success -/
  accepted : List String

/-- The events that a start puts on the channel, with their transfers. -/
def unrecordedEvents (reservations : Records String IncomingTransferReservation) :
    List (String × IncomingTransferEvent) :=
  reservations.entries.filterMap fun entry =>
    if entry.2.committed && !entry.2.eventRecorded then entry.2.event.map (entry.1, ·) else none

namespace Process

variable (config : Config)

/-- The start of a process from the files, if the channel takes the events that are left. -/
def start (now : ℕ) (fails : String → Bool)
    (files : Records String IncomingTransferReservation) : Option Process :=
  let incoming := Incoming.loadIncomingReservations config.toStoreConfig now fails files
  let events := unrecordedEvents incoming.reservations
  if events.length ≤ config.capacity then
    some { incoming := incoming
           events := events.map fun event => .incomingTransferRequest event.2
           notified := events.map Prod.fst
           recordedBefore := keysWhere (·.eventRecorded) incoming.reservations
           accepted := [] }
  else none

/-- The `SubmitTransferPayload` handler and its answer. -/
def submitTransferPayload (p : Process) (submission : Submission) :
    Process × Except RuntimeError Unit :=
  match p.incoming.submitTransferPayload config.toStoreConfig submission with
  | (incoming, .error error) => ({ p with incoming := incoming }, .error error)
  | (incoming, .ok (_, false)) =>
    ({ p with incoming := incoming, accepted := submission.transferId :: p.accepted }, .ok ())
  | (incoming, .ok (event, true)) =>
    if p.events.length < config.capacity then
      ({ p with
          incoming := incoming
          events := p.events ++ [.incomingTransferRequest event]
          notified := submission.transferId :: p.notified
          accepted := submission.transferId :: p.accepted }, .ok ())
    else ({ p with incoming := incoming }, .error .incomingEventChannelClosed)

/-- Any other event, which is lost if the channel is full. -/
def offerOther (p : Process) : Process :=
  if p.events.length < config.capacity then { p with events := p.events ++ [.other] } else p

end Process

/-- One request, one call of the desktop, or a restart. -/
inductive Move where
  | submitTransferPayload (submission : Submission)
  | prepareTransfer (now : ℕ) (fails : String → Bool)
      (sourcePeerId sourceTaskId transferId : String) (save : WriteOutcome RuntimeError)
  | abandonTransfer (now : ℕ) (fails : String → Bool) (transferId sourcePeerId : String)
      (authenticated : Except RuntimeError Unit) (failure : Option RuntimeError)
  | markIncomingEventRecorded (transferId : String) (save : WriteOutcome RuntimeError)
  | markImportAckCompleted (fails : String → Bool) (transferId : String)
  | offerOther
  | nextEvent
  | restart (now : ℕ) (fails : String → Bool)

/-- One call, or what the desktop does in between. -/
def step (config : Config) (p : Process) : Move → Option Process
  | .submitTransferPayload submission => some (p.submitTransferPayload config submission).1
  | .prepareTransfer now fails sourcePeerId sourceTaskId transferId save =>
    if (p.incoming.reservations.lookup transferId).isSome then none
    else
      some { p with
        incoming := (p.incoming.prepareTransfer config.toStoreConfig now fails sourcePeerId
          sourceTaskId transferId save).1 }
  | .abandonTransfer now fails transferId sourcePeerId authenticated failure =>
    some { p with
      incoming := (p.incoming.abandonTransfer config.toStoreConfig now fails transferId
        sourcePeerId authenticated failure).1 }
  | .markIncomingEventRecorded transferId save =>
    some { p with incoming := (p.incoming.markIncomingEventRecorded transferId save).1 }
  | .markImportAckCompleted fails transferId =>
    some { p with incoming := p.incoming.markImportAckCompleted fails transferId }
  | .offerOther => some (p.offerOther config)
  | .nextEvent => some { p with events := p.events.tail }
  | .restart now fails => Process.start config now fails p.incoming.files

/-- Every transfer that was accepted in this process was put on the channel in it. -/
def AcceptedNotified (p : Process) : Prop := ∀ transferId ∈ p.accepted, transferId ∈ p.notified

/-- Whoever would be answered with success without a new event was told of, in this process
or before it started. -/
structure Told (p : Process) : Prop where
  announced : ∀ transferId, p.incoming.Announced transferId →
    transferId ∈ p.notified ∨ transferId ∈ p.recordedBefore
  accepted : AcceptedNotified p

variable {config : Config} {p p' : Process}

variable {fails : String → Bool}

variable {submission : Submission}

end Kanna.SubmittedPayload
