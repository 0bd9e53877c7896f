import Kanna.Transfer.ImportReceipts
import Kanna.Transfer.IncomingReservations

/-!
# The sealed messages of a transfer

Two paired peers transfer tasks in both directions over a network that may record, drop,
replay and redirect everything. The three messages of a transfer whose content is sealed are
the payload of the source (`prepare_transfer_commit` of `runtime/transfers.rs`, accepted by
`build_incoming_event` of `runtime/listener.rs`), the answer of the source to a request to
finalize (`finalize_outgoing_transfer`) and the acknowledgment of the destination
(`acknowledge_import_committed`, accepted by the `ImportCommitted` arm of the listener). All
of them carry the transfer id beside the sealed text. What a peer keeps for its transfers is
modelled in `IncomingReservations` and `ImportReceipts`.

Everything the peers have sealed is recorded together with the transfer it was sealed for.
What the network delivers is either recorded or does not open. Requests are authenticated by
opening them and comparing their arguments; their freshness is not modelled here, so that
more of them are accepted.
-/

namespace Kanna.Transfers

open Durable Receipts Reservations

/-! ### The peers -/

/-- The two peers. -/
inductive Side where
  | left
  | right
  deriving DecidableEq

/-- The other machine. -/
def Side.other : Side → Side
  | .left => .right
  | .right => .left

/-- What a peer is known by. -/
structure Identity where
  peerId : String
  displayName : String
  publicKey : String

/-- Two paired peers, which have different keys. -/
structure Identities where
  left : Identity
  right : Identity
  distinct : left.publicKey ≠ right.publicKey

/-- The identity of a machine. -/
def Identities.of (ids : Identities) : Side → Identity
  | .left => ids.left
  | .right => ids.right

/-- A `finalize_outgoing_transfer` that waits for the response. -/
structure FinalizeCall where
  requestId : String
  transferId : String

/-- What a peer has accepted for a transfer. -/
structure Acceptance where
  transferId : String
  content : Value

/-- One peer. -/
structure TransferPeer where
  /-- its part as the source of some transfers -/
  source : Receipts.Process
  /-- its part as the destination of others -/
  incoming : Incoming
  /-- the calls that wait for an answer -/
  finalizing : ℕ → Option FinalizeCall
  requestCounter : ℕ
  /-- what it has accepted so far -/
  accepted : List Acceptance

variable (peer : TransferPeer)

/-- What it has as the source has changed. -/
def TransferPeer.setSource (source : Receipts.Process) : TransferPeer :=
  { peer with source := source }

/-- What it has as the destination has changed. -/
def TransferPeer.setIncoming (incoming : Incoming) : TransferPeer :=
  { peer with incoming := incoming }

/-- What the listeners are configured with. -/
structure TransferConfig where
  receipts : Receipts.Config
  reservations : StoreConfig

/-! ### Accepting -/

/-- The `SubmitTransferPayload` handler: the peer after it, and what it has newly accepted. -/
def submitTransferPayload (config : TransferConfig) (peer : TransferPeer) (now : ℕ)
    (fails : String → Bool) (transferId : String) (sourceName : Except RuntimeError String)
    (save : WriteOutcome RuntimeError) (opened : Except RuntimeError Value) :
    TransferPeer × Except RuntimeError (Option Acceptance) :=
  let submitted := peer.incoming.submitTransferPayload config.reservations
    ⟨now, fails, transferId, sourceName, opened, save⟩
  (peer.setIncoming submitted.1, submitted.2.map fun committed =>
    if committed.2 then some ⟨transferId, committed.1.payload⟩ else none)

/-- What `finalize_outgoing_transfer` reads in the opened response. -/
def finalizedOutgoingTransfer (payload : Value) : Except RuntimeError (Value × Bool) := do
  let finalizedPayload ← okOr (payload.get "payload")
    (.protocol "finalize response missing payload")
  let finalizedCleanly ← okOr ((payload.get "finalized_cleanly").bind Value.asBool)
    (.protocol "finalize response missing finalized_cleanly")
  return (finalizedPayload, finalizedCleanly)

/-- `finalize_outgoing_transfer` after the response: what it accepts. -/
def finalizeAccepts (call : FinalizeCall) (requestId transferId : String)
    (opened : Except RuntimeError Value) : Except RuntimeError (Option Acceptance) :=
  if requestId ≠ call.requestId then
    .error (.protocol ("mismatched request id in finalize response: expected " ++
      call.requestId ++ ", got " ++ requestId))
  else if transferId ≠ call.transferId then
    .error (.protocol ("mismatched transfer id in finalize response: expected " ++
      call.transferId ++ ", got " ++ transferId))
  else do
    let payload ← opened
    let _ ← finalizedOutgoingTransfer payload
    return some ⟨call.transferId, payload⟩

/-- A response reaches the call that waits for it, which returns; any other one is lost. -/
def finishFinalize (number : ℕ) (requestId transferId : String)
    (opened : Except RuntimeError Value) : TransferPeer × Except RuntimeError (Option Acceptance) :=
  match peer.finalizing number with
  | none => (peer, .ok none)
  | some call =>
    ({ peer with finalizing := Function.update peer.finalizing number none },
      finalizeAccepts call requestId transferId opened)

/-- The `ImportCommitted` handler. A transfer that has a receipt already tells it nothing new. -/
def importCommitted (config : TransferConfig) (peer : TransferPeer) (now : ℕ)
    (expired : String → Bool) (transferId requesterPeerId : String)
    (save : WriteOutcome RuntimeError) (opened : Except RuntimeError Value) :
    TransferPeer × Except RuntimeError (Option Acceptance) :=
  let committed := peer.source.importCommitted config.receipts transferId requesterPeerId now
    expired save opened
  (peer.setSource committed.1, committed.2.map fun _ =>
    if (peer.source.receipts.lookup transferId).isSome then none
    else opened.toOption.map fun payload => ⟨transferId, payload⟩)

/-! ### Sealing -/

/-- What `seal_authenticated_peer_request` adds to the arguments. -/
def authenticatedRequest (action requestId ownerEpoch : String) (issuedAt : UInt64)
    (arguments : List (String × Value)) : Value :=
  .object (arguments ++ [("action", .string action), ("request_id", .string requestId),
    ("owner_epoch", .string ownerEpoch), ("issued_at_unix_ms", .posInt issuedAt)])

/-- What the source seals as the answer to a request to finalize. -/
def finalizeResponse (payload : Value) (finalizedCleanly : Bool) : Value :=
  .object [("finalized_cleanly", .bool finalizedCleanly), ("payload", payload)]

/-- `acknowledge_import_committed` until it seals. -/
def acknowledgeImportCommitted (transferId sourceTaskId
    destinationLocalTaskId : String) : Except RuntimeError Value := do
  let reservation ← okOr (peer.incoming.reservations.lookup transferId)
    (.protocol ("missing source peer for import acknowledgment " ++ transferId))
  if reservation.sourceTaskId ≠ sourceTaskId then
    .error (.protocol ("unexpected source task " ++ sourceTaskId ++
      " for import acknowledgment " ++ transferId))
  else .ok (importAcknowledgment sourceTaskId destinationLocalTaskId)

/-- The `FinalizeTransfer` handler until the desktop is asked: the reservation, and the
arguments of the authenticated request. -/
def admitFinalize (requestId transferId requesterPeerId : String)
    (opened : Except RuntimeError Value) : Except RuntimeError Unit := do
  let reservation ← okOr (peer.source.outgoingTransfers.lookup transferId)
    (.protocol ("missing target peer for outgoing transfer finalization " ++ transferId))
  if requesterPeerId ≠ reservation.targetPeerId then
    .error (.protocol ("unexpected outgoing transfer finalization requester " ++
      requesterPeerId ++ " for transfer " ++ transferId))
  else do
    let payload ← opened
    ensureAuthenticatedRequest payload "finalize_transfer" requestId
    ensureAuthenticatedArgument payload "requester_peer_id" requesterPeerId
    ensureAuthenticatedArgument payload "transfer_id" transferId
    ensureAuthenticatedArgument payload "reserved_target_peer_id" requesterPeerId

/-- The task that an authenticated request to prepare names. -/
def preparedTask (ownPeerId requestId sourcePeerId : String) (opened : Except RuntimeError Value) :
    Except RuntimeError String := do
  let payload ← opened
  ensureAuthenticatedRequest payload "prepare_transfer" requestId
  ensureAuthenticatedArgument payload "source_peer_id" sourcePeerId
  ensureAuthenticatedArgument payload "reserved_target_peer_id" ownPeerId
  authenticatedArgument payload "source_task_id"

/-! ### The network -/

/-- Something a peer has sealed, and the transfer it was sealed for, if any. -/
structure Sealing where
  sealer : Side
  transfer : Option String
  sealed : SealedJson

/-- What the network delivers as a sealed text. -/
inductive Wire where
  /-- the text that was sealed at this position of the record -/
  | recorded (position : ℕ)
  /-- any other text -/
  | forged

/-- The two peers, and everything they have sealed. -/
structure TransferNet where
  peers : Side → TransferPeer
  sealings : List Sealing

/-- One of the three sealed messages, under the ids the network gives it. -/
inductive Message where
  | submitTransferPayload (now : ℕ) (fails : String → Bool) (transferId : String)
    (sourceName : Except RuntimeError String) (save : WriteOutcome RuntimeError)
  | finalizeResponse (number : ℕ) (requestId transferId : String)
  | importCommitted (now : ℕ) (expired : String → Bool) (transferId requesterPeerId : String)
    (save : WriteOutcome RuntimeError)

/-- The transfer that a message names beside its sealed text. -/
def Message.transferId : Message → String
  | .submitTransferPayload _ _ transferId _ _ => transferId
  | .finalizeResponse _ _ transferId => transferId
  | .importCommitted _ _ transferId _ _ => transferId

/-- A message that is delivered to a peer. -/
structure Delivery where
  side : Side
  wire : Wire
  message : Message

/-- The moves of the peers and of the network. -/
inductive Move where
  | deliver (delivery : Delivery)
  /-- a peer seals something else for the other -/
  | sealOther (side : Side) (payload : Value)
  /-- a preflight of the source is answered, with an id that nobody vouches for -/
  | reserve (side : Side) (transferId sourceTaskId : String)
  /-- the destination handles a request to prepare, and takes this new id -/
  | prepare (side : Side) (wire : Wire) (now : ℕ) (fails : String → Bool)
    (requestId sourcePeerId transferId : String) (save : WriteOutcome RuntimeError)
  /-- `prepare_transfer_commit` -/
  | commit (side : Side) (transferId : String) (payload : Value)
  /-- `finalize_outgoing_transfer` until it waits -/
  | requestFinalize (side : Side) (transferId ownerEpoch : String) (issuedAt : UInt64)
  /-- the source handles a request to finalize, and its desktop answers -/
  | answerFinalize (side : Side) (wire : Wire) (requestId transferId requesterPeerId : String)
    (payload : Value) (finalizedCleanly : Bool)
  /-- `acknowledge_import_committed` -/
  | acknowledge (side : Side) (transferId sourceTaskId destinationLocalTaskId : String)
  /-- a reservation expires or is abandoned -/
  | dropIncoming (side : Side) (transferId : String)
  | dropOutgoing (side : Side) (transferId : String)
  /-- `mark_import_commit_applied` -/
  | applyReceipt (side : Side) (now : ℕ) (transferId : String) (save : WriteOutcome RuntimeError)

/-- The recorded text that is delivered, and the transfer that the message names. -/
def Move.delivered? : Move → Option (ℕ × String)
  | .deliver ⟨_, .recorded position, message⟩ => some (position, message.transferId)
  | _ => none

namespace TransferNet

/-- No transfers yet. -/
def start : TransferNet :=
  ⟨fun _ => ⟨⟨∅, ∅, ∅, ∅, [], [], [], []⟩, ⟨∅, ∅⟩, fun _ => none, 0, []⟩, []⟩

/-- What opening a delivered text gives a peer: only what the other one has sealed for it. -/
def openWire (ids : Identities) (s : TransferNet) (side : Side) (wire : Wire) :
    Except RuntimeError Value :=
  match wire with
  | .forged => .error (.crypto "payload decryption failed")
  | .recorded position =>
    match s.sealings[position]? with
    | none => .error (.crypto "payload decryption failed")
    | some sealing =>
      openJson (ids.of side).publicKey (ids.of side.other).publicKey sealing.sealed

/-- Opening a text that is said to come from a peer, which has to be found first. -/
def openFrom (ids : Identities) (s : TransferNet) (side : Side) (peerId : String) (wire : Wire) :
    Except RuntimeError Value :=
  if peerId = (ids.of side.other).peerId then s.openWire ids side wire
  else .error (.peerNotFound peerId)

/-- A handler applied to what was delivered. -/
def receive (config : TransferConfig) (ids : Identities) (s : TransferNet)
    (delivery : Delivery) : TransferPeer × Except RuntimeError (Option Acceptance) :=
  let peer := s.peers delivery.side
  let opened := s.openWire ids delivery.side delivery.wire
  match delivery.message with
  | .submitTransferPayload now fails transferId sourceName save =>
    Transfers.submitTransferPayload config peer now fails transferId sourceName save opened
  | .finalizeResponse number requestId transferId =>
    finishFinalize peer number requestId transferId opened
  | .importCommitted now expired transferId requesterPeerId save =>
    Transfers.importCommitted config peer now expired transferId requesterPeerId save opened

/-- A machine has changed. -/
def setPeer (s : TransferNet) (side : Side) (peer : TransferPeer) : TransferNet :=
  { s with peers := Function.update s.peers side peer }

/-- What a peer makes when it seals a value for the other one. -/
def sealing (ids : Identities) (s : TransferNet) (side : Side) (transfer : Option String)
    (payload : Value) : Sealing :=
  ⟨side, transfer, ⟨(ids.of side).publicKey, (ids.of side.other).publicKey, s.sealings.length,
    payload⟩⟩

/-- A peer seals a value for the other one. -/
def sealJson (ids : Identities) (s : TransferNet) (side : Side) (transfer : Option String)
    (payload : Value) : TransferNet :=
  { s with sealings := s.sealings ++ [s.sealing ids side transfer payload] }

/-- The peer after a handler, with what it has newly accepted. -/
def accept (peer : TransferPeer) (outcome : Except RuntimeError (Option Acceptance)) :
    TransferPeer :=
  match outcome with
  | .ok (some acceptance) => { peer with accepted := acceptance :: peer.accepted }
  | _ => peer

/-- The id of the next request of a peer. -/
def nextRequestId (ids : Identities) (s : TransferNet) (side : Side) (tag : String) : String :=
  tag ++ "-" ++ (ids.of side).peerId ++ "-" ++ (s.peers side).requestCounter.repr

/-- One move, if it is enabled. A handler that fails answers with its error. -/
def step (config : TransferConfig) (ids : Identities) (s : TransferNet) :
    Move → Option TransferNet
  | .deliver delivery =>
    let received := s.receive config ids delivery
    some (s.setPeer delivery.side (accept received.1 received.2))
  | .sealOther side payload => some (s.sealJson ids side none payload)
  | .reserve side transferId sourceTaskId =>
    some (s.setPeer side ((s.peers side).setSource
      ((s.peers side).source.reserve transferId ⟨(ids.of side.other).peerId, sourceTaskId⟩)))
  | .prepare side wire now fails requestId sourcePeerId transferId save =>
    if ((s.peers side).incoming.reservations.lookup transferId).isSome then none
    else
      match preparedTask (ids.of side).peerId requestId sourcePeerId
          (s.openFrom ids side sourcePeerId wire) with
      | .error _ => some s
      | .ok sourceTaskId =>
        some (s.setPeer side ((s.peers side).setIncoming
          ((s.peers side).incoming.prepareTransfer config.reservations now fails sourcePeerId
            sourceTaskId transferId save).1))
  | .commit side transferId payload =>
    -- without a reservation: "missing target peer for transfer commit"
    ((s.peers side).source.outgoingTransfers.lookup transferId).map fun _ =>
      s.sealJson ids side (some transferId) payload
  | .requestFinalize side transferId ownerEpoch issuedAt =>
    -- without a reservation: "missing source peer for outgoing transfer finalization"
    ((s.peers side).incoming.reservations.lookup transferId).map fun _ =>
      let requestId := s.nextRequestId ids side "finalize"
      let peer := s.peers side
      (s.setPeer side { peer with
          finalizing := Function.update peer.finalizing peer.requestCounter
            (some ⟨requestId, transferId⟩)
          requestCounter := peer.requestCounter + 1 }).sealJson ids side (some transferId)
        (authenticatedRequest "finalize_transfer" requestId ownerEpoch issuedAt
          [("requester_peer_id", .string (ids.of side).peerId),
            ("transfer_id", .string transferId),
            ("reserved_target_peer_id", .string (ids.of side).peerId)])
  | .answerFinalize side wire requestId transferId requesterPeerId payload finalizedCleanly =>
    (admitFinalize (s.peers side) requestId transferId requesterPeerId
      (s.openWire ids side wire)).toOption.map fun _ =>
        s.sealJson ids side (some transferId) (finalizeResponse payload finalizedCleanly)
  | .acknowledge side transferId sourceTaskId destinationLocalTaskId =>
    (acknowledgeImportCommitted (s.peers side) transferId sourceTaskId
      destinationLocalTaskId).toOption.map fun payload =>
        s.sealJson ids side (some transferId) payload
  | .dropIncoming side transferId =>
    some (s.setPeer side ((s.peers side).setIncoming
      ((s.peers side).incoming.markImportAckCompleted (fun _ => false) transferId)))
  | .dropOutgoing side transferId =>
    some (s.setPeer side ((s.peers side).setSource
      ((s.peers side).source.dropReservation transferId)))
  | .applyReceipt side now transferId save =>
    some (s.setPeer side ((s.peers side).setSource
      ((s.peers side).source.markImportCommitApplied config.receipts transferId now save).1))

end TransferNet

end Kanna.Transfers
