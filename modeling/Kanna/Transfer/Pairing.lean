import Mathlib.Data.List.AList
import Kanna.Transfer.Trust

/-!
# Pairing

`start_pairing` and `accept_pairing` of `runtime/pairing.rs`, the `StartPairing` arm of
`runtime/listener.rs` and `pairing_verification_code` of `runtime/utils.rs`. Both users are
shown a code computed from the two identities, and pairing is meant to trust only keys that
the code covers. The network may give any response to a request and send any request.

A `Peer` is a runtime with the calls of `start_pairing` that wait for a response and the
`StartPairing` handlers that wait for their user. A call or a handler is cut where it waits,
and `Peer.step` lets them go on in any order.
-/

namespace Kanna.Pairing

/-! ### The messages -/

/-- `DiscoveredPeer`. -/
structure DiscoveredPeer : Type extends PeerRegistryEntry where
  trusted : Bool

/-- `PairingPeer`. -/
structure PairingPeer where
  peerId : String
  displayName : String
  publicKey : String
  capabilitiesJson : String

/-- `PeerRequest::StartPairing`. -/
structure StartPairing where
  requestId : String
  sourcePeerId : String
  sourceDisplayName : String
  sourcePublicKey : String
  capabilitiesJson : String

/-- `PeerResponse`; the responses pairing does not expect are shown as they print. -/
inductive PeerResponse where
  | startPairing (requestId : String) (peer : PairingPeer) (verificationCode : String)
  | error (requestId message : String)
  | other (debug : String)

/-- The events of pairing. -/
inductive RuntimeEvent where
  | pairingStarted (peerId displayName verificationCode : String)
  | pairingRequested (requestId peerId displayName verificationCode : String)
  | pairingCompleted (peerId displayName verificationCode : String)

/-- `PairingResult`. -/
structure PairingResult where
  peer : DiscoveredPeer
  verificationCode : String

/-- `local_capabilities_json`; the keys are printed in order. -/
def localCapabilitiesJson : String :=
  "\x7b\"authenticatedTaskRequestVersion\":1,\"authenticatedTaskRequests\":true," ++
    "\"companionCapabilityVersion\":1,\"protocolVersion\":5,\"transferCapabilityVersion\":1\x7d"

/-! ### The verification code -/

section Code

variable (sha256 : List UInt8 → Fin 32 → UInt8)

/-- What the code shows of a participant. -/
def participant (peerId publicKey : String) : String := peerId ++ ":" ++ publicKey

/-- `u32::from_be_bytes`. -/
def u32FromBeBytes (a b c d : UInt8) : ℕ :=
  a.toNat * 16777216 + b.toNat * 65536 + c.toNat * 256 + d.toNat

/-- `pairing_verification_code`. -/
def pairingVerificationCode (leftPeerId leftPublicKey rightPeerId rightPublicKey : String) :
    String :=
  let left := participant leftPeerId leftPublicKey
  let right := participant rightPeerId rightPublicKey
  let participants := if left ≤ right then (left, right) else (right, left)
  let digest := sha256 (participants.1.toUTF8.toList ++ "|".toUTF8.toList ++
    participants.2.toUTF8.toList)
  let value := u32FromBeBytes (digest 0) (digest 1) (digest 2) (digest 3) % 1000000
  String.ofList (List.leftpad 6 '0' value.repr.toList)

/-- The participants are sorted, so both sides compute the same code. -/
theorem pairingVerificationCode_comm
    (leftPeerId leftPublicKey rightPeerId rightPublicKey : String) :
    pairingVerificationCode sha256 leftPeerId leftPublicKey rightPeerId rightPublicKey =
      pairingVerificationCode sha256 rightPeerId rightPublicKey leftPeerId leftPublicKey := by
  simp only [pairingVerificationCode]
  generalize participant leftPeerId leftPublicKey = left
  generalize participant rightPeerId rightPublicKey = right
  by_cases hle : left ≤ right
  · by_cases hge : right ≤ left
    · rw [String.le_antisymm hle hge]
    · rw [if_pos hle, if_neg hge]
  · rw [if_neg hle, if_pos ((String.le_total left right).resolve_left hle)]

end Code

/-! ### The runtime -/

/-- The part of `TransferRuntime` that pairing reads and writes. -/
structure TransferRuntime where
  peerId : String
  displayName : String
  publicKey : String
  requestNamespace : String
  maxPendingPairingRequests : ℕ
  requestCounter : ℕ
  externalPeers : ExternalPeers
  store : PeerStore
  /-- the code each request was shown with -/
  pendingPairingRequests : AList fun _ : String => String

/-- What a `start_pairing` holds while it waits for the response. -/
structure PairingCall where
  requestId : String
  targetPeer : PeerRegistryEntry
  expectedVerificationCode : String

namespace TransferRuntime

variable (sha256 : List UInt8 → Fin 32 → UInt8)

variable (r : TransferRuntime)

/-- `next_request_id`. -/
def nextRequestId (tag : String) : String :=
  tag ++ "-" ++ r.peerId ++ "-" ++ r.requestNamespace ++ "-" ++ r.requestCounter.repr

/-- The runtime after an id was taken. -/
def countRequest : TransferRuntime :=
  { r with requestCounter := r.requestCounter + 1 }

/-- `discovered_peer`; the disk may fail. -/
def discoveredPeer (peer : PeerRegistryEntry)
    (diskError : Option PeerStoreError) : Except RuntimeError DiscoveredPeer :=
  match diskError with
  | some error => .error (.peerStore error)
  | none =>
    .ok { peer with
      trusted := ((r.store.trustedPeerRecord peer.peerId).map fun record =>
          decide (record.publicKey = peer.publicKey)).getD false ||
        externalKeyIsTrusted r.externalPeers peer.peerId peer.publicKey }

/-- `upsert_trusted_peer`; the disk may fail. -/
def upsertTrustedPeer (record : PeerRecord)
    (diskError : Option PeerStoreError) : Except RuntimeError TransferRuntime :=
  match diskError with
  | some error => .error (.peerStore error)
  | none => .ok { r with store := r.store.upsert record }

/-- The request `start_pairing` sends. -/
def startPairingRequest : StartPairing :=
  ⟨r.nextRequestId "pair", r.peerId, r.displayName, r.publicKey, localCapabilitiesJson⟩

/-- What `start_pairing` holds after it has looked up its target. -/
def pairingCall (targetPeer : PeerRegistryEntry) : PairingCall :=
  ⟨r.nextRequestId "pair", targetPeer,
    pairingVerificationCode sha256 r.peerId r.publicKey targetPeer.peerId targetPeer.publicKey⟩

/-- `start_pairing` after the response. -/
def finishPairing (call : PairingCall)
    (response : Except RuntimeError PeerResponse) (upsertError readError : Option PeerStoreError)
    (now : String) : Except RuntimeError PairingResult × TransferRuntime :=
  match response with
  | .error error => (.error error, r)
  | .ok (.startPairing responseRequestId peer verificationCode) =>
    if responseRequestId ≠ call.requestId then
      (.error (.protocol ("mismatched request id in pairing response: expected " ++
        call.requestId ++ ", got " ++ responseRequestId)), r)
    else if peer.peerId ≠ call.targetPeer.peerId then
      (.error (.protocol ("mismatched peer id in pairing response: expected " ++
        call.targetPeer.peerId ++ ", got " ++ peer.peerId)), r)
    else if verificationCode ≠ call.expectedVerificationCode then
      (.error (.protocol ("mismatched verification code in pairing response: expected " ++
        call.expectedVerificationCode ++ ", got " ++ verificationCode)), r)
    else
      match r.upsertTrustedPeer ⟨peer.peerId, peer.displayName, peer.publicKey,
          peer.capabilitiesJson, now, some now, none⟩ upsertError with
      | .error error => (.error error, r)
      | .ok r' =>
        (match r'.discoveredPeer call.targetPeer readError with
          | .error error => .error error
          | .ok peer => .ok ⟨peer, verificationCode⟩, r')
  | .ok (.error _ message) => (.error (.protocol message), r)
  | .ok (.other debug) =>
    (.error (.protocol ("unexpected response while handling pairing: " ++ debug)), r)

/-- A response whose ids and code match is accepted, whatever its key is. -/
theorem finishPairing_of_matching (call : PairingCall) {peer : PairingPeer}
    (hpeer : peer.peerId = call.targetPeer.peerId) (now : String) :
    ∃ result, r.finishPairing call
        (.ok (.startPairing call.requestId peer call.expectedVerificationCode)) none none now =
      (.ok result, { r with store := r.store.upsert ⟨peer.peerId, peer.displayName,
        peer.publicKey, peer.capabilitiesJson, now, some now, none⟩ }) := by
  rw [finishPairing, if_neg (not_not.mpr rfl), if_neg (not_not.mpr hpeer), if_neg (not_not.mpr rfl)]
  exact ⟨_, rfl⟩

/-- Inversion of a pairing that succeeds: the response matches, and the disk has not failed. -/
theorem finishPairing_eq_ok {r : TransferRuntime} {call : PairingCall}
    {response : Except RuntimeError PeerResponse} {upsertError readError : Option PeerStoreError}
    {now : String} {result : PairingResult}
    (h : (r.finishPairing call response upsertError readError now).1 = .ok result) :
    ∃ peer, response = .ok (.startPairing call.requestId peer call.expectedVerificationCode) ∧
      peer.peerId = call.targetPeer.peerId ∧ upsertError = none ∧ readError = none := by
  match response with
  | .error error => cases h
  | .ok (.error _ message) => cases h
  | .ok (.other debug) => cases h
  | .ok (.startPairing responseRequestId peer verificationCode) =>
    rw [finishPairing] at h
    split_ifs at h with hid hpeer hcode
    rw [not_not] at hid hpeer hcode
    subst hid hcode
    cases upsertError with
    | some error => cases h
    | none =>
      cases readError with
      | some error => cases h
      | none => exact ⟨peer, rfl, hpeer, rfl, rfl⟩

end TransferRuntime

/-! ### The listener -/

/-- A `StartPairing` handler, which waits for its user and then has the answer. -/
structure PairingHandler where
  request : StartPairing
  verificationCode : String
  /-- `none` while it waits; `false` also if it has stopped waiting -/
  approved : Option Bool

namespace TransferRuntime

variable (sha256 : List UInt8 → Fin 32 → UInt8)

variable (r : TransferRuntime)

/-- The id a handler waits under. -/
def pairingRequestId : String :=
  "incoming-pair-" ++ r.peerId ++ "-" ++ r.requestCounter.repr

/-- The code the handler shows. -/
def requestedCode (request : StartPairing) : String :=
  pairingVerificationCode sha256 request.sourcePeerId request.sourcePublicKey r.peerId r.publicKey

/-- The `StartPairing` handler until it waits; otherwise the response it writes. -/
def handleStartPairing (request : StartPairing) (delivered : Bool) :
    Except PeerResponse PairingHandler × TransferRuntime :=
  if r.pendingPairingRequests.keys.length ≥ r.maxPendingPairingRequests then
    (.error (.error request.requestId (RuntimeError.backpressure
        ("pending pairing request capacity " ++ r.maxPendingPairingRequests.repr ++
          " is exhausted")).toString), r.countRequest)
  else if delivered then
    (.ok ⟨request, r.requestedCode sha256 request, none⟩,
      { r.countRequest with
        pendingPairingRequests :=
          r.pendingPairingRequests.insert r.pairingRequestId (r.requestedCode sha256 request) })
  else
    (.error (.error request.requestId RuntimeError.incomingEventChannelClosed.toString),
      r.countRequest)

/-- The handler's runtime after it has removed its entry. -/
def removePending (pairingRequestId : String) : TransferRuntime :=
  { r with pendingPairingRequests := r.pendingPairingRequests.erase pairingRequestId }

/-- The record the handler stores for an accepted request. -/
def requestRecord (request : StartPairing) (now : String) : PeerRecord :=
  ⟨request.sourcePeerId, request.sourceDisplayName, request.sourcePublicKey,
    request.capabilitiesJson, now, some now, none⟩

/-- The response to an accepted request. -/
def acceptedResponse (handler : PairingHandler) : PeerResponse :=
  .startPairing handler.request.requestId
    ⟨r.peerId, r.displayName, r.publicKey, localCapabilitiesJson⟩ handler.verificationCode

end TransferRuntime

/-! ### A peer -/

/-- A pairing that has succeeded: the code the user was shown, the key of the peer it was
computed from, and the key that is stored for the peer afterwards. -/
structure PairedKey where
  peerId : String
  shownCode : String
  codeKey : String
  storedKey : Option String

/-- A runtime with its calls and handlers, and what it has shown, sent and paired. -/
structure Peer where
  runtime : TransferRuntime
  /-- the pairings it has started -/
  calls : ℕ → Option PairingCall
  /-- the requests that wait for its user -/
  handlers : String → Option PairingHandler
  events : List RuntimeEvent
  requests : List StartPairing
  responses : List PeerResponse
  pairings : List PairedKey

/-- What a peer does next; the network, the users and the disk are free. -/
inductive Move where
  /-- `start_pairing` until it waits for the response -/
  | start (found : Except RuntimeError PeerRegistryEntry) (delivered : Bool)
  /-- a response, or the failure to get one, for the call with this number -/
  | finish (number : ℕ) (response : Except RuntimeError PeerResponse)
    (upsertError readError : Option PeerStoreError) (now : String)
  /-- a `StartPairing` request arrives -/
  | request (request : StartPairing) (delivered : Bool)
  /-- `accept_pairing` -/
  | accept (requestId verificationCode : String)
  /-- `reject_pairing` -/
  | reject (requestId : String)
  /-- the handler stops waiting -/
  | expire (requestId : String)
  /-- the handler goes on after it has waited -/
  | settle (requestId : String) (upsertError : Option PeerStoreError) (delivered : Bool)
    (now : String)
  /-- the user revokes a peer -/
  | revoke (peerId now : String)

namespace Peer

variable (sha256 : List UInt8 → Fin 32 → UInt8)

/-- A peer that has not paired in this run. -/
def start (runtime : TransferRuntime) : Peer :=
  ⟨runtime, fun _ => none, fun _ => none, [], [], [], []⟩

/-- The key stored for a peer. -/
def storedKey (runtime : TransferRuntime) (peerId : String) : Option String :=
  (runtime.store.recordOf peerId).map PeerRecord.publicKey

/-- `start_pairing` until it waits for the response. -/
def startPairing (s : Peer) (found : Except RuntimeError PeerRegistryEntry) (delivered : Bool) :
    Peer :=
  match found with
  | .error _ => s
  | .ok targetPeer =>
    let call := s.runtime.pairingCall sha256 targetPeer
    if delivered then
      { s with
        runtime := s.runtime.countRequest
        calls := Function.update s.calls s.runtime.requestCounter (some call)
        events := .pairingStarted targetPeer.peerId targetPeer.displayName
          call.expectedVerificationCode :: s.events
        requests := s.runtime.startPairingRequest :: s.requests }
    else { s with runtime := s.runtime.countRequest }

/-- `start_pairing` after the response. -/
def finishPairing (s : Peer) (number : ℕ) (call : PairingCall)
    (response : Except RuntimeError PeerResponse) (upsertError readError : Option PeerStoreError)
    (now : String) : Peer :=
  let outcome := s.runtime.finishPairing call response upsertError readError now
  let s' := { s with runtime := outcome.2, calls := Function.update s.calls number none }
  match outcome.1 with
  | .error _ => s'
  | .ok _ =>
    { s' with pairings := ⟨call.targetPeer.peerId, call.expectedVerificationCode,
        call.targetPeer.publicKey, storedKey outcome.2 call.targetPeer.peerId⟩ :: s.pairings }

/-- The `StartPairing` handler until it waits. -/
def handleStartPairing (s : Peer) (request : StartPairing) (delivered : Bool) : Peer :=
  let outcome := s.runtime.handleStartPairing sha256 request delivered
  match outcome.1 with
  | .error response => { s with runtime := outcome.2, responses := response :: s.responses }
  | .ok handler =>
    { s with
      runtime := outcome.2
      handlers := Function.update s.handlers s.runtime.pairingRequestId (some handler)
      events := .pairingRequested s.runtime.pairingRequestId request.sourcePeerId
        request.sourceDisplayName handler.verificationCode :: s.events }

/-- A decision of the user takes the entry, and reaches the handler if it still waits. -/
def sendDecision (s : Peer) (requestId : String) (approved : Bool) :
    Except RuntimeError Unit × Peer :=
  let s' := { s with runtime := s.runtime.removePending requestId }
  match s.handlers requestId with
  | some ⟨request, verificationCode, none⟩ =>
    (.ok (), { s' with
      handlers := Function.update s.handlers requestId
        (some ⟨request, verificationCode, some approved⟩) })
  | _ =>
    (.error (.protocol ("pairing request " ++ requestId ++ " is no longer waiting")), s')

/-- `accept_pairing`. -/
def acceptPairing (s : Peer) (requestId verificationCode : String) :
    Except RuntimeError Unit × Peer :=
  match s.runtime.pendingPairingRequests.lookup requestId with
  | none => (.error (.protocol ("pairing request " ++ requestId ++ " is not pending")), s)
  | some shown =>
    if shown ≠ verificationCode then
      (.error (.protocol
        ("pairing request " ++ requestId ++ " verification code did not match")), s)
    else s.sendDecision requestId true

theorem acceptPairing_of_shown {s : Peer} {requestId verificationCode : String}
    (h : s.runtime.pendingPairingRequests.lookup requestId = some verificationCode) :
    s.acceptPairing requestId verificationCode = s.sendDecision requestId true := by
  rw [acceptPairing, h]
  exact if_neg (not_not.mpr rfl)

/-- `reject_pairing`. -/
def rejectPairing (s : Peer) (requestId : String) : Except RuntimeError Unit × Peer :=
  match s.runtime.pendingPairingRequests.lookup requestId with
  | none => (.error (.protocol ("pairing request " ++ requestId ++ " is not pending")), s)
  | some _ => s.sendDecision requestId false

/-- The handler after it has waited. -/
def settlePairing (s : Peer) (requestId : String) (handler : PairingHandler) (approved : Bool)
    (upsertError : Option PeerStoreError) (delivered : Bool) (now : String) : Peer :=
  let s' := { s with
    runtime := s.runtime.removePending requestId
    handlers := Function.update s.handlers requestId none }
  if approved = false then
    { s' with responses :=
        .error handler.request.requestId "pairing request was not accepted" :: s.responses }
  else
    match s'.runtime.upsertTrustedPeer
        (TransferRuntime.requestRecord handler.request now) upsertError with
    | .error _ => s'
    | .ok r =>
      let paired := { s' with
        runtime := r
        pairings := ⟨handler.request.sourcePeerId, handler.verificationCode,
          handler.request.sourcePublicKey, storedKey r handler.request.sourcePeerId⟩ ::
            s.pairings }
      if delivered then
        { paired with
          events := .pairingCompleted handler.request.sourcePeerId
            handler.request.sourceDisplayName handler.verificationCode :: s.events
          responses := r.acceptedResponse handler :: s.responses }
      else paired

/-- One move, if it is enabled. -/
def step (s : Peer) : Move → Option Peer
  | .start found delivered => some (s.startPairing sha256 found delivered)
  | .finish number response upsertError readError now =>
    (s.calls number).map fun call =>
      s.finishPairing number call response upsertError readError now
  | .request request delivered => some (s.handleStartPairing sha256 request delivered)
  | .accept requestId verificationCode =>
    some (s.acceptPairing requestId verificationCode).2
  | .reject requestId => some (s.rejectPairing requestId).2
  | .expire requestId =>
    match s.handlers requestId with
    | some ⟨request, verificationCode, none⟩ =>
      some { s with
        handlers := Function.update s.handlers requestId
          (some ⟨request, verificationCode, some false⟩) }
    | _ => none
  | .settle requestId upsertError delivered now =>
    match s.handlers requestId with
    | some ⟨request, verificationCode, some approved⟩ =>
      some (s.settlePairing requestId ⟨request, verificationCode, some approved⟩ approved
        upsertError delivered now)
    | _ => none
  | .revoke peerId now =>
    match s.runtime.store.revoke peerId now with
    | .error _ => none
    | .ok store => some { s with runtime := { s.runtime with store := store } }

end Peer

end Kanna.Pairing
