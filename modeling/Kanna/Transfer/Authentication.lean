import Kanna.Transfer.Payload

/-!
# Authenticated peer requests

`authenticate_peer_request` of `runtime/listener.rs`, with the records that
`runtime/replay_store.rs` keeps of it and the load at startup (`runtime/lifecycle.rs`).
A request is accepted when its sealed payload names the action, the request and the epoch
of this process, is fresh by the clock, and its replay key is not in the table. The table
forgets a key when it expires, when its record cannot be saved, and when the process stops.

A call is cut where other calls can come in between: after it has read the clock and checked
the payload, after it has inserted its key under the lock of the table, and after its record
was saved or not. The clock only moves forward.
-/

namespace Kanna

/-! ### The checks -/

/-- What the listener is configured with. -/
structure AuthConfig where
  publicKey : String
  freshness : UInt64
  maxReplays : ℕ
  /-- `supports_authenticated_task_requests` -/
  supports : UInt32 → String → Bool

/-- A call of `authenticate_peer_request`, with what it reads of the discovered and trusted
peers. -/
structure AuthRequest where
  requesterPeerId : String
  sealedPayload : Option SealedJson
  action : String
  requestId : String
  /-- the requester as discovery knows it -/
  found : Except RuntimeError PeerRegistryEntry
  store : PeerStore
  externalPeers : ExternalPeers

/-- What a call holds after the checks. -/
structure CheckedRequest where
  requesterPeerId : String
  sealedPayload : SealedJson
  action : String
  requestId : String
  issuedAt : UInt64
  /-- the clock as the call has read it -/
  now : UInt64

/-- The active record of the requester under the discovered key. -/
def AuthRequest.trustedPeer (request : AuthRequest) (publicKey : String) : Option PeerRecord :=
  request.store.listActive.find? fun peer =>
    peer.peerId = request.requesterPeerId ∧ peer.publicKey = publicKey

/-- The requester, if it is found and trusted. -/
def AuthRequest.requester (request : AuthRequest) : Except RuntimeError PeerRegistryEntry := do
  let peer ← request.found
  ensurePeerIsTrusted request.store request.externalPeers request.requesterPeerId peer.publicKey
  if (request.trustedPeer peer.publicKey).isNone ∧
      externalKeyIsTrusted request.externalPeers request.requesterPeerId peer.publicKey = false then
    .error (.protocol ("peer " ++ request.requesterPeerId ++ " is not trusted"))
  else .ok peer

/-- The error of a request without a sealed payload. -/
def AuthRequest.missingPayload (config : AuthConfig) (request : AuthRequest)
    (peer : PeerRegistryEntry) : RuntimeError :=
  if externalKeyIsTrusted request.externalPeers request.requesterPeerId peer.publicKey ||
      (request.trustedPeer peer.publicKey).any fun trusted =>
        config.supports peer.protocolVersion trusted.capabilitiesJson then
    .protocol (request.action ++ " request is missing authenticated payload")
  else
    .protocol ("peer " ++ request.requesterPeerId ++ " uses protocol v" ++
      peer.protocolVersion.toNat.repr ++
      " without authenticated task requests; upgrade and re-pair the peer")

/-- The checks of the opened payload, up to the time it was issued at. -/
def checkPayload (epoch action requestId : String) (payload : Value) :
    Except RuntimeError UInt64 := do
  ensureAuthenticatedRequest payload action requestId
  if payload.str "owner_epoch" ≠ some epoch then
    .error (.protocol ("authenticated " ++ action ++ " request targets a stale owner epoch"))
  else
    okOr ((payload.get "issued_at_unix_ms").bind Value.asU64)
      (.protocol ("authenticated " ++ action ++ " payload is missing issued_at_unix_ms"))

/-- The checks of the time; both differences saturate. -/
def checkFreshness (action : String) (freshness now issuedAt : UInt64) :
    Except RuntimeError Unit :=
  if now.toNat - issuedAt.toNat > freshness.toNat then
    .error (.protocol ("stale authenticated " ++ action ++ " request"))
  else if issuedAt.toNat - now.toNat > freshness.toNat then
    .error (.protocol
      ("authenticated " ++ action ++ " request was issued too far in the future"))
  else .ok ()

/-- `authenticate_peer_request` until it takes the lock of the table. -/
def checkRequest (config : AuthConfig) (epoch : String) (now : UInt64) (request : AuthRequest) :
    Except RuntimeError CheckedRequest := do
  let peer ← request.requester
  let sealed ← okOr request.sealedPayload (request.missingPayload config peer)
  let payload ← openJson config.publicKey peer.publicKey sealed
  let issuedAt ← checkPayload epoch request.action request.requestId payload
  checkFreshness request.action config.freshness now issuedAt
  return ⟨request.requesterPeerId, sealed, request.action, request.requestId, issuedAt, now⟩

namespace CheckedRequest

/-- `replay_key`. -/
def replayKey (request : CheckedRequest) : String :=
  request.requesterPeerId ++ "\n" ++ request.action ++ "\n" ++ request.requestId

/-- `expires_at`; the sum saturates. -/
def expiresAt (freshness : UInt64) (request : CheckedRequest) : ℕ :=
  min (max request.now.toNat request.issuedAt.toNat + freshness.toNat) (UInt64.size - 1)

/-- The actions whose replay keys are saved. -/
def durable (request : CheckedRequest) : Bool :=
  request.action = "close_task" || request.action = "advance_task_stage" ||
    request.action = "prepare_transfer" || request.action = "finalize_transfer" ||
    request.action = "request_task_pull"

end CheckedRequest

/-! ### The table -/

/-- `AuthenticatedPeerRequestReplay` under its key, and the call that has inserted it; an
entry that was loaded has none. -/
structure Replay (ι : Type) where
  key : String
  expiresAt : ℕ
  durable : Bool
  owner : Option ι

/-- `authenticated_peer_requests`, and also the records on disk. -/
structure ReplayTable (ι : Type) where
  replays : List (Replay ι)
  distinct : (replays.map Replay.key).Nodup

namespace ReplayTable

variable {ι : Type}

/-- No request is remembered. -/
def empty : ReplayTable ι := ⟨[], List.nodup_nil⟩

variable (t : ReplayTable ι)

/-- The entries with a property. -/
def filter (p : Replay ι → Bool) : ReplayTable ι :=
  ⟨t.replays.filter p, t.distinct.sublist (List.filter_sublist.map _)⟩

/-- The entries that have not expired. -/
def sweep (now : UInt64) : ReplayTable ι :=
  t.filter fun replay => !decide (replay.expiresAt < now.toNat)

/-- The keys of the expired entries that were saved. -/
def expiredDurable (now : UInt64) : List String :=
  (t.replays.filter fun replay => replay.expiresAt < now.toNat && replay.durable).map Replay.key

/-- `HashMap::remove`. -/
def remove (key : String) : ReplayTable ι :=
  t.filter fun replay => !decide (replay.key = key)

/-- `HashMap::contains_key`. -/
def containsKey (key : String) : Bool :=
  t.replays.any fun replay => replay.key = key

theorem not_mem_keys_remove (key : String) : key ∉ (t.remove key).replays.map Replay.key := by
  intro hmem
  obtain ⟨replay, hreplay, hkey⟩ := List.mem_map.mp hmem
  have hne := (List.mem_filter.mp hreplay).2
  simp [hkey] at hne

/-- `HashMap::insert`. -/
def insert (replay : Replay ι) : ReplayTable ι :=
  ⟨replay :: (t.remove replay.key).replays,
    List.nodup_cons.mpr ⟨t.not_mem_keys_remove replay.key, (t.remove replay.key).distinct⟩⟩

end ReplayTable

/-! ### The listener -/

/-- Why a record was not saved. -/
inductive SaveError where
  | failed (error : RuntimeError)
  | taskFailed (error : String)

/-- What the call fails with. -/
def SaveError.toRuntimeError : SaveError → RuntimeError
  | .failed error => error
  | .taskFailed error =>
    .protocol ("authenticated replay persistence task failed: " ++ error)

/-- Where a call is. -/
inductive AuthCall where
  | notStarted
  /-- the checks are done, and it waits for the lock of the table -/
  | checked (request : CheckedRequest)
  /-- its key is inserted, and its record is being saved -/
  | saving (request : CheckedRequest)
  | saved (request : CheckedRequest) (outcome : Except SaveError Unit)
  /-- it has returned the payload -/
  | succeeded (request : CheckedRequest)
  | failed (error : RuntimeError)
  /-- the process has stopped -/
  | lost

/-- The listener, with what it has authenticated in all of its processes. -/
structure AuthListener (ι : Type) where
  clock : UInt64
  epoch : String
  /-- those of the processes before -/
  pastEpochs : List String
  /-- that of this process -/
  table : ReplayTable ι
  /-- what was saved -/
  disk : ReplayTable ι
  /-- the records that are being removed -/
  removals : List String
  calls : ι → AuthCall
  /-- the latest clock that a call has swept the table with -/
  lastSweep : UInt64
  /-- the payloads of the calls that succeeded, the last one first -/
  authenticated : List SealedJson

/-- The moves of the clock, the calls, the disk and the process. -/
inductive AuthMove (ι : Type) where
  | tick (now : UInt64)
  | check (i : ι) (request : AuthRequest)
  | enter (i : ι)
  | save (i : ι) (outcome : Except SaveError Unit)
  | resume (i : ι)
  | removeRecord (key : String)
  | restart (epoch : String)

namespace AuthListener

variable {ι : Type} [DecidableEq ι]

/-- A first process, which has nothing on disk. -/
def start (epoch : String) : AuthListener ι :=
  ⟨0, epoch, [], .empty, .empty, [], fun _ => .notStarted, 0, []⟩

/-- A call goes on. -/
def setCall (s : AuthListener ι) (i : ι) (call : AuthCall) : AuthListener ι :=
  { s with calls := Function.update s.calls i call }

/-- The call returns the payload. -/
def succeed (s : AuthListener ι) (i : ι) (request : CheckedRequest) : AuthListener ι :=
  { s.setCall i (.succeeded request) with
    authenticated := request.sealedPayload :: s.authenticated }

/-- The table after the expired entries were removed. -/
def sweep (s : AuthListener ι) (now : UInt64) : AuthListener ι :=
  { s with
    table := s.table.sweep now
    lastSweep := if s.lastSweep ≤ now then now else s.lastSweep }

/-- The call under the lock of the table. -/
def enter (config : AuthConfig) (s : AuthListener ι) (i : ι) (request : CheckedRequest) :
    AuthListener ι :=
  let swept := s.sweep request.now
  if swept.table.containsKey request.replayKey then
    swept.setCall i (.failed (.protocol
      ("replayed authenticated " ++ request.action ++ " request")))
  else if swept.table.replays.length ≥ config.maxReplays then
    swept.setCall i (.failed (.backpressure
      ("authenticated request replay window is full (maximum " ++ config.maxReplays.repr ++ ")")))
  else
    let inserted := { swept with
      table := swept.table.insert
        ⟨request.replayKey, request.expiresAt config.freshness, request.durable, some i⟩
      removals := s.table.expiredDurable request.now ++ s.removals }
    if request.durable then inserted.setCall i (.saving request) else inserted.succeed i request

/-- A call of a process that has stopped. -/
def stopped : AuthCall → AuthCall
  | .notStarted => .notStarted
  | .succeeded request => .succeeded request
  | .failed error => .failed error
  | _ => .lost

/-- One move, if it is enabled. -/
def step (config : AuthConfig) (s : AuthListener ι) : AuthMove ι → Option (AuthListener ι)
  | .tick now => if s.clock ≤ now then some { s with clock := now } else none
  | .check i request =>
    match s.calls i with
    | .notStarted =>
      match checkRequest config s.epoch s.clock request with
      | .error error => some (s.setCall i (.failed error))
      | .ok checked => some (s.setCall i (.checked checked))
    | _ => none
  | .enter i =>
    match s.calls i with
    | .checked request => some (s.enter config i request)
    | _ => none
  | .save i outcome =>
    match s.calls i with
    | .saving request =>
      match outcome with
      | .error error => some (s.setCall i (.saved request (.error error)))
      | .ok () =>
        some { s.setCall i (.saved request (.ok ())) with
          disk := s.disk.insert
            ⟨request.replayKey, request.expiresAt config.freshness, true, none⟩ }
    | _ => none
  | .resume i =>
    match s.calls i with
    | .saved request (.ok ()) => some (s.succeed i request)
    | .saved request (.error error) =>
      some { s.setCall i (.failed error.toRuntimeError) with
        table := s.table.remove request.replayKey }
    | _ => none
  | .removeRecord key =>
    if key ∈ s.removals then
      some { s with disk := s.disk.remove key, removals := s.removals.erase key }
    else none
  | .restart epoch =>
    if epoch ∈ s.epoch :: s.pastEpochs then none
    else
      let loaded := s.disk.sweep s.clock
      -- a process whose table is too small for the records does not start
      if loaded.replays.length > config.maxReplays then none
      else
        some { s with
          epoch := epoch
          pastEpochs := s.epoch :: s.pastEpochs
          table := loaded
          disk := loaded
          removals := []
          calls := fun i => stopped (s.calls i) }

end AuthListener

end Kanna
