import Mathlib.Data.List.Basic

/-!
# Trusted peers

`peer_store.rs`, the peers a runtime has paired with, and the lookups of `runtime/utils.rs`
and `runtime/external_peers.rs` that decide whether a key is trusted. The store is a list of
records on disk that is only written by `upsert` and `revoke`, and both keep one record for
each peer id, so `PeerStore` carries this as a field.

`key_upsert` is what pairing needs: after an `upsert` the key stored for the peer is the
one of the record that was given.
-/

namespace Kanna

/-- `PeerStoreError`. -/
inductive PeerStoreError where
  | io (error : String)
  | json (error : String)
  | peerNotFound (peerId : String)

/-- The `Display` of a `PeerStoreError`. -/
def PeerStoreError.toString : PeerStoreError → String
  | .io error => "i/o error: " ++ error
  | .json error => "json error: " ++ error
  | .peerNotFound peerId => "peer not found: " ++ peerId

/-- `RuntimeError`. -/
inductive RuntimeError where
  | io (error : String)
  | json (error : String)
  | registry (error : String)
  | peerStore (error : PeerStoreError)
  | crypto (error : String)
  | invalidConfig (message : String)
  | peerNotFound (peerId : String)
  | protocol (message : String)
  | backpressure (message : String)
  | peerRequestTimeout (peerId : String) (timeoutMs : ℕ)
  | discovery (message : String)
  | incomingEventChannelClosed

/-- The `Display` of a `RuntimeError`. -/
def RuntimeError.toString : RuntimeError → String
  | .io error => "i/o error: " ++ error
  | .json error => "json error: " ++ error
  | .registry error => "registry error: " ++ error
  | .peerStore error => "peer store error: " ++ error.toString
  | .crypto error => "crypto error: " ++ error
  | .invalidConfig message => "invalid runtime config: " ++ message
  | .peerNotFound peerId => "peer not found: " ++ peerId
  | .protocol message => "protocol error: " ++ message
  | .backpressure message => message
  | .peerRequestTimeout peerId timeoutMs =>
    "peer request to " ++ peerId ++ " timed out after " ++ timeoutMs.repr ++ "ms"
  | .discovery message => "discovery error: " ++ message
  | .incomingEventChannelClosed => "incoming event channel closed"

/-- `PeerRegistryEntry`: what discovery reports of a peer. -/
structure PeerRegistryEntry where
  peerId : String
  displayName : String
  endpoint : String
  pid : UInt32
  publicKey : String
  protocolVersion : UInt32
  acceptingTransfers : Bool

/-- `PeerRecord`. -/
structure PeerRecord where
  peerId : String
  displayName : String
  publicKey : String
  capabilitiesJson : String
  pairedAt : String
  lastSeenAt : Option String
  revokedAt : Option String

/-- The record `upsert` writes over one that exists. -/
def PeerRecord.merge (existing record : PeerRecord) : PeerRecord where
  peerId := existing.peerId
  displayName := record.displayName
  publicKey := record.publicKey
  capabilitiesJson := record.capabilitiesJson
  pairedAt := existing.pairedAt
  lastSeenAt := record.lastSeenAt <|> existing.lastSeenAt
  revokedAt := record.revokedAt <|> existing.revokedAt

/-- The records after `upsert`: the first one of the peer is merged, or the new one is
pushed at the end. -/
def upsertRecords (record : PeerRecord) : List PeerRecord → List PeerRecord
  | [] => [record]
  | existing :: records =>
    if existing.peerId = record.peerId then existing.merge record :: records
    else existing :: upsertRecords record records

open PeerRecord

theorem peerIds_upsertRecords (record : PeerRecord) (records : List PeerRecord) :
    (upsertRecords record records).map peerId =
      if record.peerId ∈ records.map peerId then records.map peerId
      else records.map peerId ++ [record.peerId] := by
  induction records with
  | nil => rfl
  | cons existing records ih =>
    rw [upsertRecords]
    split
    next heq =>
      rw [List.map_cons, List.map_cons, ← heq, if_pos List.mem_cons_self]
      rfl
    next hne =>
      rw [List.map_cons, List.map_cons, ih]
      split
      next hmem => rw [if_pos (List.mem_cons_of_mem _ hmem)]
      next hmem =>
        rw [if_neg (List.not_mem_cons_of_ne_of_not_mem (Ne.symm hne) hmem)]
        rfl

theorem nodup_upsertRecords (record : PeerRecord) {records : List PeerRecord}
    (h : (records.map peerId).Nodup) : ((upsertRecords record records).map peerId).Nodup := by
  rw [peerIds_upsertRecords]
  split
  next => exact h
  next hmem => exact List.nodup_append.mpr ⟨h, List.pairwise_singleton _ _, by grind⟩

/-- What `revoke` does to each record. -/
def PeerRecord.revokeFor (peerId now : String) (record : PeerRecord) : PeerRecord :=
  if record.peerId = peerId then { record with revokedAt := some now } else record

theorem peerIds_revokeFor (peerId now : String) (records : List PeerRecord) :
    (records.map (PeerRecord.revokeFor peerId now)).map PeerRecord.peerId =
      records.map PeerRecord.peerId := by
  rw [List.map_map]
  refine List.map_congr_left fun record _ => ?_
  rw [Function.comp_apply, revokeFor]
  split <;> rfl

/-- `PeerStore`: the records on disk, one for each peer id. -/
structure PeerStore where
  records : List PeerRecord
  distinct : (records.map PeerRecord.peerId).Nodup

namespace PeerStore

/-- A store whose file does not exist. -/
def empty : PeerStore := ⟨[], List.nodup_nil⟩

variable (store : PeerStore)

/-- `PeerStore::list_active`. -/
def listActive : List PeerRecord :=
  store.records.filter fun record => record.revokedAt.isNone

/-- `PeerStore::upsert`, when reading and writing succeed. -/
def upsert (record : PeerRecord) : PeerStore :=
  ⟨upsertRecords record store.records, nodup_upsertRecords record store.distinct⟩

/-- `PeerStore::revoke` at a time, when reading and writing succeed. -/
def revoke (peerId now : String) : Except PeerStoreError PeerStore :=
  if peerId ∈ store.records.map PeerRecord.peerId then
    .ok ⟨store.records.map (PeerRecord.revokeFor peerId now),
      (peerIds_revokeFor peerId now store.records).symm ▸ store.distinct⟩
  else .error (.peerNotFound peerId)

/-- The record stored for a peer, revoked or not. -/
def recordOf (peerId : String) : Option PeerRecord :=
  store.records.find? fun record => record.peerId = peerId

/-- `trusted_peer_record`. -/
def trustedPeerRecord (peerId : String) : Option PeerRecord :=
  store.listActive.find? fun record => record.peerId = peerId

/-- `ensure_peer_is_trusted_for`. -/
def ensurePeerIsTrustedFor (peerId observedPublicKey : String) : Except RuntimeError Unit :=
  if ((store.trustedPeerRecord peerId).filter fun record =>
      record.publicKey = observedPublicKey).isSome then .ok ()
  else .error (.protocol ("peer " ++ peerId ++ " is not trusted"))

/-- The record a lookup finds after an `upsert` of the same peer. -/
def merged (record : PeerRecord) : PeerRecord :=
  match store.recordOf record.peerId with
  | some existing => existing.merge record
  | none => record

theorem find_upsertRecords (record : PeerRecord) (records : List PeerRecord) :
    (upsertRecords record records).find? (fun r => r.peerId = record.peerId) =
      some (match records.find? (fun r => r.peerId = record.peerId) with
        | some existing => existing.merge record
        | none => record) := by
  induction records with
  | nil => rw [upsertRecords, List.find?_nil, List.find?_cons_of_pos (by simp)]
  | cons existing records ih =>
    rw [upsertRecords]
    split
    next heq =>
      rw [List.find?_cons_of_pos (by simpa [merge] using heq),
        List.find?_cons_of_pos (by simpa using heq)]
    next hne =>
      rw [List.find?_cons_of_neg (by simpa using hne), List.find?_cons_of_neg (by simpa using hne),
        ih]

variable (store : PeerStore) (record : PeerRecord)

theorem recordOf_upsert :
    (store.upsert record).recordOf record.peerId = some (store.merged record) :=
  find_upsertRecords record store.records

@[simp] theorem merged_publicKey : (store.merged record).publicKey = record.publicKey := by
  rw [merged]
  split <;> rfl

/-- After an `upsert` the stored key is the one of the given record. -/
theorem key_upsert :
    ((store.upsert record).recordOf record.peerId).map publicKey = some record.publicKey := by
  rw [recordOf_upsert, Option.map_some, merged_publicKey]

end PeerStore

/-- `ExternalPeerRegistry`: the key a cloud peer is registered with. -/
abbrev ExternalPeers := String → Option String

/-- `external_key_is_trusted`. -/
def externalKeyIsTrusted (registry : ExternalPeers) (peerId observedPublicKey : String) : Bool :=
  ((registry peerId).map fun publicKey => decide (publicKey = observedPublicKey)).getD false

/-- `ensure_peer_is_trusted` of `external_peers.rs`. -/
def ensurePeerIsTrusted (store : PeerStore) (registry : ExternalPeers)
    (peerId observedPublicKey : String) : Except RuntimeError Unit :=
  if externalKeyIsTrusted registry peerId observedPublicKey then .ok ()
  else store.ensurePeerIsTrustedFor peerId observedPublicKey

end Kanna
