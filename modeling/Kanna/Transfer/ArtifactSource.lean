import Kanna.Transfer.StreamCrypto
import Mathlib.Data.List.Nodup

/-!
# Serving an artifact

The source's side of an artifact fetch: the loop of `runtime/listener.rs` that reads the
artifact's file and seals what each read returns, then an empty last chunk at the end of the
file. The reads cut the file in any way, and an error of the file or of the connection can end
the loop before its end.

`Sealings` is everything that was ever sealed by anyone: the streams of such loops, and the
JSON payloads, which use the same cipher. Each stream has drawn its own ephemeral key. What a
receiver can open as a chunk of a response is then a chunk of one stream that was sealed for
this response, at its own place (`exists_stream_of_mem_log`), and there is only one such stream
for an ephemeral key.
-/

namespace Kanna

/-- `TRANSFER_ARTIFACT_CHUNK_BYTES`. -/
def transferArtifactChunkBytes : ℕ := 65536

/-- `MAX_TRANSFER_ARTIFACT_BYTES`. -/
def maxTransferArtifactBytes : UInt64 := 134217728

/-- The `seal_chunk` calls of the loop, each with its flag, up to one that fails. -/
def sealReads (ended : Bool) : List (List UInt8) → StreamSealer → List (Bool × ChunkSealing)
  | [], sealer =>
    if ended then
      match sealer.sealChunk [] true with
      | .error _ => []
      | .ok (sealing, _) => [(true, sealing)]
    else []
  | read :: reads, sealer =>
    match sealer.sealChunk read false with
    | .error _ => []
    | .ok (sealing, sealer) => (false, sealing) :: sealReads ended reads sealer

/-- A run of the loop. -/
structure SealedStream where
  key : SessionKey
  noncePrefix : NoncePrefix
  ids : ArtifactIds
  plaintextSize : UInt64
  /-- what the reads have returned -/
  reads : List (List UInt8)
  /-- the loop has come to the end of the file -/
  ended : Bool

namespace SealedStream

/-- The sealer the loop starts with. -/
def sealer (stream : SealedStream) : StreamSealer :=
  .new stream.key.sender stream.key.receiver stream.key.ephemeral stream.noncePrefix
    (artifactStreamContext stream.ids stream.plaintextSize)

/-- The chunks it has sealed. -/
def chunks (stream : SealedStream) : List (Bool × ChunkSealing) :=
  sealReads stream.ended stream.reads stream.sealer

/-- The plaintext it has sealed. -/
def plaintext (stream : SealedStream) : List UInt8 := stream.reads.flatten

/-- What is sealed at a place of the stream: a read, or the empty last chunk. -/
def ChunkAt (stream : SealedStream) (place : ℕ) (finalChunk : Bool)
    (plaintext : List UInt8) : Prop :=
  if finalChunk then stream.ended = true ∧ place = stream.reads.length ∧ plaintext = []
  else stream.reads[place]? = some plaintext

/-- The stream answers a request for an artifact of this size, under this key. -/
def Answers (stream : SealedStream) (key : SessionKey) (ids : ArtifactIds)
    (plaintextSize : UInt64) : Prop :=
  stream.key = key ∧ stream.ids = ids ∧ stream.plaintextSize = plaintextSize

end SealedStream

/-- A JSON payload that `seal_json` has sealed. -/
structure Envelope where
  key : SessionKey
  nonce : List UInt8
  plaintext : List UInt8

/-- The use of the cipher that `seal_json` makes. -/
def Envelope.sealing (envelope : Envelope) : ChunkSealing :=
  ⟨envelope.key, envelope.nonce, associatedData envelope.key, envelope.plaintext⟩

/-- Everything that was sealed. -/
structure Sealings where
  streams : List SealedStream
  envelopes : List Envelope
  /-- each stream draws its own ephemeral key -/
  fresh : (streams.map fun stream => stream.key.ephemeral).Nodup

/-- The uses of the cipher. -/
def Sealings.log (sealings : Sealings) : List ChunkSealing :=
  sealings.streams.flatMap (fun stream => stream.chunks.map Prod.snd) ++
    sealings.envelopes.map Envelope.sealing

/-! ### The response -/

/-- `ArtifactFraming`. -/
inductive ArtifactFraming where
  | legacySealedV1
  | streamedV3
  deriving DecidableEq

/-- `ArtifactFraming::name`. -/
def ArtifactFraming.name : ArtifactFraming → String
  | .legacySealedV1 => "legacy_sealed_v1"
  | .streamedV3 => "streamed_v3"

/-- `ArtifactFraming::parse`. -/
def ArtifactFraming.parse (name : String) : Except RuntimeError ArtifactFraming :=
  if name = "legacy_sealed_v1" then .ok .legacySealedV1
  else if name = "streamed_v3" then .ok .streamedV3
  else .error (.protocol ("unsupported artifact framing " ++ name))

/-- `ArtifactFetchWireResponse`: the line in front of the chunks. -/
structure ArtifactFetchWireResponse where
  responseType : String
  requestId : String
  transferId : Option String
  sealedPayload : Option SealedJson
  streamHeader : Option SealedStreamHeader
  message : Option String

/-- The file of an artifact; a file system has no longer names. -/
structure StagedArtifact where
  filename : String
  contents : List UInt8
  filename_le : filename.utf8ByteSize ≤ 255

/-- What the reads of a file return, up to its end: something each time, as much as fits. -/
structure FileReads (contents : List UInt8) where
  reads : List (List UInt8)
  flatten_reads : reads.flatten = contents
  read_ne_nil : ∀ read ∈ reads, read ≠ []
  length_read_le : ∀ read ∈ reads, read.length ≤ transferArtifactChunkBytes

/-- `write_artifact_chunk`. -/
def writeArtifactChunk (ciphertext : List UInt8) (finalChunk : Bool) :
    Except RuntimeError (List UInt8) :=
  if ciphertext.length < UInt32.size then
    .ok ((if finalChunk then 1 else 0) :: (Bytes.toBe 4 ciphertext.length ++ ciphertext))
  else .error (.protocol "artifact chunk length overflow")

/-- The chunks of the loop, on the connection. -/
def writeArtifactChunks (cipher : ChunkCipher) :
    List (Bool × ChunkSealing) → Except RuntimeError (List UInt8)
  | [] => .ok []
  | (finalChunk, sealing) :: chunks => do
    let bytes ← writeArtifactChunk (cipher.encrypt sealing) finalChunk
    return bytes ++ (← writeArtifactChunks cipher chunks)

/-- The metadata of a streamed artifact. -/
def streamedMetadata (ids : ArtifactIds) (filename : String) (plaintextSize : UInt64) : Value :=
  .object [("request_id", .string ids.requestId), ("transfer_id", .string ids.transferId),
    ("artifact_id", .string ids.artifactId),
    ("artifact_framing", .string ArtifactFraming.streamedV3.name),
    ("filename", .string filename), ("plaintext_size", .posInt plaintextSize)]

/-- `PeerResponse::FetchTransferArtifact`, in front of a stream. -/
def servedResponse (nonce : ℕ) (filename : String) (stream : SealedStream) :
    ArtifactFetchWireResponse where
  responseType := "fetch_transfer_artifact"
  requestId := stream.ids.requestId
  transferId := some stream.ids.transferId
  sealedPayload := some
    { sender := publicKeyToString stream.key.sender
      receiver := publicKeyToString stream.key.receiver
      nonce := nonce
      payload := streamedMetadata stream.ids filename stream.plaintextSize }
  streamHeader := some stream.sealer.header
  message := none

/-- The stream of an artifact whose file is read to its end. -/
def servedStream (key : SessionKey) (noncePrefix : NoncePrefix) (ids : ArtifactIds)
    (artifact : StagedArtifact) (file : FileReads artifact.contents) : SealedStream where
  key := key
  noncePrefix := noncePrefix
  ids := ids
  plaintextSize := UInt64.ofNat artifact.contents.length
  reads := file.reads
  ended := true

/-- A response as it leaves the source, and the run of the loop it comes from. -/
structure ServedArtifact where
  response : ArtifactFetchWireResponse
  bytes : List UInt8
  stream : SealedStream

/-- The streamed branch of the `FetchTransferArtifact` handler, with the ephemeral key and the
nonces it draws, when nothing is wrong with the file and the connection. -/
def serveArtifact (cipher : ChunkCipher) (key : SessionKey) (noncePrefix : NoncePrefix)
    (nonce : ℕ) (ids : ArtifactIds) (artifact : StagedArtifact)
    (file : FileReads artifact.contents) : Except RuntimeError ServedArtifact :=
  if maxTransferArtifactBytes.toNat < artifact.contents.length then
    .error (.protocol ("transfer artifact exceeds maximum size of " ++
      maxTransferArtifactBytes.toNat.repr ++ " bytes"))
  else do
    let stream := servedStream key noncePrefix ids artifact file
    let bytes ← writeArtifactChunks cipher stream.chunks
    return ⟨servedResponse nonce artifact.filename stream, bytes, stream⟩

/-! ### What the chunks are -/

variable {finalChunk : Bool} {plaintext : List UInt8} {sealing : ChunkSealing}

/-- `seal_chunk` seals at its next number, and goes on to the one after it. -/
theorem StreamSealer.sealChunk_eq_ok {sealer sealer' : StreamSealer}
    (h : sealer.sealChunk plaintext finalChunk = .ok (sealing, sealer')) :
    sealing = ⟨sealer.key, streamNonce sealer.noncePrefix sealer.nextSequence,
        streamChunkAad sealer.aad sealer.nextSequence finalChunk, plaintext⟩ ∧
      ∃ next : UInt64, checkedAdd sealer.nextSequence 1 = some next ∧
        sealer' = { sealer with nextSequence := next } := by
  obtain ⟨next, hnext, h⟩ := of_okOr h
  obtain ⟨rfl, rfl⟩ := Prod.mk.inj (Except.ok.inj h)
  exact ⟨rfl, next, hnext, rfl⟩

/-- A chunk of the loop is a read, or the empty last chunk, at the number of its place. -/
theorem mem_sealReads {ended : Bool} {reads : List (List UInt8)} {sealer : StreamSealer}
    (h : (finalChunk, sealing) ∈ sealReads ended reads sealer) :
    ∃ (place : ℕ) (sequence : UInt64), sequence.toNat = sealer.nextSequence.toNat + place ∧
      sealing.key = sealer.key ∧ sealing.aad = streamChunkAad sealer.aad sequence finalChunk ∧
      if finalChunk then ended = true ∧ place = reads.length ∧ sealing.plaintext = []
      else reads[place]? = some sealing.plaintext := by
  induction reads generalizing sealer with
  | nil =>
    rw [sealReads] at h
    split at h
    next hended =>
      split at h
      next => cases h
      next sealing' sealer' hseal =>
        obtain ⟨rfl, rfl⟩ := Prod.mk.inj (List.mem_singleton.mp h)
        obtain ⟨rfl, -⟩ := StreamSealer.sealChunk_eq_ok hseal
        exact ⟨0, sealer.nextSequence, rfl, rfl, rfl, hended, rfl, rfl⟩
    next => cases h
  | cons read reads ih =>
    rw [sealReads] at h
    split at h
    next => cases h
    next sealing' sealer' hseal =>
    obtain ⟨rfl, next, hnext, rfl⟩ := StreamSealer.sealChunk_eq_ok hseal
    obtain h | h := List.mem_cons.mp h
    · obtain ⟨rfl, rfl⟩ := Prod.mk.inj h
      exact ⟨0, sealer.nextSequence, rfl, rfl, rfl, rfl⟩
    · obtain ⟨place, sequence, hsequence, hkey, haad, hread⟩ := ih h
      refine ⟨place + 1, sequence, ?_, hkey, haad, ?_⟩
      · rw [hsequence, toNat_of_checkedAdd hnext, UInt64.toNat_one, Nat.add_assoc, Nat.add_comm 1]
      · cases finalChunk with
        | false => exact hread
        | true => exact ⟨hread.1, congrArg (· + 1) hread.2.1, hread.2.2⟩

variable {sealings : Sealings}

/-- **What opens as a chunk of a response** is the chunk at this place of a stream that was
sealed for this response. -/
theorem Sealings.exists_stream_of_mem_log {key : SessionKey} {ids : ArtifactIds}
    {size sequence : UInt64} {nonce : List UInt8}
    (h : ⟨key, nonce, streamChunkAad (streamAssociatedData key (artifactStreamContext ids size))
      sequence finalChunk, plaintext⟩ ∈ sealings.log) :
    ∃ stream ∈ sealings.streams, stream.Answers key ids size ∧
      stream.ChunkAt sequence.toNat finalChunk plaintext := by
  rw [Sealings.log] at h
  obtain h | h := List.mem_append.mp h
  · obtain ⟨stream, hstream, h⟩ := List.mem_flatMap.mp h
    obtain ⟨⟨finalChunk', sealing⟩, hchunk, rfl⟩ := List.mem_map.mp h
    obtain ⟨place, sequence', hsequence, hkey, haad, hplace⟩ := mem_sealReads hchunk
    have hkey' : key = stream.key := hkey
    subst hkey'
    obtain ⟨rfl, rfl, rfl, rfl⟩ := streamChunkAad_inj haad
    refine ⟨stream, hstream, ⟨rfl, rfl, rfl⟩, ?_⟩
    have hplace' : sequence.toNat = place := hsequence.trans (Nat.zero_add place)
    rw [SealedStream.ChunkAt, hplace']
    exact hplace
  · -- the associated data of a JSON payload is shorter
    obtain ⟨envelope, -, henvelope⟩ := List.mem_map.mp h
    have hkey : envelope.key = key := congrArg Sealing.key henvelope
    subst hkey
    exact absurd (congrArg Sealing.aad henvelope) associatedData_ne_streamChunkAad

variable {stream : SealedStream}

/-- What a stream has sealed was sealed. -/
theorem Sealings.mem_log {chunk : Bool × ChunkSealing} (hstream : stream ∈ sealings.streams)
    (hchunk : chunk ∈ stream.chunks) : chunk.2 ∈ sealings.log :=
  List.mem_append_left _
    (List.mem_flatMap.mpr ⟨stream, hstream, List.mem_map.mpr ⟨chunk, hchunk, rfl⟩⟩)

end Kanna
