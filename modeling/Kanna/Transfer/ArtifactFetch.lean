import Kanna.Transfer.ArtifactSource

/-!
# Fetching an artifact

`fetch_peer_artifact_stream` of `runtime/peer.rs`, for a peer with streamed framing. The
response line is checked field by field, the metadata is opened, and the chunks that follow
are opened one after the other into a partial file, which takes its place under the artifact's
name at the end and is removed on every other way out (`GuardedArtifactPart`).

The network is everything behind the connection: it hands over any line and any bytes, and
then it closes the connection or falls silent until the request times out. The machine says
which names the partial file is tried under and which operations on files fail.
-/

namespace Kanna

/-! ### Metadata -/

/-- `StreamedArtifactMetadata`. -/
structure StreamedArtifactMetadata where
  requestId : Option String
  transferId : Option String
  artifactId : String
  artifactFraming : Option String
  filename : String
  plaintextSize : UInt64

/-- The types of its fields. -/
inductive MetadataField where
  | optionalText
  | text
  | unsigned

namespace StreamedArtifactMetadata

/-- Its fields. -/
def fields : List (String × MetadataField) :=
  [("request_id", .optionalText), ("transfer_id", .optionalText), ("artifact_id", .text),
    ("artifact_framing", .optionalText), ("filename", .text), ("plaintext_size", .unsigned)]

/-- What is wrong with the value of a field. -/
def fieldError : MetadataField → Value → Option String
  | .optionalText, .null => none
  | .optionalText, .string _ => none
  | .text, .string _ => none
  | .unsigned, .posInt _ => none
  | .unsigned, .negInt n =>
    some ("invalid value: integer `" ++ toString n ++ "`, expected u64")
  | .unsigned, value => some ("invalid type: " ++ value.unexpected ++ ", expected u64")
  | _, value => some ("invalid type: " ++ value.unexpected ++ ", expected a string")

/-- The visit of the fields, `seen` being the ones before. -/
def visit (seen : List String) : List (String × Value) → Except RuntimeError Unit
  | [] => .ok ()
  | (name, value) :: rest => do
    let field ← okOr (fields.lookup name) (.json ("unknown field `" ++ name ++
      "`, expected one of `request_id`, `transfer_id`, `artifact_id`, `artifact_framing`, " ++
      "`filename`, `plaintext_size`"))
    if name ∈ seen then .error (.json ("duplicate field `" ++ name ++ "`"))
    else
      match fieldError field value with
      | some error => .error (.json error)
      | none => visit (name :: seen) rest

/-- `serde_json::from_slice`, with `deny_unknown_fields`; where in the text an error lies is
not told. -/
def ofValue (value : Value) : Except RuntimeError StreamedArtifactMetadata := do
  let .object entries := value | .error (.json ("invalid type: " ++ value.unexpected ++
    ", expected struct StreamedArtifactMetadata"))
  visit [] entries
  let artifactId ← okOr (value.str "artifact_id") (.json "missing field `artifact_id`")
  let filename ← okOr (value.str "filename") (.json "missing field `filename`")
  let plaintextSize ← okOr ((value.get "plaintext_size").bind Value.asU64)
    (.json "missing field `plaintext_size`")
  return ⟨value.str "request_id", value.str "transfer_id", artifactId,
    value.str "artifact_framing", filename, plaintextSize⟩

end StreamedArtifactMetadata

/-- The metadata a source seals is read back. -/
theorem ofValue_streamedMetadata (ids : ArtifactIds) (filename : String) (size : UInt64) :
    StreamedArtifactMetadata.ofValue (streamedMetadata ids filename size) =
      .ok ⟨some ids.requestId, some ids.transferId, ids.artifactId,
        some ArtifactFraming.streamedV3.name, filename, size⟩ := rfl

/-! ### The response line -/

/-- `MAX_ARTIFACT_ERROR_MESSAGE_BYTES`. -/
def maxArtifactErrorMessageBytes : ℕ := 65536

/-- `MAX_ARTIFACT_FILENAME_BYTES`. -/
def maxArtifactFilenameBytes : ℕ := 255

/-- `MAX_STREAM_HEADER_FIELD_BYTES`. -/
def maxStreamHeaderFieldBytes : ℕ := 64

/-- What the response line carries: the sealed metadata and the header of the stream. -/
def ArtifactFetchWireResponse.accept (response : ArtifactFetchWireResponse) (ids : ArtifactIds) :
    Except RuntimeError (SealedJson × Option SealedStreamHeader) :=
  if response.responseType = "fetch_transfer_artifact" then
    if response.message.isSome then
      .error (.protocol "artifact fetch response included error-only fields")
    else if response.requestId ≠ ids.requestId then
      .error (.protocol "mismatched request id in artifact fetch response")
    else do
      let transferId ← okOr response.transferId
        (.protocol "artifact fetch response missing transfer_id")
      if transferId ≠ ids.transferId then
        .error (.protocol "mismatched transfer id in artifact fetch response")
      else do
        let sealedPayload ← okOr response.sealedPayload
          (.protocol "artifact fetch response missing sealed_payload")
        return (sealedPayload, response.streamHeader)
  else if response.responseType = "error" then
    if response.transferId.isSome ∨ response.sealedPayload.isSome ∨
        response.streamHeader.isSome then
      .error (.protocol "artifact error response included fetch-only fields")
    else do
      let message ← okOr response.message (.protocol "artifact error response missing message")
      if maxArtifactErrorMessageBytes < message.utf8ByteSize then
        .error (.protocol "artifact error response message exceeds maximum size")
      else .error (.protocol message)
  else .error (.protocol "unexpected response while fetching transfer artifact")

/-- `ensure_optional_artifact_metadata_match`. -/
def ensureOptionalArtifactMetadataMatch (authenticated : Option String)
    (expected label : String) : Except RuntimeError Unit :=
  if authenticated.isSome ∧ authenticated ≠ some expected then
    .error (.protocol
      ("artifact response authenticated " ++ label ++ " does not match request"))
  else .ok ()

/-- The check of the framing that the metadata names, if it does. -/
def ensureArtifactFraming (responseFraming : Option String) (artifactFraming : ArtifactFraming) :
    Except RuntimeError Unit :=
  match responseFraming with
  | none => .ok ()
  | some name => do
    if (← ArtifactFraming.parse name) = artifactFraming then .ok ()
    else .error (.protocol ("artifact response authenticated framing does not match requested " ++
      artifactFraming.name))

/-- The checks of the metadata, up to the one of the file name. -/
def StreamedArtifactMetadata.check (metadata : StreamedArtifactMetadata) (ids : ArtifactIds) :
    Except RuntimeError Unit := do
  ensureOptionalArtifactMetadataMatch metadata.requestId ids.requestId "request id"
  ensureOptionalArtifactMetadataMatch metadata.transferId ids.transferId "transfer id"
  if metadata.artifactId ≠ ids.artifactId then
    .error (.protocol "mismatched artifact id in artifact fetch response")
  else do
    ensureArtifactFraming metadata.artifactFraming .streamedV3
    if maxArtifactFilenameBytes < metadata.filename.utf8ByteSize then
      .error (.protocol "artifact filename exceeds maximum size")
    else .ok ()

/-- `BorrowedStreamHeader::to_owned_bounded`. -/
def SealedStreamHeader.toOwnedBounded (header : SealedStreamHeader) :
    Except RuntimeError SealedStreamHeader :=
  if maxStreamHeaderFieldBytes < header.ephemeralPublicKey.utf8ByteSize ∨
      maxStreamHeaderFieldBytes < header.noncePrefixB64.utf8ByteSize then
    .error (.protocol "artifact stream header field exceeds maximum size")
  else .ok header

/-- The checks of the header and of the size, behind those of the metadata. -/
def checkStream (peerId : String) (header : Option SealedStreamHeader) (plaintextSize : UInt64) :
    Except RuntimeError SealedStreamHeader := do
  let header ← okOr header
    (.protocol ("peer " ++ peerId ++ " omitted negotiated streamed artifact framing"))
  let header ← header.toOwnedBounded
  if maxTransferArtifactBytes < plaintextSize then
    .error (.protocol ("transfer artifact exceeds maximum size of " ++
      maxTransferArtifactBytes.toNat.repr ++ " bytes"))
  else .ok header

/-! ### Files -/

/-- The artifact directory of a transfer: the contents of its files. -/
def Directory : Type := String → Option (List UInt8)

namespace Directory

/-- Write a file. -/
def put (directory : Directory) (name : String) (contents : List UInt8) : Directory :=
  fun other => if other = name then some contents else directory other

/-- Remove a file. -/
def remove (directory : Directory) (name : String) : Directory :=
  fun other => if other = name then none else directory other

end Directory

/-- The random names and the failures of one fetch. -/
structure Machine where
  /-- the bytes drawn for the name of the partial file, try by try -/
  nonces : ℕ → List UInt8
  createDirError : Option String
  createError : Option String
  /-- the error of the write of a chunk -/
  writeError : UInt64 → Option String
  /-- an error of the flush, the sync or the rename -/
  commitError : Option String

/-- `GuardedArtifactPart`, by its name in the directory. -/
structure GuardedArtifactPart where
  name : String

namespace GuardedArtifactPart

/-- The name of a partial file. -/
def nameOf (nonce : List UInt8) : String :=
  ".artifact-" ++ String.ofList (Base64.encodeUrl nonce) ++ ".part"

/-- The tries of `create`. -/
def createFrom (machine : Machine) (directory : Directory) :
    List (List UInt8) → Except RuntimeError (GuardedArtifactPart × Directory)
  | [] => .error (.protocol "could not allocate a unique artifact partial file")
  | nonce :: nonces =>
    if (directory (nameOf nonce)).isSome then createFrom machine directory nonces
    else
      match machine.createError with
      | some error => .error (.io error)
      | none => .ok (⟨nameOf nonce⟩, directory.put (nameOf nonce) [])

/-- `GuardedArtifactPart::create`. -/
def create (machine : Machine) (directory : Directory) :
    Except RuntimeError (GuardedArtifactPart × Directory) :=
  createFrom machine directory ((List.range 16).map machine.nonces)

/-- `GuardedArtifactPart::write_all`, of the chunk with this number. -/
def writeAll (machine : Machine) (part : GuardedArtifactPart) (sequence : UInt64)
    (payload : List UInt8) (directory : Directory) : Except RuntimeError Directory :=
  match machine.writeError sequence with
  | some error => .error (.io error)
  | none => .ok (directory.put part.name ((directory part.name).getD [] ++ payload))

/-- `GuardedArtifactPart::commit`. -/
def commit (machine : Machine) (part : GuardedArtifactPart) (destination : String)
    (directory : Directory) : Except RuntimeError Directory :=
  match machine.commitError, directory part.name with
  | some error, _ => .error (.io error)
  | none, none => .error (.io "No such file or directory (os error 2)")
  | none, some contents => .ok ((directory.remove part.name).put destination contents)

/-- `Drop` of a part that was not committed. -/
def drop (part : GuardedArtifactPart) (directory : Directory) : Directory :=
  directory.remove part.name

end GuardedArtifactPart

/-- `sanitize_artifact_filename`. -/
def sanitizeArtifactFilename (filename : List Char) : List Char :=
  let sanitized := filename.map fun c => if c = '/' ∨ c = '\\' then '-' else c
  if sanitized = [] then "artifact".toList else sanitized

/-- `truncate_on_char_boundary`. -/
def truncateOnCharBoundary (value : List Char) (budget : ℕ) : List Char :=
  if byteLen value ≤ budget then value else takeBytes value (backOff value 0 budget)

/-- `managed_artifact_filename`, for a SHA-256. -/
def managedArtifactFilename (sha256 : List UInt8 → Fin 32 → UInt8) (artifactId : String) :
    String :=
  let suffix := Base64.encodeUrl ((List.ofFn (sha256 (utf8 artifactId))).take 12)
  let prefixBudget := 96 - byteLen suffix - 1
  String.ofList (truncateOnCharBoundary (sanitizeArtifactFilename artifactId.toList)
    prefixBudget ++ '-' :: suffix)

/-! ### The chunks -/

/-- What ends the bytes of a connection. -/
inductive Ending where
  | closed
  | timedOut (peerId : String) (timeoutMs : ℕ)

/-- The error of a read behind the last byte. -/
def Ending.error : Ending → RuntimeError
  | .closed => .io "early eof"
  | .timedOut peerId timeoutMs => .peerRequestTimeout peerId timeoutMs

/-- `read_exact`. -/
def readExact (ending : Ending) (n : ℕ) (bytes : List UInt8) :
    Except RuntimeError (List UInt8 × List UInt8) :=
  if n ≤ bytes.length then .ok (bytes.take n, bytes.drop n) else .error ending.error

/-- The largest ciphertext of a chunk. -/
def maximumCiphertext : ℕ := transferArtifactChunkBytes + 16

/-- The flag and the ciphertext of the next chunk, and the bytes behind it. -/
def readArtifactChunk (ending : Ending) (bytes : List UInt8) :
    Except RuntimeError (Bool × List UInt8 × List UInt8) := do
  let (flag, bytes) ← readExact ending 1 bytes
  let (length, bytes) ← readExact ending 4 bytes
  if maximumCiphertext < Bytes.ofBe length then
    .error (.protocol ("artifact chunk exceeds maximum encrypted size of " ++
      maximumCiphertext.repr ++ " bytes"))
  else do
    let (ciphertext, rest) ← readExact ending (Bytes.ofBe length) bytes
    return (Bytes.ofBe flag ≠ 0, ciphertext, rest)

/-- What a fetch is about: the cipher and what it has sealed, the machine, the connection, and
the partial file for an artifact of this size. -/
structure ChunkReader where
  cipher : ChunkCipher
  log : List ChunkSealing
  machine : Machine
  ending : Ending
  part : GuardedArtifactPart
  plaintextSize : UInt64

/-- The variables of the loop. -/
structure ReadState where
  opener : StreamOpener
  sequence : UInt64
  written : UInt64
  directory : Directory

namespace ChunkReader

/-- What the loop does with a plaintext it has opened: it ends, it goes on, or it fails. -/
def accept (reader : ChunkReader) (finalChunk : Bool) (plaintext : List UInt8)
    (opener : StreamOpener) (state : ReadState) : Except RuntimeError (Option ReadState) := do
  let sequence ← okOr (checkedAdd state.sequence 1)
    (.protocol "artifact chunk sequence exhausted")
  if finalChunk then
    if plaintext ≠ [] ∨ state.written ≠ reader.plaintextSize then
      .error (.protocol "artifact stream ended with a size mismatch")
    else .ok none
  else do
    let written ← okOr (checkedAdd state.written (UInt64.ofNat plaintext.length))
      (.protocol "artifact plaintext size overflow")
    if reader.plaintextSize < written ∨ maxTransferArtifactBytes < written then
      .error (.protocol "artifact stream exceeded its declared size")
    else do
      let directory ← reader.part.writeAll reader.machine state.sequence plaintext state.directory
      return some ⟨opener, sequence, written, directory⟩

/-- The loop over the chunks, with the directory it leaves. A chunk takes more than one byte,
so there are never more rounds than bytes. -/
def readChunks (reader : ChunkReader) :
    ℕ → List UInt8 → ReadState → Except RuntimeError Unit × Directory
  | 0, _, state => (.error reader.ending.error, state.directory)
  | rounds + 1, bytes, state =>
    match readArtifactChunk reader.ending bytes with
    | .error error => (.error error, state.directory)
    | .ok (finalChunk, ciphertext, rest) =>
      match state.opener.openChunk reader.cipher reader.log state.sequence ciphertext
        finalChunk with
      | .error error => (.error error, state.directory)
      | .ok (plaintext, opener) =>
        match reader.accept finalChunk plaintext opener state with
        | .error error => (.error error, state.directory)
        | .ok none => (.ok (), state.directory)
        | .ok (some state) => readChunks reader rounds rest state

end ChunkReader

/-! ### The fetch -/

/-- The receiver of an artifact. -/
structure ArtifactReceiver where
  /-- the key of its identity -/
  publicKey : PublicKey
  artifactPeerRequestPermits : ℕ

/-- What comes back on the connection: the line, or the error of connecting and reading it,
and the bytes behind it. -/
structure ArtifactDelivery where
  line : Except RuntimeError ArtifactFetchWireResponse
  bytes : List UInt8
  ending : Ending

/-- The part of the fetch in front of the partial file: the header of the stream and the size
of the artifact. -/
def openArtifactResponse (receiver : ArtifactReceiver) (peerId : String) (ids : ArtifactIds)
    (sourcePublicKey : PublicKey) (machine : Machine)
    (line : Except RuntimeError ArtifactFetchWireResponse) :
    Except RuntimeError (SealedStreamHeader × UInt64) :=
  if receiver.artifactPeerRequestPermits = 0 then
    .error (.backpressure "artifact peer request capacity is exhausted")
  else do
    let (sealedPayload, header) ← (← line).accept ids
    let value ← openJson (publicKeyToString receiver.publicKey)
      (publicKeyToString sourcePublicKey) sealedPayload
    let metadata ← StreamedArtifactMetadata.ofValue value
    metadata.check ids
    match machine.createDirError with
    | some error => .error (.io error)
    | none => do
      let header ← checkStream peerId header metadata.plaintextSize
      return (header, metadata.plaintextSize)

/-- `fetch_peer_artifact_stream`, for the streamed framing: the name of the file, and the
directory. -/
def fetchPeerArtifactStream (cipher : ChunkCipher) (sha256 : List UInt8 → Fin 32 → UInt8)
    (log : List ChunkSealing) (receiver : ArtifactReceiver) (peerId : String) (ids : ArtifactIds)
    (sourcePublicKey : PublicKey) (machine : Machine) (delivery : ArtifactDelivery)
    (directory : Directory) : Except RuntimeError String × Directory :=
  match openArtifactResponse receiver peerId ids sourcePublicKey machine delivery.line with
  | .error error => (.error error, directory)
  | .ok (header, plaintextSize) =>
    match GuardedArtifactPart.create machine directory with
    | .error error => (.error error, directory)
    | .ok (part, created) =>
      match StreamOpener.new receiver.publicKey sourcePublicKey header
        (artifactStreamContext ids plaintextSize) with
      | .error error => (.error error, part.drop created)
      | .ok opener =>
        match ChunkReader.readChunks ⟨cipher, log, machine, delivery.ending, part, plaintextSize⟩
          delivery.bytes.length delivery.bytes ⟨opener, 0, 0, created⟩ with
        | (.error error, written) => (.error error, part.drop written)
        | (.ok (), written) =>
          match part.commit machine (managedArtifactFilename sha256 ids.artifactId) written with
          | .error error => (.error error, part.drop written)
          | .ok committed => (.ok (managedArtifactFilename sha256 ids.artifactId), committed)

end Kanna
