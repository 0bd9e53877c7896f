import Kanna.Lib.Aead
import Kanna.Lib.Base64
import Kanna.Lib.Bytes
import Kanna.Lib.Run
import Kanna.Lib.Utf8
import Kanna.Transfer.Payload

/-!
# Sealed streams

The part of `crypto.rs` that seals an artifact in chunks. A `StreamSealer` and the
`StreamOpener` on the other side count the chunks; each chunk is sealed with a nonce made of a
prefix and the number of the chunk, and with associated data that holds the keys of both
peers, the context of the response, the number of the chunk and whether it is the last one.

The key of the cipher is derived from the keys of the sender and the receiver and from an
ephemeral key, and is taken to be these three keys (`SessionKey`); the cipher is ideal
(`Aead`). What the associated data has to do is to tell everything apart that goes into it:
`streamChunkAad_inj`, which rests on every text being written after its length.
-/

namespace Kanna

/-- `u64::checked_add`. -/
def checkedAdd (a b : UInt64) : Option UInt64 :=
  if a.toNat + b.toNat < UInt64.size then some (a + b) else none

theorem toNat_of_checkedAdd {a b c : UInt64} (h : checkedAdd a b = some c) :
    c.toNat = a.toNat + b.toNat := by
  rw [checkedAdd] at h
  split at h
  next hlt =>
    obtain rfl := Option.some.inj h
    rw [UInt64.toNat_add]
    exact Nat.mod_eq_of_lt hlt
  next => cases h

theorem checkedAdd_of_lt {a b : UInt64} (h : a.toNat + b.toNat < UInt64.size) :
    checkedAdd a b = some (a + b) := if_pos h

open Bytes

theorem toNat_lt_cap (n : UInt64) : n.toNat < cap 8 := n.toNat_lt

/-! ### Keys -/

/-- `x25519_dalek::PublicKey`. -/
structure PublicKey where
  bytes : List UInt8
  length_eq : bytes.length = 32
  deriving DecidableEq

/-- `public_key_to_string`. -/
def publicKeyToString (key : PublicKey) : String := String.ofList (Base64.encodeUrl key.bytes)

/-- `CryptoError::Base64`; how the text is wrong is not told. -/
def base64Error : RuntimeError := .crypto "base64 error"

/-- `parse_public_key`. -/
def parsePublicKey (encoded : String) : Except RuntimeError PublicKey := do
  let bytes ← okOr (Base64.decodeUrl encoded.toList) base64Error
  if h : bytes.length = 32 then .ok ⟨bytes, h⟩
  else .error (.crypto ("invalid public key length: expected 32 bytes, got " ++ bytes.length.repr))

theorem parsePublicKey_publicKeyToString (key : PublicKey) :
    parsePublicKey (publicKeyToString key) = .ok key := by
  have hdecode : Base64.decodeUrl (publicKeyToString key).toList = some key.bytes := by
    rw [publicKeyToString, String.toList_ofList, Base64.decodeUrl_encodeUrl]
  rw [parsePublicKey, hdecode]
  exact dif_pos key.length_eq

/-- The 16 random bytes a sealer starts its nonces with. -/
structure NoncePrefix where
  bytes : List UInt8
  length_eq : bytes.length = 16

/-- What the key of `build_cipher` is derived from. -/
structure SessionKey where
  sender : PublicKey
  receiver : PublicKey
  ephemeral : PublicKey
  deriving DecidableEq

/-! ### Contexts -/

/-- `ENVELOPE_VERSION`. -/
def envelopeVersion : UInt32 := 1

/-- `ENCRYPTION_CONTEXT`. -/
def encryptionContext : String := "kanna-task-transfer:sealed-json:v1"

/-- `STREAM_ENCRYPTION_CONTEXT`. -/
def streamEncryptionContext : String := "kanna-task-transfer:artifact-stream:v1"

/-- `ARTIFACT_RESPONSE_CONTEXT`. -/
def artifactResponseContext : String := "kanna-task-transfer:artifact-response-metadata:v1"

/-- `append_context_field`. -/
def appendContextField (context field : List UInt8) : List UInt8 :=
  context ++ Bytes.lengthPrefixed 8 field

/-- The ids a request for an artifact is made with. A process holds them in its memory at
once, so together they are shorter than its address space. -/
@[ext]
structure ArtifactIds where
  requestId : String
  transferId : String
  artifactId : String
  addressable : requestId.utf8ByteSize + transferId.utf8ByteSize + artifactId.utf8ByteSize <
    9223372036854775808

/-- `artifact_stream_context`. -/
def artifactStreamContext (ids : ArtifactIds) (plaintextSize : UInt64) : List UInt8 :=
  appendContextField (appendContextField (appendContextField (utf8 artifactResponseContext)
    (utf8 ids.requestId)) (utf8 ids.transferId)) (utf8 ids.artifactId) ++
    Bytes.toBe 8 plaintextSize.toNat

/-- `associated_data`. -/
def associatedData (key : SessionKey) : List UInt8 :=
  utf8 encryptionContext ++ key.sender.bytes ++ key.receiver.bytes ++ key.ephemeral.bytes

/-- `stream_associated_data`. -/
def streamAssociatedData (key : SessionKey) (responseContext : List UInt8) : List UInt8 :=
  appendContextField (associatedData key ++ utf8 streamEncryptionContext) responseContext

/-- `stream_nonce`. -/
def streamNonce (noncePrefix : NoncePrefix) (sequence : UInt64) : List UInt8 :=
  noncePrefix.bytes ++ Bytes.toBe 8 sequence.toNat

/-- `stream_chunk_aad`. -/
def streamChunkAad (base : List UInt8) (sequence : UInt64) (finalChunk : Bool) : List UInt8 :=
  base ++ Bytes.toBe 8 sequence.toNat ++ [if finalChunk then 1 else 0]

theorem length_artifactStreamContext (ids : ArtifactIds) (plaintextSize : UInt64) :
    (artifactStreamContext ids plaintextSize).length < cap 8 := by
  have haddressable := ids.addressable
  have hcontext : (utf8 artifactResponseContext).length = 49 := rfl
  have hcap : cap 8 = 18446744073709551616 := rfl
  simp only [artifactStreamContext, appendContextField, lengthPrefixed, List.length_append,
    length_toBe, length_utf8 ids.requestId, length_utf8 ids.transferId,
    length_utf8 ids.artifactId, hcontext, hcap]
  omega

/-- The context tells the ids and the size. -/
theorem artifactStreamContext_inj {ids ids' : ArtifactIds} {size size' : UInt64}
    (h : artifactStreamContext ids size = artifactStreamContext ids' size') :
    ids = ids' ∧ size = size' := by
  have hcap : cap 8 = 18446744073709551616 := rfl
  have haddressable := ids.addressable
  have haddressable' := ids'.addressable
  simp only [artifactStreamContext, appendContextField, List.append_assoc] at h
  obtain ⟨hrequest, h⟩ := lengthPrefixed_append_inj
    (by rw [length_utf8]; omega) (by rw [length_utf8]; omega) (List.append_cancel_left h)
  obtain ⟨htransfer, h⟩ := lengthPrefixed_append_inj
    (by rw [length_utf8]; omega) (by rw [length_utf8]; omega) h
  obtain ⟨hartifact, h⟩ := lengthPrefixed_append_inj
    (by rw [length_utf8]; omega) (by rw [length_utf8]; omega) h
  exact ⟨ArtifactIds.ext (utf8_inj hrequest) (utf8_inj htransfer) (utf8_inj hartifact),
    UInt64.toNat_inj.mp (toBe_inj (toNat_lt_cap size) (toNat_lt_cap size') h)⟩

/-- **The associated data of a chunk** tells the response, the number of the chunk and whether
it is the last one. -/
theorem streamChunkAad_inj {key : SessionKey} {ids ids' : ArtifactIds}
    {size size' sequence sequence' : UInt64} {finalChunk finalChunk' : Bool}
    (h : streamChunkAad (streamAssociatedData key (artifactStreamContext ids size))
        sequence finalChunk =
      streamChunkAad (streamAssociatedData key (artifactStreamContext ids' size'))
        sequence' finalChunk') :
    ids = ids' ∧ size = size' ∧ sequence = sequence' ∧ finalChunk = finalChunk' := by
  simp only [streamChunkAad, streamAssociatedData, appendContextField, List.append_assoc] at h
  obtain ⟨hcontext, h⟩ := lengthPrefixed_append_inj
    (length_artifactStreamContext ids size) (length_artifactStreamContext ids' size')
    (List.append_cancel_left (List.append_cancel_left h))
  obtain ⟨hids, hsize⟩ := artifactStreamContext_inj hcontext
  obtain ⟨hsequence, hfinal⟩ := List.append_inj h (by simp only [length_toBe])
  refine ⟨hids, hsize, UInt64.toNat_inj.mp
    (toBe_inj (toNat_lt_cap sequence) (toNat_lt_cap sequence') hsequence), ?_⟩
  cases finalChunk <;> cases finalChunk' <;> first | rfl | cases hfinal

variable {sequence : UInt64} {finalChunk : Bool}

/-- The associated data of a sealed JSON payload is never that of a chunk. -/
theorem associatedData_ne_streamChunkAad {key : SessionKey} {context : List UInt8} :
    associatedData key ≠ streamChunkAad (streamAssociatedData key context) sequence finalChunk := by
  intro h
  have hlength := congrArg List.length h
  simp only [streamChunkAad, streamAssociatedData, appendContextField, List.length_append,
    List.length_singleton] at hlength
  omega

/-! ### Sealing and opening -/

/-- A use of `XChaCha20Poly1305`. -/
abbrev ChunkSealing : Type := Sealing SessionKey (List UInt8)

/-- `XChaCha20Poly1305`, with a tag of 16 bytes. -/
abbrev ChunkCipher : Type := Aead SessionKey (List UInt8) 16

/-- `SealedStreamHeader`. -/
structure SealedStreamHeader where
  version : UInt32
  ephemeralPublicKey : String
  noncePrefixB64 : String

/-- `StreamSealer`. -/
structure StreamSealer where
  key : SessionKey
  aad : List UInt8
  noncePrefix : NoncePrefix
  nextSequence : UInt64

/-- `CryptoError::StreamSequenceExhausted`. -/
def sequenceExhausted : RuntimeError := .crypto "stream chunk sequence exhausted"

namespace StreamSealer

/-- `StreamSealer::new`, with the ephemeral key and the prefix it draws. -/
def new (sender receiver ephemeral : PublicKey) (noncePrefix : NoncePrefix)
    (responseContext : List UInt8) : StreamSealer where
  key := ⟨sender, receiver, ephemeral⟩
  aad := streamAssociatedData ⟨sender, receiver, ephemeral⟩ responseContext
  noncePrefix := noncePrefix
  nextSequence := 0

/-- `StreamSealer::header`. -/
def header (sealer : StreamSealer) : SealedStreamHeader where
  version := envelopeVersion
  ephemeralPublicKey := publicKeyToString sealer.key.ephemeral
  noncePrefixB64 := String.ofList (Base64.encode sealer.noncePrefix.bytes)

/-- `StreamSealer::seal_chunk`: the use of the cipher it makes. -/
def sealChunk (sealer : StreamSealer) (plaintext : List UInt8) (finalChunk : Bool) :
    Except RuntimeError (ChunkSealing × StreamSealer) := do
  let next ← okOr (checkedAdd sealer.nextSequence 1) sequenceExhausted
  .ok (⟨sealer.key, streamNonce sealer.noncePrefix sealer.nextSequence,
    streamChunkAad sealer.aad sealer.nextSequence finalChunk, plaintext⟩,
    { sealer with nextSequence := next })

end StreamSealer

/-- `StreamOpener`. -/
structure StreamOpener where
  key : SessionKey
  aad : List UInt8
  noncePrefix : NoncePrefix
  nextSequence : UInt64

namespace StreamOpener

/-- `StreamOpener::new`. -/
def new (receiver sender : PublicKey) (header : SealedStreamHeader)
    (responseContext : List UInt8) : Except RuntimeError StreamOpener :=
  if header.version ≠ envelopeVersion then
    .error (.crypto ("unsupported sealed stream version: " ++ header.version.toNat.repr))
  else do
    let ephemeral ← parsePublicKey header.ephemeralPublicKey
    let noncePrefix ← okOr (Base64.decodeCanonical header.noncePrefixB64.toList) base64Error
    if h : noncePrefix.length = 16 then
      .ok ⟨⟨sender, receiver, ephemeral⟩,
        streamAssociatedData ⟨sender, receiver, ephemeral⟩ responseContext, ⟨noncePrefix, h⟩, 0⟩
    else
      .error (.crypto ("invalid stream nonce prefix length: expected 16 bytes, got " ++
        noncePrefix.length.repr))

/-- `StreamOpener::open_chunk`, after these uses of the cipher. -/
def openChunk (cipher : ChunkCipher) (log : List ChunkSealing) (opener : StreamOpener)
    (sequence : UInt64) (ciphertext : List UInt8) (finalChunk : Bool) :
    Except RuntimeError (List UInt8 × StreamOpener) :=
  if sequence ≠ opener.nextSequence then
    .error (.crypto ("unexpected stream chunk sequence: expected " ++
      opener.nextSequence.toNat.repr ++ ", got " ++ sequence.toNat.repr))
  else do
    let plaintext ← okOr (cipher.decrypt log opener.key (streamNonce opener.noncePrefix sequence)
      (streamChunkAad opener.aad sequence finalChunk) ciphertext)
      (.crypto "payload decryption failed")
    let next ← okOr (checkedAdd sequence 1) sequenceExhausted
    .ok (plaintext, { opener with nextSequence := next })

variable {opener : StreamOpener}

/-- An opener is made for the key the header names, and for this response. -/
theorem new_eq_ok {receiver sender : PublicKey} {header : SealedStreamHeader}
    {responseContext : List UInt8} (h : new receiver sender header responseContext = .ok opener) :
    ∃ ephemeral noncePrefix, opener = ⟨⟨sender, receiver, ephemeral⟩,
      streamAssociatedData ⟨sender, receiver, ephemeral⟩ responseContext, noncePrefix, 0⟩ := by
  rw [new] at h
  obtain ⟨-, h⟩ := of_throw h
  obtain ⟨ephemeral, -, h⟩ := of_bind h
  obtain ⟨noncePrefix, -, h⟩ := of_okOr h
  split at h
  next hlength =>
    obtain rfl := Except.ok.inj h
    exact ⟨ephemeral, ⟨noncePrefix, hlength⟩, rfl⟩
  next => cases h

/-- The header of a sealer is accepted on the other side. -/
theorem new_header (sender receiver ephemeral : PublicKey) (noncePrefix : NoncePrefix)
    (responseContext : List UInt8) :
    new receiver sender
        (StreamSealer.new sender receiver ephemeral noncePrefix responseContext).header
        responseContext =
      .ok ⟨⟨sender, receiver, ephemeral⟩,
        streamAssociatedData ⟨sender, receiver, ephemeral⟩ responseContext, noncePrefix, 0⟩ := by
  have hversion : ¬ (StreamSealer.new sender receiver ephemeral noncePrefix
      responseContext).header.version ≠ envelopeVersion := not_not.mpr rfl
  rw [new, if_neg hversion]
  simp only [StreamSealer.header, StreamSealer.new, parsePublicKey_publicKeyToString,
    String.toList_ofList, Base64.decodeCanonical_encode, okOr_some, ok_bind]
  exact dif_pos noncePrefix.length_eq

variable {log : List ChunkSealing} {plaintext : List UInt8}

/-- What is sealed for an opener at this number. -/
def sealing (opener : StreamOpener) (sequence : UInt64) (finalChunk : Bool)
    (plaintext : List UInt8) : ChunkSealing :=
  ⟨opener.key, streamNonce opener.noncePrefix sequence,
    streamChunkAad opener.aad sequence finalChunk, plaintext⟩

/-- What `open_chunk` returns was sealed at this number, and the next one follows. -/
theorem openChunk_eq_ok {cipher : ChunkCipher} {opener opener' : StreamOpener}
    {ciphertext : List UInt8}
    (h : openChunk cipher log opener sequence ciphertext finalChunk = .ok (plaintext, opener')) :
    opener.sealing sequence finalChunk plaintext ∈ log ∧
      cipher.encrypt (opener.sealing sequence finalChunk plaintext) = ciphertext ∧
      opener'.key = opener.key ∧ opener'.aad = opener.aad := by
  rw [openChunk] at h
  obtain ⟨-, h⟩ := of_throw h
  obtain ⟨_, hdecrypt, h⟩ := of_okOr h
  obtain ⟨next, -, h⟩ := of_okOr h
  obtain ⟨rfl, rfl⟩ := Prod.mk.inj (Except.ok.inj h)
  obtain ⟨hmem, hciphertext⟩ := Aead.decrypt_eq_some_iff.mp hdecrypt
  exact ⟨hmem, hciphertext, rfl, rfl⟩

/-- What was sealed at the next number is opened. -/
theorem openChunk_of_mem (cipher : ChunkCipher) {next : UInt64}
    (hmem : opener.sealing opener.nextSequence finalChunk plaintext ∈ log)
    (hnext : checkedAdd opener.nextSequence 1 = some next) :
    openChunk cipher log opener opener.nextSequence
        (cipher.encrypt (opener.sealing opener.nextSequence finalChunk plaintext)) finalChunk =
      .ok (plaintext, { opener with nextSequence := next }) := by
  rw [sealing] at hmem ⊢
  rw [openChunk, if_neg (not_not.mpr rfl), Aead.decrypt_eq_some_iff.mpr ⟨hmem, rfl⟩]
  simp only [hnext, okOr_some, ok_bind]

end StreamOpener

end Kanna
