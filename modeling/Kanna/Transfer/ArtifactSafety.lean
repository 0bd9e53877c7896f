import Kanna.Transfer.ArtifactFetch

/-!
# A fetch commits only what was sealed

Between the source's loop and the receiver's there is a network that can do anything with the
response line and with the bytes behind it. The receiver's loop keeps an invariant
(`ReadState.Sound`): the partial file holds the first chunks of the stream with the ephemeral
key of the header, as many as have been read, and if there is no such stream then nothing has
been read. Each chunk that opens is the next one of that stream, since the associated data
tells its number, and the last chunk opens only behind the last read.

So a file that is committed holds the whole plaintext of one stream, sealed for this request,
and a fetch that fails leaves the directory as it was (`fetch_cases`).
-/

namespace Kanna

namespace Directory

theorem put_self (directory : Directory) (name : String) (contents : List UInt8) :
    directory.put name contents name = some contents := if_pos rfl

theorem put_put (directory : Directory) (name : String) (contents contents' : List UInt8) :
    (directory.put name contents).put name contents' = directory.put name contents' := by
  funext other
  by_cases h : other = name
  · simp only [put, if_pos h]
  · simp only [put, if_neg h]

theorem remove_put {directory : Directory} {name : String} {contents : List UInt8}
    (h : directory name = none) : (directory.put name contents).remove name = directory := by
  funext other
  by_cases hother : other = name
  · rw [hother, h]
    exact if_pos rfl
  · simp [remove, put, if_neg hother]

end Directory

namespace GuardedArtifactPart

variable {machine : Machine} {directory created : Directory} {part : GuardedArtifactPart}

/-- A partial file is new, and empty. -/
theorem createFrom_eq_ok {nonces : List (List UInt8)}
    (h : createFrom machine directory nonces = .ok (part, created)) :
    directory part.name = none ∧ created = directory.put part.name [] := by
  induction nonces with
  | nil => cases h
  | cons nonce nonces ih =>
    rw [createFrom] at h
    split at h
    next => exact ih h
    next hfree =>
      split at h
      next => cases h
      next =>
        obtain ⟨rfl, rfl⟩ := Prod.mk.inj (Except.ok.inj h)
        exact ⟨Option.not_isSome_iff_eq_none.mp hfree, rfl⟩

/-- Dropping a partial file that was written to leaves what was there before. -/
theorem drop_put (h : directory part.name = none) (contents : List UInt8) :
    part.drop (directory.put part.name contents) = directory := Directory.remove_put h

end GuardedArtifactPart

/-! ### What the loop reads -/

/-- A ciphertext that is read is not too long. -/
theorem length_le_of_readArtifactChunk {ending : Ending} {bytes ciphertext rest : List UInt8}
    {finalChunk : Bool} (h : readArtifactChunk ending bytes = .ok (finalChunk, ciphertext, rest)) :
    ciphertext.length ≤ maximumCiphertext := by
  obtain ⟨⟨flag, behindFlag⟩, -, h⟩ := of_bind h
  obtain ⟨⟨length, behindLength⟩, -, h⟩ := of_bind h
  obtain ⟨hle, h⟩ := of_throw h
  obtain ⟨_, hread, h⟩ := of_bind h
  obtain ⟨-, h⟩ := Prod.mk.inj (Except.ok.inj h)
  obtain ⟨rfl, -⟩ := Prod.mk.inj h
  rw [readExact] at hread
  split at hread
  next hfits =>
    rw [← Except.ok.inj hread, List.length_take_of_le hfits]
    exact Nat.le_of_not_lt hle
  next => cases hread

open GuardedArtifactPart

namespace ChunkReader

variable {reader : ChunkReader} {state state' : ReadState} {opener : StreamOpener}
  {finalChunk : Bool} {plaintext : List UInt8}

/-- The loop ends at an empty last chunk, when as much was written as was declared, and goes on
behind a chunk that was written to the partial file. -/
theorem accept_eq_ok {next : Option ReadState}
    (h : reader.accept finalChunk plaintext opener state = .ok next) :
    match next with
    | none => finalChunk = true ∧ state.written = reader.plaintextSize
    | some state' => finalChunk = false ∧ state'.opener = opener ∧
      state'.sequence.toNat = state.sequence.toNat + 1 ∧
      (plaintext.length < UInt64.size →
        state'.written.toNat = state.written.toNat + plaintext.length) ∧
      state'.directory = state.directory.put reader.part.name
        ((state.directory reader.part.name).getD [] ++ plaintext) := by
  obtain ⟨sequence, hsequence, h⟩ := of_okOr h
  split at h
  next hfinal =>
    obtain ⟨hsize, h⟩ := of_throw h
    cases h
    exact ⟨hfinal, not_not.mp (not_or.mp hsize).2⟩
  next hfinal =>
  obtain ⟨written, hwritten, h⟩ := of_okOr h
  obtain ⟨-, h⟩ := of_throw h
  obtain ⟨directory, hwrite, h⟩ := of_bind h
  cases h
  rw [writeAll] at hwrite
  split at hwrite
  next => cases hwrite
  next =>
    obtain rfl := Except.ok.inj hwrite
    refine ⟨Bool.eq_false_iff.mpr hfinal, rfl, ?_, fun hlength => ?_, rfl⟩
    · rw [toNat_of_checkedAdd hsequence, UInt64.toNat_one]
    · rw [toNat_of_checkedAdd hwritten, UInt64.toNat_ofNat_of_lt' hlength]

end ChunkReader

/-- What the partial file holds in the middle of the loop: the reads of the stream that
answers under this key, up to the number of the next chunk. -/
structure ReadState.Sound (sealings : Sealings) (key : SessionKey) (ids : ArtifactIds)
    (plaintextSize : UInt64) (directory : Directory) (name : String) (contents : List UInt8)
    (state : ReadState) : Prop where
  key_eq : state.opener.key = key
  aad_eq : state.opener.aad = streamAssociatedData key (artifactStreamContext ids plaintextSize)
  directory_eq : state.directory = directory.put name contents
  written_eq : state.written.toNat = contents.length
  contents_eq : ∀ stream ∈ sealings.streams, stream.Answers key ids plaintextSize →
    contents = (stream.reads.take state.sequence.toNat).flatten

section Safety

variable {sealings : Sealings} {key : SessionKey} {ids : ArtifactIds} {reader : ChunkReader}
  {directory : Directory} {contents : List UInt8} {state : ReadState}

variable {ciphertext plaintext : List UInt8} {finalChunk : Bool}

/-- A chunk that opens is the one at this place of the stream that answers. -/
theorem ReadState.Sound.chunkAt {opener : StreamOpener} {plaintextSize : UInt64} {name : String}
    (hstate : state.Sound sealings key ids plaintextSize directory name contents)
    (h : state.opener.openChunk reader.cipher sealings.log state.sequence ciphertext finalChunk =
      .ok (plaintext, opener)) :
    ∃ stream ∈ sealings.streams, stream.Answers key ids plaintextSize ∧
      stream.ChunkAt state.sequence.toNat finalChunk plaintext := by
  have hmem := (StreamOpener.openChunk_eq_ok h).1
  rw [StreamOpener.sealing, hstate.key_eq, hstate.aad_eq] at hmem
  exact Sealings.exists_stream_of_mem_log hmem

section Opened

variable {opener : StreamOpener}
  (hstate : state.Sound sealings key ids reader.plaintextSize directory reader.part.name contents)
  (hopen : state.opener.openChunk reader.cipher sealings.log state.sequence ciphertext finalChunk =
    .ok (plaintext, opener))

include hstate hopen

/-- **A round** of the loop: the next read of the stream is added to the partial file. -/
theorem ReadState.Sound.next {state' : ReadState} (hlength : plaintext.length < UInt64.size)
    (haccept : reader.accept finalChunk plaintext opener state = .ok (some state')) :
    state'.Sound sealings key ids reader.plaintextSize directory reader.part.name
      (contents ++ plaintext) := by
  obtain ⟨rfl, hopener, hsequence, hwritten, hdirectory⟩ := ChunkReader.accept_eq_ok haccept
  obtain ⟨-, -, hkey, haad⟩ := StreamOpener.openChunk_eq_ok hopen
  obtain ⟨stream, hstream, hanswers, hchunk⟩ := hstate.chunkAt hopen
  refine ⟨?_, ?_, ?_, ?_, fun other hother hother' => ?_⟩
  · rw [hopener, hkey, hstate.key_eq]
  · rw [hopener, haad, hstate.aad_eq]
  · rw [hdirectory, hstate.directory_eq, Directory.put_self, Option.getD_some, Directory.put_put]
  · rw [hwritten hlength, hstate.written_eq, List.length_append]
  · -- the key belongs to one stream, so the chunk is the next read of every stream there is
    have hephemeral : other.key.ephemeral = stream.key.ephemeral := by
      rw [hother'.1, hanswers.1]
    obtain rfl := List.inj_on_of_nodup_map sealings.fresh hother hstream hephemeral
    have hread : other.reads[state.sequence.toNat]? = some plaintext := hchunk
    rw [hsequence, List.take_add_one, hread, List.flatten_append,
      ← hstate.contents_eq other hother hother']
    simp

/-- **The end** of the loop: the partial file holds the whole plaintext. -/
theorem ReadState.Sound.ended
    (haccept : reader.accept finalChunk plaintext opener state = .ok none) :
    ∃ stream ∈ sealings.streams, stream.Answers key ids reader.plaintextSize ∧
      stream.ended = true ∧ contents = stream.plaintext ∧
      reader.plaintextSize.toNat = contents.length := by
  obtain ⟨rfl, hsize⟩ := ChunkReader.accept_eq_ok haccept
  obtain ⟨stream, hstream, hanswers, hended, hplace, -⟩ := hstate.chunkAt hopen
  refine ⟨stream, hstream, hanswers, hended, ?_, ?_⟩
  · rw [hstate.contents_eq stream hstream hanswers, hplace, List.take_length]
    rfl
  · rw [← hsize, hstate.written_eq]

end Opened

variable (reader) in
/-- **The whole loop**: it writes to the partial file only, and when it ends well the file
holds the plaintext of a stream that answers. -/
theorem readChunks_sound (rounds : ℕ) (bytes : List UInt8) (hlog : reader.log = sealings.log)
    (hstate : state.Sound sealings key ids reader.plaintextSize directory reader.part.name
      contents) :
    ∃ contents, (reader.readChunks rounds bytes state).2 = directory.put reader.part.name contents ∧
      ((reader.readChunks rounds bytes state).1 = .ok () →
        ∃ stream ∈ sealings.streams, stream.Answers key ids reader.plaintextSize ∧
          stream.ended = true ∧ contents = stream.plaintext ∧
          reader.plaintextSize.toNat = contents.length) := by
  induction rounds generalizing bytes state contents with
  | zero => exact ⟨contents, hstate.directory_eq, by rintro ⟨⟩⟩
  | succ rounds ih =>
    rw [ChunkReader.readChunks]
    split
    next => exact ⟨contents, hstate.directory_eq, by rintro ⟨⟩⟩
    next hread =>
    split
    next => exact ⟨contents, hstate.directory_eq, by rintro ⟨⟩⟩
    next hopen =>
    rw [hlog] at hopen
    split
    next => exact ⟨contents, hstate.directory_eq, by rintro ⟨⟩⟩
    next haccept =>
      exact ⟨contents, hstate.directory_eq, fun _ => hstate.ended hopen haccept⟩
    next haccept =>
      refine ih _ (hstate.next hopen ?_ haccept)
      have hlength := length_le_of_readArtifactChunk hread
      rw [← (StreamOpener.openChunk_eq_ok hopen).2.1, reader.cipher.length_encrypt,
        StreamOpener.sealing] at hlength
      dsimp only at hlength
      have hmaximum : maximumCiphertext < UInt64.size := by decide
      omega

/-- How a fetch ends, whatever the network delivers: with the plaintext of a stream that the
source has sealed for this request, or with an error and nothing changed. -/
theorem fetch_cases (cipher : ChunkCipher) (sha256 : List UInt8 → Fin 32 → UInt8)
    (receiver : ArtifactReceiver) (peerId : String) (sourcePublicKey : PublicKey)
    (machine : Machine) (delivery : ArtifactDelivery) :
    (∃ stream ∈ sealings.streams, stream.key.sender = sourcePublicKey ∧
      stream.key.receiver = receiver.publicKey ∧ stream.ids = ids ∧ stream.ended = true ∧
      stream.plaintextSize.toNat = stream.plaintext.length ∧
      fetchPeerArtifactStream cipher sha256 sealings.log receiver peerId ids sourcePublicKey
          machine delivery directory =
        (.ok (managedArtifactFilename sha256 ids.artifactId),
          directory.put (managedArtifactFilename sha256 ids.artifactId) stream.plaintext)) ∨
    ∃ error, fetchPeerArtifactStream cipher sha256 sealings.log receiver peerId ids
      sourcePublicKey machine delivery directory = (.error error, directory) := by
  rw [fetchPeerArtifactStream]
  split
  next error _ => exact .inr ⟨error, rfl⟩
  next header plaintextSize _ =>
  split
  next error _ => exact .inr ⟨error, rfl⟩
  next part created hcreate =>
  obtain ⟨hpart, rfl⟩ := createFrom_eq_ok hcreate
  split
  next error _ => exact .inr ⟨error, by rw [drop_put hpart]⟩
  next opener hopener =>
  obtain ⟨ephemeral, noncePrefix, rfl⟩ := StreamOpener.new_eq_ok hopener
  have hstart : ReadState.Sound sealings ⟨sourcePublicKey, receiver.publicKey, ephemeral⟩ ids
      plaintextSize directory part.name [] ⟨⟨⟨sourcePublicKey, receiver.publicKey, ephemeral⟩,
        streamAssociatedData ⟨sourcePublicKey, receiver.publicKey, ephemeral⟩
          (artifactStreamContext ids plaintextSize), noncePrefix, 0⟩, 0, 0,
        directory.put part.name []⟩ := ⟨rfl, rfl, rfl, rfl, fun _ _ _ => rfl⟩
  obtain ⟨contents, hdirectory, hplaintext⟩ := readChunks_sound
    ⟨cipher, sealings.log, machine, delivery.ending, part, plaintextSize⟩
    delivery.bytes.length delivery.bytes rfl hstart
  split
  next error written hread =>
    rw [hread] at hdirectory
    have hwritten : written = directory.put part.name contents := hdirectory
    exact .inr ⟨error, by rw [hwritten, drop_put hpart]⟩
  next written hread =>
  rw [hread] at hdirectory hplaintext
  have hwritten : written = directory.put part.name contents := hdirectory
  rw [hwritten]
  split
  next error _ => exact .inr ⟨error, by rw [drop_put hpart]⟩
  next committed hcommit =>
    obtain ⟨stream, hstream, ⟨hkey, hids, hsize⟩, hended, rfl, hlength⟩ := hplaintext rfl
    refine .inl ⟨stream, hstream, by rw [hkey], by rw [hkey], hids, hended, ?_, ?_⟩
    · rw [hsize]
      exact hlength
    · rw [commit, Directory.put_self] at hcommit
      split at hcommit
      next => cases hcommit
      next heq => cases heq
      next contents' heq =>
        obtain rfl := Option.some.inj heq
        rw [Directory.remove_put hpart] at hcommit
        rw [Except.ok.inj hcommit]

end Safety

end Kanna
