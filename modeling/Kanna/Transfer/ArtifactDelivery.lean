import Kanna.Transfer.ArtifactSafety

/-!
# A fetched artifact is the one that was sealed

The chunks that a source writes are read back one by one by the receiver's loop
(`readChunks_served`): each one opens, since it was sealed at the number the opener has come
to, and none of the checks of its length and of the sizes fails. With the response line in
front of them, the fetch commits the artifact (`fetch_served`).

Together with what a fetch can end in at all this is
`fetched_artifact_is_sealed_artifact`.
-/

open UInt64

namespace Kanna

/-! ### What the source writes is read back -/

open List

theorem readExact_append (ending : Ending) (bytes rest : List UInt8) :
    readExact ending bytes.length (bytes ++ rest) = .ok (bytes, rest) := by
  rw [readExact, if_pos (by rw [length_append]; exact Nat.le_add_right _ _), take_left, drop_left]

variable {bytes : List UInt8}

/-- A chunk that was written is read. -/
theorem readArtifactChunk_of_write (ending : Ending) {ciphertext : List UInt8} {finalChunk : Bool}
    (rest : List UInt8) (hlength : ciphertext.length ≤ maximumCiphertext)
    (h : writeArtifactChunk ciphertext finalChunk = .ok bytes) :
    readArtifactChunk ending (bytes ++ rest) = .ok (finalChunk, ciphertext, rest) := by
  rw [writeArtifactChunk] at h
  split at h
  next hsize =>
    obtain rfl := Except.ok.inj h
    have hofBe : Bytes.ofBe (Bytes.toBe 4 ciphertext.length) = ciphertext.length :=
      Bytes.ofBe_toBe hsize
    have hflag : readExact ending 1 ((if finalChunk then 1 else 0) ::
        (Bytes.toBe 4 ciphertext.length ++ (ciphertext ++ rest))) =
        .ok ([if finalChunk then 1 else 0],
          Bytes.toBe 4 ciphertext.length ++ (ciphertext ++ rest)) :=
      readExact_append ending [_] _
    have hread := readExact_append ending (Bytes.toBe 4 ciphertext.length) (ciphertext ++ rest)
    rw [Bytes.length_toBe] at hread
    rw [readArtifactChunk, cons_append, append_assoc]
    simp only [hflag, hread, hofBe, if_neg (Nat.not_lt.mpr hlength), readExact_append, ok_bind]
    cases finalChunk <;> rfl
  next => cases h

variable {chunks : List (Bool × ChunkSealing)}

/-- There is at least a byte for each chunk. -/
theorem length_le_of_writeArtifactChunks {cipher : ChunkCipher}
    (h : writeArtifactChunks cipher chunks = .ok bytes) : chunks.length ≤ bytes.length := by
  induction chunks generalizing bytes with
  | nil => exact Nat.zero_le _
  | cons chunk chunks ih =>
    obtain ⟨first, hfirst, h⟩ := of_bind h
    obtain ⟨rest, hrest, h⟩ := of_bind h
    obtain rfl := Except.ok.inj h
    have hpos : 1 ≤ first.length := by
      rw [writeArtifactChunk] at hfirst
      split at hfirst
      next =>
        obtain rfl := Except.ok.inj hfirst
        exact Nat.succ_le_succ (Nat.zero_le _)
      next => cases hfirst
    rw [length_cons, length_append]
    have := ih hrest
    omega

/-- `seal_chunk`, as long as there are numbers left. -/
theorem StreamSealer.sealChunk_of_lt {sealer : StreamSealer}
    (h : sealer.nextSequence.toNat + 1 < size) (plaintext : List UInt8) (finalChunk : Bool) :
    sealer.sealChunk plaintext finalChunk =
      .ok (⟨sealer.key, streamNonce sealer.noncePrefix sealer.nextSequence,
        streamChunkAad sealer.aad sealer.nextSequence finalChunk, plaintext⟩,
        { sealer with nextSequence := sealer.nextSequence + 1 }) := by
  rw [sealChunk, checkedAdd_of_lt (by rwa [toNat_one])]
  rfl

/-- The sealer at the place of an opener. -/
def StreamOpener.sealer (opener : StreamOpener) : StreamSealer :=
  ⟨opener.key, opener.aad, opener.noncePrefix, opener.nextSequence⟩

/-- The next number, as long as there are numbers left. -/
theorem toNat_add_one {sequence : UInt64} (h : sequence.toNat + 1 < UInt64.size) :
    (sequence + 1).toNat = sequence.toNat + 1 := by
  rw [UInt64.toNat_add, UInt64.toNat_one]
  exact Nat.mod_eq_of_lt h

variable {reads : List (List UInt8)}

namespace ChunkReader

variable {reader : ChunkReader} {state : ReadState} {opener : StreamOpener}
  {plaintext : List UInt8}

/-- The last chunk ends the loop. -/
theorem accept_last (hsequence : state.sequence.toNat + 1 < size)
    (hsize : state.written = reader.plaintextSize) :
    reader.accept true [] opener state = .ok none := by
  rw [accept, checkedAdd_of_lt (by rwa [toNat_one])]
  exact if_neg (not_or.mpr ⟨not_not.mpr rfl, not_not.mpr hsize⟩)

variable (plaintext opener) in
/-- A read that is not too long is written. -/
theorem accept_read (hsequence : state.sequence.toNat + 1 < size)
    (hsize : state.written.toNat + plaintext.length ≤ reader.plaintextSize.toNat)
    (hmaximum : reader.plaintextSize.toNat ≤ maxTransferArtifactBytes.toNat)
    (hwrite : reader.machine.writeError state.sequence = none) :
    ∃ written : UInt64, written.toNat = state.written.toNat + plaintext.length ∧
      reader.accept false plaintext opener state =
        .ok (some ⟨opener, state.sequence + 1, written, state.directory.put reader.part.name
          ((state.directory reader.part.name).getD [] ++ plaintext)⟩) := by
  have hbound := reader.plaintextSize.toNat_lt
  have hlength : (ofNat plaintext.length).toNat = plaintext.length :=
    toNat_ofNat_of_lt' (by rw [size]; omega)
  have hadd : checkedAdd state.written (ofNat plaintext.length) =
      some (state.written + ofNat plaintext.length) :=
    checkedAdd_of_lt (by rw [hlength, size]; omega)
  have hwritten := toNat_of_checkedAdd hadd
  rw [hlength] at hwritten
  refine ⟨_, hwritten, ?_⟩
  have hfits : ¬ (reader.plaintextSize < state.written + ofNat plaintext.length ∨
      maxTransferArtifactBytes < state.written + ofNat plaintext.length) := by
    rw [lt_iff_toNat_lt, lt_iff_toNat_lt, hwritten]
    omega
  rw [accept, checkedAdd_of_lt (by rwa [toNat_one])]
  simp [hadd, if_neg hfits, GuardedArtifactPart.writeAll, hwrite]

/-- **A round** with a chunk that was sealed at this place. -/
theorem readChunks_of_write {rounds : ℕ} {first rest : List UInt8} {finalChunk : Bool}
    (hsequence : state.sequence = state.opener.nextSequence)
    (hnext : state.opener.nextSequence.toNat + 1 < size)
    (hlength : plaintext.length ≤ transferArtifactChunkBytes)
    (hmem : state.opener.sealing state.opener.nextSequence finalChunk plaintext ∈ reader.log)
    (hwrite : writeArtifactChunk (reader.cipher.encrypt
      (state.opener.sealing state.opener.nextSequence finalChunk plaintext)) finalChunk =
        .ok first) :
    (reader.accept finalChunk plaintext
        { state.opener with nextSequence := state.opener.nextSequence + 1 } state = .ok none →
      reader.readChunks (rounds + 1) (first ++ rest) state = (.ok (), state.directory)) ∧
    ∀ state', reader.accept finalChunk plaintext
        { state.opener with nextSequence := state.opener.nextSequence + 1 } state =
          .ok (some state') →
      reader.readChunks (rounds + 1) (first ++ rest) state =
        reader.readChunks rounds rest state' := by
  have hread := readArtifactChunk_of_write reader.ending rest
    (by rw [reader.cipher.length_encrypt]; exact Nat.add_le_add_right hlength 16) hwrite
  have hopen := StreamOpener.openChunk_of_mem reader.cipher hmem
    (checkedAdd_of_lt (by rwa [toNat_one]))
  rw [readChunks]
  simp only [hread, hsequence, hopen]
  exact ⟨fun haccept => by rw [haccept], fun state' haccept => by rw [haccept]⟩

variable (reader state) in
/-- **The chunks of a file** are read one by one, and the file is written. -/
theorem readChunks_served {directory : Directory} {contents : List UInt8} {rounds : ℕ}
    (rest : List UInt8) (hmaximum : reader.plaintextSize.toNat ≤ maxTransferArtifactBytes.toNat)
    (hmachine : ∀ sequence, reader.machine.writeError sequence = none)
    (hreads : ∀ read ∈ reads, read.length ≤ transferArtifactChunkBytes)
    (hrounds : reads.length < rounds) (hsequence : state.sequence = state.opener.nextSequence)
    (hnext : state.opener.nextSequence.toNat + reads.length + 1 < UInt64.size)
    (hsize : state.written.toNat + reads.flatten.length = reader.plaintextSize.toNat)
    (hdirectory : state.directory = directory.put reader.part.name contents)
    (hlog : ∀ chunk ∈ sealReads true reads state.opener.sealer, chunk.2 ∈ reader.log)
    (hwrite : writeArtifactChunks reader.cipher (sealReads true reads state.opener.sealer) =
      .ok bytes) :
    reader.readChunks rounds (bytes ++ rest) state =
      (.ok (), directory.put reader.part.name (contents ++ reads.flatten)) := by
  induction reads generalizing state contents bytes rounds with
  | nil =>
    obtain ⟨rounds, rfl⟩ := Nat.exists_eq_add_one_of_ne_zero (Nat.ne_of_gt hrounds)
    have hlast : state.opener.nextSequence.toNat + 1 < UInt64.size := hnext
    have hwritten : state.written = reader.plaintextSize := UInt64.toNat_inj.mp hsize
    rw [sealReads, if_pos rfl, StreamSealer.sealChunk_of_lt hlast] at hlog hwrite
    obtain ⟨first, hfirst, hwrite⟩ := of_bind hwrite
    obtain rfl := Except.ok.inj hwrite
    rw [append_assoc, (readChunks_of_write hsequence hlast (Nat.zero_le _)
      (hlog _ (mem_singleton_self _)) hfirst).1 (accept_last (hsequence ▸ hlast) hwritten),
      hdirectory, flatten_nil, append_nil]
  | cons read reads ih =>
    obtain ⟨rounds, rfl⟩ := Nat.exists_eq_add_one_of_ne_zero (Nat.ne_of_gt
      (Nat.lt_of_le_of_lt (Nat.zero_le _) hrounds))
    rw [length_cons] at hrounds hnext
    rw [flatten_cons, length_append] at hsize
    rw [forall_mem_cons] at hreads
    have hone : state.opener.nextSequence.toNat + 1 < UInt64.size := by omega
    rw [sealReads, StreamSealer.sealChunk_of_lt hone] at hlog hwrite
    obtain ⟨first, hfirst, hwrite⟩ := of_bind hwrite
    obtain ⟨others, hothers, hwrite⟩ := of_bind hwrite
    obtain rfl := Except.ok.inj hwrite
    obtain ⟨written, hwritten, haccept⟩ := accept_read
      { state.opener with nextSequence := state.opener.nextSequence + 1 } read
      (hsequence ▸ hone) (by omega) hmaximum (hmachine state.sequence)
    rw [append_assoc, (readChunks_of_write hsequence hone hreads.1
      (hlog _ mem_cons_self) hfirst).2 _ haccept, flatten_cons, ← append_assoc]
    refine ih _ hreads.2 (by omega) (congrArg (· + 1) hsequence) ?_ ?_ ?_
      (fun chunk hchunk => hlog chunk (mem_cons_of_mem _ hchunk)) hothers
    · rw [toNat_add_one hone]
      omega
    · rw [hwritten]
      omega
    · rw [hdirectory, Directory.put_self, Option.getD_some, Directory.put_put]

end ChunkReader

/-! ### A served artifact is committed -/

/-- There are no more reads than bytes. -/
theorem length_le_length_flatten (h : ∀ read ∈ reads, read ≠ []) :
    reads.length ≤ reads.flatten.length := by
  induction reads with
  | nil => exact Nat.zero_le _
  | cons read reads ih =>
    rw [forall_mem_cons] at h
    have hread := length_pos_iff.mpr h.1
    have hreads := ih h.2
    rw [length_cons, flatten_cons, length_append]
    omega

/-- The loop seals a chunk for each read, and the last one. -/
theorem length_sealReads {sealer : StreamSealer}
    (h : sealer.nextSequence.toNat + reads.length + 1 < size) :
    (sealReads true reads sealer).length = reads.length + 1 := by
  induction reads generalizing sealer with
  | nil => rw [sealReads, if_pos rfl, StreamSealer.sealChunk_of_lt h]; rfl
  | cons read reads ih =>
    rw [length_cons] at h ⊢
    have hone : sealer.nextSequence.toNat + 1 < size := by omega
    rw [sealReads, StreamSealer.sealChunk_of_lt hone, length_cons, ih ?_]
    rw [toNat_add_one hone]
    omega

/-- Chunks of bounded length can be written. -/
theorem exists_writeArtifactChunks (cipher : ChunkCipher)
    (h : ∀ chunk ∈ chunks, chunk.2.plaintext.length ≤ transferArtifactChunkBytes) :
    ∃ bytes, writeArtifactChunks cipher chunks = .ok bytes := by
  induction chunks with
  | nil => exact ⟨[], rfl⟩
  | cons chunk chunks ih =>
    rw [forall_mem_cons] at h
    obtain ⟨bytes, hbytes⟩ := ih h.2
    have hlength : (cipher.encrypt chunk.2).length < UInt32.size := by
      have hsmall : transferArtifactChunkBytes + 16 < UInt32.size := by decide
      rw [cipher.length_encrypt]
      omega
    rw [writeArtifactChunks, writeArtifactChunk, if_pos hlength, hbytes]
    exact ⟨_, rfl⟩

/-- The header of a sealer is short enough. -/
theorem StreamSealer.toOwnedBounded_header (sealer : StreamSealer) :
    sealer.header.toOwnedBounded = .ok sealer.header := by
  have hkey : sealer.header.ephemeralPublicKey.utf8ByteSize ≤ maxStreamHeaderFieldBytes := by
    have hlength := Base64.length_encodeUrl_le sealer.key.ephemeral.bytes
    rw [sealer.key.ephemeral.length_eq] at hlength
    rw [header, publicKeyToString, utf8ByteSize_ofList,
      byteLen_eq_length fun c hc => Base64.utf8Size_of_mem_encodeUrl hc]
    exact Nat.le_trans hlength (by decide)
  have hprefix : sealer.header.noncePrefixB64.utf8ByteSize ≤ maxStreamHeaderFieldBytes := by
    rw [header, utf8ByteSize_ofList,
      byteLen_eq_length fun c hc => (Base64.utf8Size_of_mem_encode hc).1, Base64.length_encode,
      sealer.noncePrefix.length_eq]
    decide
  rw [SealedStreamHeader.toOwnedBounded,
    if_neg (not_or.mpr ⟨Nat.not_lt.mpr hkey, Nat.not_lt.mpr hprefix⟩)]

/-- Nothing fails on this machine, and one of the names it tries is free. -/
structure Machine.Works (machine : Machine) (directory : Directory) : Prop where
  createDir : machine.createDirError = none
  create : machine.createError = none
  write : ∀ sequence, machine.writeError sequence = none
  commit : machine.commitError = none
  /-- one of the partial names is not in use -/
  free : ∃ i < 16, directory (GuardedArtifactPart.nameOf (machine.nonces i)) = none

variable {machine : Machine} {directory : Directory}

/-- A free name is found. -/
theorem GuardedArtifactPart.exists_createFrom
    {nonces : List (List UInt8)} (hcreate : machine.createError = none)
    (h : ∃ nonce ∈ nonces, directory (nameOf nonce) = none) :
    ∃ part created, createFrom machine directory nonces = .ok (part, created) := by
  induction nonces with
  | nil =>
    obtain ⟨nonce, hnonce, -⟩ := h
    cases hnonce
  | cons nonce nonces ih =>
    rw [createFrom]
    split
    next htaken =>
      obtain ⟨free, hfree, hnone⟩ := h
      obtain rfl | hfree := mem_cons.mp hfree
      · rw [hnone] at htaken
        cases htaken
      · exact ih ⟨free, hfree, hnone⟩
    next =>
      rw [hcreate]
      exact ⟨_, _, rfl⟩

theorem Machine.Works.exists_create (h : machine.Works directory) :
    ∃ part created, GuardedArtifactPart.create machine directory = .ok (part, created) := by
  obtain ⟨i, hi, hfree⟩ := h.free
  exact GuardedArtifactPart.exists_createFrom h.create
    ⟨machine.nonces i, mem_map_of_mem (mem_range.mpr hi), hfree⟩

section Served

variable {cipher : ChunkCipher} {key : SessionKey} {noncePrefix : NoncePrefix} {nonce : ℕ}
  {ids : ArtifactIds} {artifact : StagedArtifact} {file : FileReads artifact.contents}
  {served : ServedArtifact}

/-- What a handler has sent. -/
theorem serveArtifact_eq_ok
    (h : serveArtifact cipher key noncePrefix nonce ids artifact file = .ok served) :
    artifact.contents.length ≤ maxTransferArtifactBytes.toNat ∧
      served.stream = servedStream key noncePrefix ids artifact file ∧
      served.response = servedResponse nonce artifact.filename served.stream ∧
      writeArtifactChunks cipher served.stream.chunks = .ok served.bytes := by
  obtain ⟨hsize, h⟩ := of_throw h
  obtain ⟨bytes, hwrite, h⟩ := of_bind h
  obtain rfl := Except.ok.inj h
  exact ⟨Nat.le_of_not_lt hsize, rfl, rfl, hwrite⟩

/-- **Every artifact that is not too large is served**, however its file is read. -/
theorem exists_serveArtifact (cipher : ChunkCipher) (key : SessionKey)
    (noncePrefix : NoncePrefix) (nonce : ℕ) (ids : ArtifactIds) (artifact : StagedArtifact)
    (file : FileReads artifact.contents)
    (h : artifact.contents.length ≤ maxTransferArtifactBytes.toNat) :
    ∃ served, serveArtifact cipher key noncePrefix nonce ids artifact file = .ok served := by
  have hchunks : ∀ chunk ∈ (servedStream key noncePrefix ids artifact file).chunks,
      chunk.2.plaintext.length ≤ transferArtifactChunkBytes := by
    rintro ⟨finalChunk, sealing⟩ hchunk
    obtain ⟨place, sequence, -, -, -, hplace⟩ := mem_sealReads hchunk
    cases finalChunk with
    | false => exact file.length_read_le _ (mem_of_getElem? hplace)
    | true =>
      rw [hplace.2.2]
      exact Nat.zero_le _
  obtain ⟨bytes, hbytes⟩ := exists_writeArtifactChunks cipher hchunks
  rw [serveArtifact, if_neg (Nat.not_lt.mpr h)]
  simp only [hbytes]
  exact ⟨_, rfl⟩

/-- The response in front of a stream passes every check. -/
theorem openArtifactResponse_servedResponse {receiver : ArtifactReceiver} {machine : Machine}
    {stream : SealedStream} {filename : String} (peerId : String)
    (hreceiver : stream.key.receiver = receiver.publicKey)
    (hfilename : filename.utf8ByteSize ≤ maxArtifactFilenameBytes)
    (hsize : stream.plaintextSize ≤ maxTransferArtifactBytes)
    (hpermits : 0 < receiver.artifactPeerRequestPermits)
    (hmachine : machine.createDirError = none) :
    openArtifactResponse receiver peerId stream.ids stream.key.sender machine
        (.ok (servedResponse nonce filename stream)) =
      .ok (stream.sealer.header, stream.plaintextSize) := by
  have haccept : (servedResponse nonce filename stream).accept stream.ids =
      .ok (⟨publicKeyToString stream.key.sender, publicKeyToString stream.key.receiver, nonce,
        streamedMetadata stream.ids filename stream.plaintextSize⟩,
        some stream.sealer.header) := by
    simp [servedResponse, ArtifactFetchWireResponse.accept]
  have hopen : openJson (publicKeyToString receiver.publicKey)
      (publicKeyToString stream.key.sender) ⟨publicKeyToString stream.key.sender,
        publicKeyToString stream.key.receiver, nonce,
        streamedMetadata stream.ids filename stream.plaintextSize⟩ =
      .ok (streamedMetadata stream.ids filename stream.plaintextSize) :=
    openJson_eq_ok_iff.mpr ⟨congrArg publicKeyToString hreceiver, rfl, rfl⟩
  have hcheck : StreamedArtifactMetadata.check ⟨some stream.ids.requestId,
      some stream.ids.transferId, stream.ids.artifactId, some ArtifactFraming.streamedV3.name,
      filename, stream.plaintextSize⟩ stream.ids = .ok () := by
    have hframing : ensureArtifactFraming (some ArtifactFraming.streamedV3.name) .streamedV3 =
        .ok () := rfl
    simp [StreamedArtifactMetadata.check, ensureOptionalArtifactMetadataMatch, hframing,
      Nat.not_lt.mpr hfilename]
  have hstream : checkStream peerId (some stream.sealer.header) stream.plaintextSize =
      .ok stream.sealer.header := by
    simp only [checkStream, okOr_some, ok_bind, StreamSealer.toOwnedBounded_header,
      if_neg (UInt64.not_lt.mpr hsize)]
  rw [openArtifactResponse, if_neg (Nat.ne_of_gt hpermits)]
  simp [haccept, hopen, ofValue_streamedMetadata, hcheck, hmachine, hstream]

theorem toNat_ofNat_length (hsize : artifact.contents.length ≤ maxTransferArtifactBytes.toNat) :
    (ofNat artifact.contents.length).toNat = artifact.contents.length :=
  toNat_ofNat_of_lt' (Nat.lt_of_le_of_lt hsize (by decide))

/-- The whole loop over the chunks of a served artifact. -/
theorem readChunks_servedStream {sealings : Sealings} {machine : Machine} (directory : Directory)
    (ending : Ending) (part : GuardedArtifactPart) (rest : List UInt8)
    (hsize : artifact.contents.length ≤ maxTransferArtifactBytes.toNat)
    (hstream : servedStream key noncePrefix ids artifact file ∈ sealings.streams)
    (hmachine : ∀ sequence, machine.writeError sequence = none)
    (hwrite : writeArtifactChunks cipher (servedStream key noncePrefix ids artifact file).chunks =
      .ok bytes) :
    ChunkReader.readChunks ⟨cipher, sealings.log, machine, ending, part,
        UInt64.ofNat artifact.contents.length⟩ (bytes ++ rest).length (bytes ++ rest)
        ⟨⟨key, streamAssociatedData key
            (artifactStreamContext ids (UInt64.ofNat artifact.contents.length)), noncePrefix, 0⟩,
          0, 0, directory.put part.name []⟩ =
      (.ok (), directory.put part.name artifact.contents) := by
  have hlength := toNat_ofNat_length hsize
  -- a file of this size has far fewer reads than there are numbers
  have hnumbers : (0 : UInt64).toNat + file.reads.length + 1 < UInt64.size := by
    have hmany := length_le_length_flatten file.read_ne_nil
    have hmaximum : maxTransferArtifactBytes.toNat + 1 < UInt64.size := by decide
    rw [file.flatten_reads] at hmany
    rw [UInt64.toNat_zero]
    omega
  have hrounds : file.reads.length < (bytes ++ rest).length := by
    have hchunks := length_le_of_writeArtifactChunks hwrite
    have hreads : (servedStream key noncePrefix ids artifact file).chunks.length =
      file.reads.length + 1 := length_sealReads hnumbers
    rw [length_append]
    omega
  refine Eq.trans (ChunkReader.readChunks_served _ _ rest
    (Nat.le_trans (Nat.le_of_eq hlength) hsize) hmachine file.length_read_le hrounds rfl hnumbers
    (by rw [file.flatten_reads, hlength, UInt64.toNat_zero, Nat.zero_add]) rfl
    (fun chunk hchunk => Sealings.mem_log hstream hchunk) hwrite) ?_
  rw [nil_append, file.flatten_reads]

/-- **A served artifact is committed**: its stream, delivered as it was written, is read to the
end and becomes the file. -/
theorem fetch_served {sealings : Sealings} {receiver : ArtifactReceiver}
    (sha256 : List UInt8 → Fin 32 → UInt8) (peerId : String) (ending : Ending) (rest : List UInt8)
    (hserved : serveArtifact cipher key noncePrefix nonce ids artifact file = .ok served)
    (hstream : served.stream ∈ sealings.streams) (hreceiver : key.receiver = receiver.publicKey)
    (hpermits : 0 < receiver.artifactPeerRequestPermits) (hmachine : machine.Works directory) :
    fetchPeerArtifactStream cipher sha256 sealings.log receiver peerId ids key.sender machine
        ⟨.ok served.response, served.bytes ++ rest, ending⟩ directory =
      (.ok (managedArtifactFilename sha256 ids.artifactId),
        directory.put (managedArtifactFilename sha256 ids.artifactId) artifact.contents) := by
  obtain ⟨hsize, hserved, hresponse, hwrite⟩ := serveArtifact_eq_ok hserved
  rw [hserved] at hstream hresponse hwrite
  have hmaximum : ofNat artifact.contents.length ≤ maxTransferArtifactBytes :=
    le_iff_toNat_le.mpr (Nat.le_trans (Nat.le_of_eq (toNat_ofNat_length hsize)) hsize)
  have hopen : openArtifactResponse receiver peerId ids key.sender machine
      (.ok served.response) = .ok ((servedStream key noncePrefix ids artifact file).sealer.header,
        ofNat artifact.contents.length) := by
    rw [hresponse]
    exact openArtifactResponse_servedResponse peerId hreceiver artifact.filename_le hmaximum
      hpermits hmachine.createDir
  obtain ⟨part, created, hcreate⟩ := hmachine.exists_create
  obtain ⟨hpart, rfl⟩ := GuardedArtifactPart.createFrom_eq_ok hcreate
  have hopener : StreamOpener.new receiver.publicKey key.sender
      (servedStream key noncePrefix ids artifact file).sealer.header
      (artifactStreamContext ids (ofNat artifact.contents.length)) = .ok ⟨key,
        streamAssociatedData key
          (artifactStreamContext ids (ofNat artifact.contents.length)), noncePrefix, 0⟩ := by
    rw [← hreceiver]
    exact StreamOpener.new_header key.sender key.receiver key.ephemeral noncePrefix _
  have hread := readChunks_servedStream directory ending part rest hsize hstream hmachine.write
    hwrite
  rw [fetchPeerArtifactStream]
  simp only [hopen, hcreate, hopener, hread, GuardedArtifactPart.commit, hmachine.commit,
    Directory.put_self, Directory.remove_put hpart]

end Served

/-! ### The artifact that was sealed -/

/-- **A fetched artifact is exactly the one that was sealed.** Whatever the network delivers,
and whichever of the creations, writes and the commit that `Machine` names fail, either the
fetch commits a file with the whole plaintext that the source has sealed for this request id,
transfer id, artifact id and size, or it returns an error and leaves the directory as it was
(the removal of a partial file succeeds). A source serves every artifact that
is not too large, however its file is read, and when its response arrives as it was written,
the fetch commits the artifact. -/
theorem fetched_artifact_is_sealed_artifact (cipher : ChunkCipher)
    (sha256 : List UInt8 → Fin 32 → UInt8) (sealings : Sealings) (receiver : ArtifactReceiver)
    (peerId : String) (ids : ArtifactIds) (sourcePublicKey : PublicKey) (machine : Machine)
    (directory : Directory) :
    (∀ delivery : ArtifactDelivery,
      (∃ stream ∈ sealings.streams, stream.key.sender = sourcePublicKey ∧
        stream.key.receiver = receiver.publicKey ∧ stream.ids = ids ∧ stream.ended = true ∧
        stream.plaintextSize.toNat = stream.plaintext.length ∧
        fetchPeerArtifactStream cipher sha256 sealings.log receiver peerId ids sourcePublicKey
            machine delivery directory =
          (.ok (managedArtifactFilename sha256 ids.artifactId),
            directory.put (managedArtifactFilename sha256 ids.artifactId) stream.plaintext)) ∨
      ∃ error, fetchPeerArtifactStream cipher sha256 sealings.log receiver peerId ids
        sourcePublicKey machine delivery directory = (.error error, directory)) ∧
    ∀ (ephemeral : PublicKey) (noncePrefix : NoncePrefix) (nonce : ℕ)
      (artifact : StagedArtifact) (file : FileReads artifact.contents),
      artifact.contents.length ≤ maxTransferArtifactBytes.toNat →
      ∃ served, serveArtifact cipher ⟨sourcePublicKey, receiver.publicKey, ephemeral⟩
          noncePrefix nonce ids artifact file = .ok served ∧
        (served.stream ∈ sealings.streams → 0 < receiver.artifactPeerRequestPermits →
          machine.Works directory → ∀ ending rest,
          fetchPeerArtifactStream cipher sha256 sealings.log receiver peerId ids
              sourcePublicKey machine ⟨.ok served.response, served.bytes ++ rest, ending⟩
              directory =
            (.ok (managedArtifactFilename sha256 ids.artifactId),
              directory.put (managedArtifactFilename sha256 ids.artifactId)
                artifact.contents)) := by
  refine ⟨fun delivery => fetch_cases cipher sha256 receiver peerId sourcePublicKey machine
    delivery, fun ephemeral noncePrefix nonce artifact file hsize => ?_⟩
  obtain ⟨served, hserved⟩ := exists_serveArtifact cipher
    ⟨sourcePublicKey, receiver.publicKey, ephemeral⟩ noncePrefix nonce ids artifact file hsize
  refine ⟨served, hserved, fun hstream hpermits hmachine ending rest => ?_⟩
  -- the key is found from `hserved`, not from the goal
  have hfetch := fetch_served sha256 peerId ending rest hserved hstream rfl hpermits hmachine
  exact hfetch

/-- A cipher whose ciphertexts are the plaintexts with an empty tag. -/
def taggedCipher : ChunkCipher where
  encrypt sealing := sealing.plaintext ++ List.replicate 16 0
  length_encrypt sealing := by rw [List.length_append, List.length_replicate]
  plaintext_eq h := List.append_cancel_right h

/-- A key of one byte, repeated. -/
def repeatedKey (byte : UInt8) : PublicKey := ⟨List.replicate 32 byte, List.length_replicate⟩

/-- An artifact of three bytes. -/
def threeBytes : StagedArtifact := ⟨"three", [1, 2, 3], by decide⟩

/-- It is read in two parts. -/
def threeBytesRead : FileReads threeBytes.contents := ⟨[[1, 2], [3]], rfl, by decide, by decide⟩

/-- A request for it. -/
def threeBytesIds : ArtifactIds := ⟨"request", "transfer", "three", by decide⟩

/-- Nothing but this artifact was ever sealed. -/
def threeBytesSealed : Sealings where
  streams := [servedStream ⟨repeatedKey 1, repeatedKey 2, repeatedKey 3⟩
    ⟨List.replicate 16 0, List.length_replicate⟩ threeBytesIds threeBytes threeBytesRead]
  envelopes := []
  fresh := List.nodup_singleton _

/-- A machine on which nothing fails. -/
def workingMachine : Machine := ⟨fun _ => [], none, none, fun _ => none, none⟩

/-- An artifact of three bytes, read in two parts, is served and committed. -/
theorem fetched_artifact_is_sealed_artifact_threeBytes :
    ∃ served, serveArtifact taggedCipher ⟨repeatedKey 1, repeatedKey 2, repeatedKey 3⟩
        ⟨List.replicate 16 0, List.length_replicate⟩ 0 threeBytesIds threeBytes threeBytesRead =
          .ok served ∧
      fetchPeerArtifactStream taggedCipher (fun _ _ => 0) threeBytesSealed.log
          ⟨repeatedKey 2, 1⟩ "source" threeBytesIds (repeatedKey 1) workingMachine
          ⟨.ok served.response, served.bytes ++ [], .closed⟩ (fun _ => none) =
        (.ok (managedArtifactFilename (fun _ _ => 0) "three"),
          Directory.put (fun _ => none) (managedArtifactFilename (fun _ _ => 0) "three")
            [1, 2, 3]) := by
  obtain ⟨served, hserved, hfetch⟩ := (fetched_artifact_is_sealed_artifact taggedCipher
    (fun _ _ => 0) threeBytesSealed ⟨repeatedKey 2, 1⟩ "source" threeBytesIds (repeatedKey 1)
    workingMachine (fun _ => none)).2 (repeatedKey 3)
      ⟨replicate 16 0, length_replicate⟩ 0 threeBytes threeBytesRead (by decide)
  refine ⟨served, hserved, hfetch ?_ Nat.one_pos
    ⟨rfl, rfl, fun _ => rfl, rfl, 0, by decide, rfl⟩ .closed []⟩
  rw [(serveArtifact_eq_ok hserved).2.1]
  exact mem_singleton_self _

end Kanna
