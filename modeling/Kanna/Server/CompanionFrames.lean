import Kanna.Lib.Utf8

/-!
# Companion frames and their chunks

`crates/kanna-agent-protocol/src/frames.rs` and `crates/kanna-server/src/ksp.rs`: the
frames of a visual companion, what a pending one is charged for, and the chunks a
snapshot is cut into (`ActiveCompanionChunks`) so that terminal and control frames
can run between them.

A snapshot is serialized to JSON first; the serializer is a parameter, since nothing
here depends on what the text says. `companionChunkEnd_spec` follows one turn of the
splitter, which backs off to a character boundary, and `exists_splits` all of them.
The counting pass and the emitting pass both take exactly these turns
(`countChunks_eq`, `drain_eq`), so that they agree.
-/

namespace Kanna

/-- `CompanionDocumentKind`. -/
inductive CompanionDocumentKind where
  | fragment
  | fullDocument

/-- `CompanionAsset`. -/
structure CompanionAsset where
  name : String
  contentType : String
  digest : String
  dataB64 : String

/-- The frames of `ServerFrame` that `publish_shared` handles; the rest are `other`. -/
inductive CompanionFrame where
  | companionSnapshot (taskId sessionId revision : String) (documentKind : CompanionDocumentKind)
      (html : List Char) (sourceOrigin : Option String) (assets : List CompanionAsset)
      (attachmentEpoch : Option ℕ)
  | companionSnapshotChunk (taskId transferId : String) (index count : ℕ) (data : List Char)
      (attachmentEpoch : Option ℕ)
  | companionUnavailable (taskId : String) (attachmentEpoch : Option ℕ)
  | companionError (taskId code message : String) (attachmentEpoch : Option ℕ)
  | other

namespace CompanionFrame

/-- The attachment epoch a companion frame carries. -/
def epoch : CompanionFrame → Option (Option ℕ)
  | .companionSnapshot _ _ _ _ _ _ _ e => some e
  | .companionSnapshotChunk _ _ _ _ _ e => some e
  | .companionUnavailable _ e => some e
  | .companionError _ _ _ e => some e
  | .other => none

/-- The frame is a snapshot. -/
def isSnapshot : CompanionFrame → Bool
  | .companionSnapshot .. => true
  | _ => false

end CompanionFrame

/-- `companion_frame_for_attachment`: the assets go unless they were asked for. -/
def companionFrameForAttachment (frame : CompanionFrame) (includeAssets : Bool) : CompanionFrame :=
  if includeAssets then frame
  else
    match frame with
    | .companionSnapshot taskId sessionId revision kind html origin _ e =>
      .companionSnapshot taskId sessionId revision kind html origin [] e
    | unchanged => unchanged

/-- `stamp_companion_attachment_epoch`. -/
def stampCompanionAttachmentEpoch (frame : CompanionFrame) (attachmentEpoch : Option ℕ) :
    CompanionFrame :=
  match frame with
  | .companionSnapshot taskId sessionId revision kind html origin assets _ =>
    .companionSnapshot taskId sessionId revision kind html origin assets attachmentEpoch
  | .companionSnapshotChunk taskId transferId index count data _ =>
    .companionSnapshotChunk taskId transferId index count data attachmentEpoch
  | .companionUnavailable taskId _ => .companionUnavailable taskId attachmentEpoch
  | .companionError taskId code message _ => .companionError taskId code message attachmentEpoch
  | .other => .other

/-- A stamped frame carries the epoch, if it carries one at all. -/
theorem epoch_stamp {frame : CompanionFrame} {e e' : Option ℕ}
    (h : (stampCompanionAttachmentEpoch frame e).epoch = some e') : e' = e := by
  cases frame <;> cases h <;> rfl

/-- What an asset is charged for. -/
def CompanionAsset.retainedBytes (asset : CompanionAsset) : ℕ :=
  asset.name.utf8ByteSize + asset.contentType.utf8ByteSize + asset.digest.utf8ByteSize +
    asset.dataB64.utf8ByteSize

/-- `companion_frame_retained_bytes`. -/
def companionFrameRetainedBytes : CompanionFrame → ℕ
  | .companionSnapshot taskId sessionId revision _ html origin assets _ =>
    taskId.utf8ByteSize + sessionId.utf8ByteSize + revision.utf8ByteSize + byteLen html +
      (origin.map String.utf8ByteSize).getD 0 +
      assets.foldr (fun asset total => asset.retainedBytes + total) 0 + 1024
  | _ => 1024

/-- `PendingCompanionFrame`: a frame that is charged to the shared budget until it is
dropped. -/
structure PendingCompanionFrame where
  frame : CompanionFrame
  taskId : String
  generation : ℕ
  attachmentEpoch : Option ℕ
  acceptSnapshotChunks : Bool
  retainedBytes : ℕ

/-- `COMPANION_SNAPSHOT_CHUNK_DATA_BYTES`: 96 KiB. -/
def companionSnapshotChunkDataBytes : ℕ := 98304

/-- `u32::MAX`. -/
def u32Max : ℕ := 4294967295

/-- `companion_chunk_end`: as far as a chunk reaches, backed off to a character
boundary. -/
def companionChunkEnd (serialized : List Char) (offset : ℕ) : ℕ :=
  backOff serialized offset
    (min (offset + companionSnapshotChunkDataBytes) (byteLen serialized))

/-- `ActiveCompanionChunks`. -/
structure ActiveCompanionChunks where
  taskId : String
  transferId : String
  attachmentEpoch : Option ℕ
  /-- the whole text -/
  serialized : List Char
  /-- where the next chunk starts, in bytes -/
  offset : ℕ
  /-- the number of the next chunk -/
  index : ℕ
  count : ℕ
  /-- the frame, which stays charged meanwhile -/
  delivery : PendingCompanionFrame

/-- The counting pass of `ActiveCompanionChunks::new`; a turn consumes at least one
byte, so that the text's length is enough fuel. -/
def countChunks (serialized : List Char) : ℕ → ℕ → ℕ → ℕ
  | 0, _, count => count
  | fuel + 1, offset, count =>
    if offset < byteLen serialized then
      countChunks serialized fuel (companionChunkEnd serialized offset) (min (count + 1) u32Max)
    else count

namespace ActiveCompanionChunks

/-- `ActiveCompanionChunks::new`: only snapshots are chunked, and serializing may fail. -/
def new (serialize : CompanionFrame → Option (List Char)) (delivery : PendingCompanionFrame) :
    Option ActiveCompanionChunks :=
  match stampCompanionAttachmentEpoch delivery.frame delivery.attachmentEpoch with
  | .companionSnapshot taskId sessionId revision kind html origin assets e =>
    (serialize (.companionSnapshot taskId sessionId revision kind html origin assets e)).map
      fun serialized =>
        { taskId
          transferId := sessionId ++ ":" ++ revision
          attachmentEpoch := delivery.attachmentEpoch
          serialized
          offset := 0
          index := 0
          count := countChunks serialized (byteLen serialized) 0 0
          delivery }
  | _ => none

/-- The text from the current offset up to the end of the next chunk. -/
def data (active : ActiveCompanionChunks) : List Char :=
  takeBytes (dropBytes active.serialized active.offset)
    (companionChunkEnd active.serialized active.offset - active.offset)

/-- The chunk `ActiveCompanionChunks::next` returns. -/
def chunk (active : ActiveCompanionChunks) : CompanionFrame :=
  .companionSnapshotChunk active.taskId active.transferId active.index active.count active.data
    active.attachmentEpoch

/-- `ActiveCompanionChunks::next`. -/
def next (active : ActiveCompanionChunks) : Option (CompanionFrame × ActiveCompanionChunks) :=
  if byteLen active.serialized ≤ active.offset then none
  else
    some (active.chunk,
      { active with
        offset := companionChunkEnd active.serialized active.offset
        index := min (active.index + 1) u32Max })

/-- Every chunk there is, up to `fuel` of them. -/
def drain : ℕ → ActiveCompanionChunks → List CompanionFrame
  | 0, _ => []
  | fuel + 1, active =>
    match active.next with
    | some (frame, rest) => frame :: drain fuel rest
    | none => []

end ActiveCompanionChunks

/-! ### The splitter -/

open List

/-- One turn: behind a character boundary with text left, the chunk is not empty, is
within the limit and ends at a boundary. -/
theorem companionChunkEnd_spec (pre : List Char) {post : List Char} (hpost : post ≠ []) :
    ∃ chunk rest, post = chunk ++ rest ∧ chunk ≠ [] ∧
      byteLen chunk ≤ companionSnapshotChunkDataBytes ∧
      companionChunkEnd (pre ++ post) (byteLen pre) = byteLen (pre ++ chunk) := by
  obtain ⟨hboundary, hlow, hhigh, hlast⟩ := backOff_spec (isCharBoundary_append pre post)
      (Nat.le_min.mpr ⟨Nat.le_add_right _ companionSnapshotChunkDataBytes,
        (byteLen_append pre post).symm ▸ Nat.le_add_right _ _⟩)
  obtain ⟨chunk, rest, rfl, hend⟩ := exists_split_of_le hboundary hlow
  have hlimit : byteLen chunk ≤ companionSnapshotChunkDataBytes := by
    omega
  refine ⟨chunk, rest, rfl, ?_, hlimit, hend.trans (byteLen_append pre chunk).symm⟩
  -- the end of the first character is a boundary within the limit
  rintro rfl
  cases rest with
  | nil => exact hpost rfl
  | cons c rest =>
    have hsize := c.utf8Size_le_four
    have hpos := c.utf8Size_pos
    have hfirst : byteLen (pre ++ [c]) = byteLen pre + c.utf8Size := by
      rw [byteLen_append, byteLen, byteLen, Nat.add_zero]
    have hle := hlast (byteLen (pre ++ [c])) ?_ ?_
    · rw [hend, hfirst, byteLen] at hle
      omega
    · refine Nat.le_min.mpr ⟨?_, ?_⟩
      · rw [hfirst, companionSnapshotChunkDataBytes]
        omega
      · rw [hfirst, nil_append, byteLen_append, byteLen]
        omega
    · have := isCharBoundary_append (pre ++ [c]) rest
      rwa [append_assoc] at this

/-- A chunk that ends at the limit or with the text. -/
theorem companionChunkEnd_eq (pre : List Char) {chunk rest : List Char}
    (h : min companionSnapshotChunkDataBytes (byteLen (chunk ++ rest)) = byteLen chunk) :
    companionChunkEnd (pre ++ (chunk ++ rest)) (byteLen pre) = byteLen (pre ++ chunk) := by
  have hle : byteLen pre ≤ byteLen (pre ++ chunk) := by
    rw [byteLen_append]
    exact Nat.le_add_right _ _
  obtain ⟨-, -, hhigh, hlast⟩ := backOff_spec (isCharBoundary_append pre (chunk ++ rest)) hle
  rw [companionChunkEnd, byteLen_append pre (chunk ++ rest), Nat.add_min_add_left, h,
    ← byteLen_append]
  refine Nat.le_antisymm hhigh (hlast _ (Nat.le_refl _) ?_)
  rw [← append_assoc]
  exact isCharBoundary_append _ _

/-- The texts of the chunks the splitter cuts from `offset` on. -/
inductive Splits (serialized : List Char) : ℕ → List (List Char) → Prop where
  | done {offset : ℕ} (h : byteLen serialized ≤ offset) : Splits serialized offset []
  | more {offset : ℕ} {datas : List (List Char)} (h : offset < byteLen serialized)
      (hrest : Splits serialized (companionChunkEnd serialized offset) datas) :
      Splits serialized offset
        (takeBytes (dropBytes serialized offset) (companionChunkEnd serialized offset - offset) ::
          datas)

/-- A chunk as the splitter should cut it. -/
def ChunkOk (data : List Char) : Prop :=
  data ≠ [] ∧ byteLen data ≤ companionSnapshotChunkDataBytes

variable {datas : List (List Char)}

/-- One turn cuts the text between two boundaries. -/
theorem Splits.cut {pre chunk rest : List Char} (hchunk : chunk ≠ [])
    (hend : companionChunkEnd (pre ++ (chunk ++ rest)) (byteLen pre) = byteLen (pre ++ chunk))
    (hrest : Splits (pre ++ (chunk ++ rest)) (byteLen (pre ++ chunk)) datas) :
    Splits (pre ++ (chunk ++ rest)) (byteLen pre) (chunk :: datas) := by
  have hpos := byteLen_pos hchunk
  have hmore : byteLen pre < byteLen (pre ++ (chunk ++ rest)) := by
    rw [byteLen_append, byteLen_append]
    omega
  rw [← hend] at hrest
  have h := Splits.more hmore hrest
  rwa [hend, byteLen_append pre chunk, Nat.add_sub_cancel_left, dropBytes_append,
    takeBytes_append] at h

/-- The splitter ends, and what it cuts is what was there. -/
theorem exists_splits (pre post : List Char) :
    ∃ datas, Splits (pre ++ post) (byteLen pre) datas ∧ datas.flatten = post ∧
      ∀ data ∈ datas, ChunkOk data := by
  induction hn : byteLen post using Nat.strongRecOn generalizing pre post with
  | _ n ih =>
    by_cases hpost : post = []
    · subst hpost
      refine ⟨[], .done (Nat.le_of_eq ?_), rfl, by simp⟩
      rw [byteLen_append, byteLen, Nat.add_zero]
    · obtain ⟨chunk, rest, rfl, hchunk, hlimit, hend⟩ := companionChunkEnd_spec pre hpost
      have hpos := byteLen_pos hchunk
      rw [byteLen_append] at hn
      obtain ⟨datas, hsplits, hflatten, hok⟩ := ih (byteLen rest) (by omega) (pre ++ chunk) rest rfl
      rw [append_assoc] at hsplits
      refine ⟨chunk :: datas, .cut hchunk hend hsplits, ?_, ?_⟩
      · rw [flatten_cons, hflatten]
      · exact forall_mem_cons.mpr ⟨⟨hchunk, hlimit⟩, hok⟩

/-- No more chunks than bytes, as none of them is empty. -/
theorem length_le_of_chunkOk (h : ∀ data ∈ datas, ChunkOk data) :
    datas.length ≤ byteLen datas.flatten := by
  induction datas with
  | nil => exact Nat.le_refl 0
  | cons data datas ih =>
    obtain ⟨hdata, hdatas⟩ := forall_mem_cons.mp h
    have := byteLen_pos hdata.1
    have := ih hdatas
    rw [flatten_cons, byteLen_append, length_cons]
    omega

/-- The counting pass counts the splitter's turns. -/
theorem countChunks_eq {serialized : List Char} {offset : ℕ} (h : Splits serialized offset datas) :
    ∀ {fuel count : ℕ}, datas.length ≤ fuel → count ≤ u32Max →
      countChunks serialized fuel offset count = min (count + datas.length) u32Max := by
  induction h with
  | done hdone =>
    intro fuel count _ hcount
    rw [length_nil, Nat.add_zero, Nat.min_eq_left hcount]
    cases fuel with
    | zero => rfl
    | succ fuel => rw [countChunks, if_neg (Nat.not_lt.mpr hdone)]
  | more hmore _ ih =>
    intro fuel count hfuel hcount
    cases fuel with
    | zero => exact absurd hfuel (Nat.not_succ_le_zero _)
    | succ fuel =>
      rw [countChunks, if_pos hmore, ih (Nat.le_of_succ_le_succ hfuel) (Nat.min_le_right _ _),
        length_cons]
      omega

namespace ActiveCompanionChunks

/-- The chunk with a given number and text. -/
def chunkOf (active : ActiveCompanionChunks) (index : ℕ) (data : List Char) : CompanionFrame :=
  .companionSnapshotChunk active.taskId active.transferId index active.count data
    active.attachmentEpoch

/-- The chunks that are still to come have the same header. -/
theorem chunkOf_moved (active : ActiveCompanionChunks) (offset index : ℕ) :
    chunkOf { active with offset := offset, index := index } = active.chunkOf := rfl

variable {active : ActiveCompanionChunks}

/-- The next chunk is the one of the splitter's next turn. -/
theorem next_of_splits {data : List Char}
    (h : Splits active.serialized active.offset (data :: datas)) (hindex : active.index < u32Max) :
    ∃ offset, Splits active.serialized offset datas ∧
      active.next = some (active.chunkOf active.index data,
        { active with offset := offset, index := active.index + 1 }) := by
  cases h with
  | more hmore hrest =>
    refine ⟨_, hrest, ?_⟩
    rw [next, if_neg (Nat.not_le.mpr hmore), Nat.min_eq_left hindex]
    rfl

/-- The emitting pass takes the splitter's turns and numbers them. -/
theorem drain_eq (h : Splits active.serialized active.offset datas) :
    ∀ {fuel : ℕ}, datas.length ≤ fuel → active.index + datas.length ≤ u32Max →
      drain fuel active = (datas.zipIdx active.index).map fun p => active.chunkOf p.2 p.1 := by
  induction datas generalizing active with
  | nil =>
    intro fuel _ _
    cases h with
    | done hdone =>
      cases fuel with
      | zero => rfl
      | succ fuel => rw [drain, next, if_pos hdone, zipIdx_nil, map_nil]
  | cons data datas ih =>
    intro fuel hfuel hindex
    rw [length_cons] at hfuel hindex
    cases fuel with
    | zero => exact absurd hfuel (Nat.not_succ_le_zero _)
    | succ fuel =>
      obtain ⟨offset, hrest, hnext⟩ := next_of_splits h (by omega)
      have htail := @ih { active with offset := offset, index := active.index + 1 } hrest fuel
        (Nat.le_of_succ_le_succ hfuel) (by dsimp only; omega)
      rw [drain, hnext, zipIdx_cons, map_cons]
      exact congrArg (active.chunkOf active.index data :: ·) htail

variable {serialize : CompanionFrame → Option (List Char)} {delivery : PendingCompanionFrame}
  (hnew : new serialize delivery = some active)

include hnew

/-- A snapshot before its first chunk. -/
theorem start_of_new : active.offset = 0 ∧ active.index = 0 ∧
    active.count = countChunks active.serialized (byteLen active.serialized) 0 0 := by
  rw [new] at hnew
  split at hnew
  next =>
    obtain ⟨serialized, -, rfl⟩ := Option.map_eq_some_iff.mp hnew
    exact ⟨rfl, rfl, rfl⟩
  next => cases hnew

/-- **The two passes agree**: a snapshot whose announced count fits in 32 bits is cut
into exactly that many chunks, numbered from zero, whose texts are not empty, are
within the limit and together are the serialized snapshot. -/
theorem drain_of_new (hcount : active.count < u32Max) :
    ∃ datas : List (List Char), (∀ fuel, datas.length ≤ fuel → drain fuel active =
        datas.zipIdx.map fun p => active.chunkOf p.2 p.1) ∧
      datas.length = active.count ∧ datas.flatten = active.serialized ∧
      ∀ data ∈ datas, ChunkOk data := by
  obtain ⟨hoffset, hindex, hnumber⟩ := start_of_new hnew
  obtain ⟨datas, hsplits, hflatten, hok⟩ := exists_splits [] active.serialized
  have hlength := length_le_of_chunkOk hok
  rw [hflatten] at hlength
  have hcounted := countChunks_eq hsplits hlength (Nat.zero_le u32Max)
  rw [nil_append, byteLen, Nat.zero_add, ← hnumber] at hcounted
  have hdatas : datas.length = active.count := by omega
  rw [nil_append, byteLen, ← hoffset] at hsplits
  refine ⟨datas, fun fuel hfuel => ?_, hdatas, hflatten, hok⟩
  have hdrain := drain_eq hsplits hfuel (by omega)
  rwa [hindex] at hdrain

end ActiveCompanionChunks

end Kanna
