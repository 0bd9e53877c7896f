import Kanna.Client.CompanionAssembly

/-!
# A transfer, chunk by chunk

`CompanionTransfer` is a snapshot as the server cuts it into chunks. If it has at most 512
of them, the client takes each one that finds the chunks before it in the assembly
(`accept_chunk`): the assembly grows by the chunk, or the text is complete and is passed on,
or the decode budget is used up and the attachment is told. Any other chunk ends the
assembly (`accept_rejected`).
-/

namespace Kanna

/-! ### A transfer as the server cuts it -/

/-- The text of a chunk. -/
def CompanionFrame.chunkData : CompanionFrame → Option (List Char)
  | .companionSnapshotChunk _ _ _ _ data _ => some data
  | _ => none

/-- A transfer: the snapshot as `ActiveCompanionChunks::new` prepared it, for the attachment
of the generation `owner`. Transfers are numbered, so that no two are the same. -/
structure CompanionTransfer (serialize : CompanionFrame → Option (List Char)) where
  number : ℕ
  owner : ℕ
  delivery : PendingCompanionFrame
  start : ActiveCompanionChunks
  isNew : ActiveCompanionChunks.new serialize delivery = some start

open List

namespace ActiveCompanionChunks

/-- Fewer calls of `next` return the first of the same chunks. -/
theorem drain_eq_take (active : ActiveCompanionChunks) (fuel more : ℕ) :
    drain fuel active = (drain (fuel + more) active).take fuel := by
  induction fuel generalizing active with
  | zero => rw [take_zero, drain]
  | succ fuel ih =>
    rw [Nat.succ_add, drain, drain]
    split
    next frame rest _ => rw [take_succ_cons, ← ih rest]
    next => rw [take_nil]

variable {active : ActiveCompanionChunks}

/-- Every chunk names the transfer it is of. -/
theorem exists_chunkOf {fuel : ℕ} {frame : CompanionFrame} (h : frame ∈ drain fuel active) :
    ∃ index data, frame = active.chunkOf index data := by
  induction fuel generalizing active with
  | zero => cases h
  | succ fuel ih =>
    rw [drain] at h
    split at h
    next first rest hnext =>
      rw [next, Option.ite_none_left_eq_some] at hnext
      obtain ⟨rfl, rfl⟩ := Prod.mk.inj (Option.some.inj hnext.2)
      obtain rfl | h := mem_cons.mp h
      · exact ⟨active.index, active.data, rfl⟩
      · obtain ⟨index, data, hframe⟩ := ih h
        exact ⟨index, data, by rw [hframe, chunkOf, chunkOf]⟩
    next => cases h

/-- The epoch of a transfer is the one its snapshot is stamped with. -/
theorem exists_serialized {serialize : CompanionFrame → Option (List Char)}
    {delivery : PendingCompanionFrame} (hnew : new serialize delivery = some active) :
    ∃ frame, serialize frame = some active.serialized ∧
      frame.isSnapshotOf active.taskId active.attachmentEpoch = true ∧ active.transferId ≠ "" := by
  rw [new] at hnew
  split at hnew
  next taskId sessionId revision kind html origin assets e hframe =>
    obtain ⟨serialized, hserialized, rfl⟩ := Option.map_eq_some_iff.mp hnew
    have hepoch : e = delivery.attachmentEpoch := epoch_stamp (by rw [hframe]; rfl)
    refine ⟨_, hserialized, ?_, ?_⟩
    · simp [CompanionFrame.isSnapshotOf, hepoch]
    · simp
  next => cases hnew

end ActiveCompanionChunks

namespace CompanionTransfer

variable {serialize : CompanionFrame → Option (List Char)} (transfer : CompanionTransfer serialize)

/-- The chunk the server sends at this place, if there is one. -/
def frame (place : ℕ) : Option CompanionFrame :=
  (transfer.start.drain (place + 1))[place]?

/-- The texts of the chunks. -/
def datas : List (List Char) :=
  (transfer.start.drain (byteLen transfer.start.serialized)).filterMap CompanionFrame.chunkData

/-- The assembly of the first `n` chunks. -/
def assembly (generation n : ℕ) : CompanionChunkAssembly where
  transferId := transfer.start.transferId
  nextIndex := n
  count := transfer.start.count
  retainedCharacters := utf16Length (transfer.datas.take n).flatten
  retainedBytes := utf16Length (transfer.datas.take n).flatten * 2
  chunks := transfer.datas.take n
  attachmentGeneration := generation
  attachmentEpoch := transfer.start.attachmentEpoch

/-- A chunk of the transfer as the client reads it. -/
def chunkFrame (index : ℕ) (data : List Char) : ChunkFrame where
  taskId := transfer.start.taskId
  transferId := transfer.start.transferId
  index := index
  count := transfer.start.count
  data := data
  attachmentEpoch := transfer.start.attachmentEpoch

variable {transfer}

/-- A transfer of at most 512 chunks: its texts, and the chunks in which they travel. -/
structure Fits (transfer : CompanionTransfer serialize) : Prop where
  count_le : transfer.start.count ≤ maxCompanionChunkCount
  frame_eq : ∀ place, transfer.frame place =
    (transfer.datas[place]?).map (transfer.start.chunkOf place)
  length_eq : transfer.datas.length = transfer.start.count
  flatten_eq : transfer.datas.flatten = transfer.start.serialized
  chunkOk : ∀ data ∈ transfer.datas, ChunkOk data

theorem fits (hcount : transfer.start.count ≤ maxCompanionChunkCount) : transfer.Fits := by
  have hsmall : transfer.start.count < u32Max := Nat.lt_of_le_of_lt hcount (by decide)
  obtain ⟨datas, hdrain, hlength, hflatten, hok⟩ :=
    ActiveCompanionChunks.drain_of_new transfer.isNew hsmall
  have hbytes : datas.length ≤ byteLen transfer.start.serialized := by
    rw [← hflatten]
    exact length_le_of_chunkOk hok
  have hdatas : transfer.datas = datas := by
    rw [CompanionTransfer.datas, hdrain _ hbytes, filterMap_map]
    change datas.zipIdx.filterMap (some ∘ Prod.fst) = datas
    rw [filterMap_eq_map, zipIdx_map_fst]
  refine ⟨hcount, fun place => ?_, hdatas ▸ hlength, hdatas ▸ hflatten, hdatas ▸ hok⟩
  rw [frame, ActiveCompanionChunks.drain_eq_take _ (place + 1) datas.length,
    hdrain _ (Nat.le_add_left _ _), hdatas, getElem?_take_of_lt (Nat.lt_succ_self place),
    getElem?_map, getElem?_zipIdx, Nat.zero_add, Option.map_map]
  rfl

end CompanionTransfer

open Function

namespace StreamClient

variable {c : StreamClient} {d : FrameDecoder} {taskId : String}
  {attachment : CompanionAttachment}

/-- The task's assembly has ended, and no text was joined. -/
structure Dropped (taskId : String) (c c' : StreamClient) : Prop where
  assembly : c'.companionChunkAssemblies taskId = none
  joined : c'.joined = c.joined

theorem Dropped.of_drop : Dropped taskId c (c.dropCompanionChunkAssembly taskId) :=
  ⟨by rw [drop_assemblies, update_self], drop_joined⟩

theorem Dropped.fail {error : String × String} :
    Dropped taskId c (c.failAssembly taskId attachment error) :=
  ⟨of_drop.assembly, of_drop.joined⟩

variable {attachmentEpoch : Option ℕ} {assembled : Option (List Char)}

theorem handleSnapshot_joined :
    (c.handleSnapshot taskId attachmentEpoch assembled).joined = c.joined := by
  rw [handleSnapshot]
  split
  · split <;> exact drop_joined
  · rfl

/-- A snapshot ends the assembly of its task. -/
theorem handleSnapshot_assemblies
    (h : c.companionFrameMatchesAttachment attachmentEpoch (c.attachments taskId) = true ∨
      c.companionChunkAssemblies taskId = none) :
    (c.handleSnapshot taskId attachmentEpoch assembled).companionChunkAssemblies taskId = none := by
  rw [handleSnapshot]
  split
  next => split <;> exact Dropped.of_drop.assembly
  next hother => exact h.resolve_left hother

variable {assembly : CompanionChunkAssembly}

theorem complete_joined :
    (c.completeAssembly d taskId attachment assembly).companionChunkAssemblies taskId = none ∧
      (c.completeAssembly d taskId attachment assembly).joined =
        ⟨taskId, assembly.attachmentGeneration, assembly.chunks.flatten⟩ :: c.joined := by
  rw [completeAssembly]
  split
  · exact ⟨update_self _ _ _, rfl⟩
  · split
    · split
      · exact ⟨handleSnapshot_assemblies (.inr (update_self _ _ _)), handleSnapshot_joined⟩
      · exact ⟨update_self _ _ _, rfl⟩
    · exact ⟨update_self _ _ _, rfl⟩

/-- Without a worker, a text that parses to a snapshot of the task and epoch is handed to
the attachment. -/
theorem complete_calls {frame : CompanionFrame}
    (hdirect : d.decodeChunks = false) (hparse : d.parse assembly.chunks.flatten = some frame)
    (hsnapshot : frame.isSnapshotOf taskId assembly.attachmentEpoch = true)
    (hattachment : c.attachments taskId = some attachment)
    (hmatches : c.companionFrameMatchesAttachment assembly.attachmentEpoch (some attachment) =
      true) :
    ⟨taskId, attachment.generation, .onSnapshot (some assembly.chunks.flatten)⟩ ∈
      (c.completeAssembly d taskId attachment assembly).calls := by
  rw [completeAssembly]
  rw [if_neg (by rw [hdirect]; exact Bool.false_ne_true), hparse]
  dsimp only
  rw [if_pos hsnapshot, releaseDecodeBytes, handleSnapshot]
  rw [hattachment]
  have : ({ c with
      companionChunkAssemblies := update c.companionChunkAssemblies taskId none
      joined := ⟨taskId, assembly.attachmentGeneration, assembly.chunks.flatten⟩ :: c.joined } :
        StreamClient).companionFrameMatchesAttachment assembly.attachmentEpoch (some attachment) =
      true := hmatches
  rw [if_pos this]
  exact mem_cons_self

end StreamClient

/-- Parsing gives back what was serialized. -/
def FrameDecoder.RoundTrips (d : FrameDecoder) (serialize : CompanionFrame → Option (List Char)) :
    Prop :=
  ∀ {frame : CompanionFrame} {text : List Char}, serialize frame = some text →
    d.parse text = some frame

namespace CompanionTransfer

open StreamClient

variable {serialize : CompanionFrame → Option (List Char)} {transfer : CompanionTransfer serialize}
  {c : StreamClient} {d : FrameDecoder} {attachment : CompanionAttachment} {place : ℕ}
  {data : List Char}

/-- What the chunk at `place` does to an assembly of the chunks before it. -/
inductive Took (transfer : CompanionTransfer serialize) (d : FrameDecoder) (generation place : ℕ)
    (joined : List Joined) (c' : StreamClient) : Prop where
  | refused
      (htold : ⟨transfer.start.taskId, generation, decodeCapacityError⟩ ∈ c'.calls)
      (hassembly : c'.companionChunkAssemblies transfer.start.taskId = none)
      (hjoined : c'.joined = joined)
  | grew (hmore : place + 1 < transfer.start.count)
      (hassembly : c'.companionChunkAssemblies transfer.start.taskId =
        some (transfer.assembly generation (place + 1)))
      (hjoined : c'.joined = joined)
  | completed (hlast : place + 1 = transfer.start.count)
      (hassembly : c'.companionChunkAssemblies transfer.start.taskId = none)
      (hjoined : c'.joined =
        ⟨transfer.start.taskId, generation, transfer.start.serialized⟩ :: joined)
      (htold : d.decodeChunks = false → d.RoundTrips serialize →
        ⟨transfer.start.taskId, generation, .onSnapshot (some transfer.start.serialized)⟩ ∈
          c'.calls)

theorem byteLen_flatten_le {datas : List (List Char)} (h : ∀ data ∈ datas, ChunkOk data) :
    byteLen datas.flatten ≤ datas.length * companionSnapshotChunkDataBytes := by
  induction datas with
  | nil => exact Nat.zero_le _
  | cons data datas ih =>
    obtain ⟨hdata, hdatas⟩ := forall_mem_cons.mp h
    have := ih hdatas
    have := hdata.2
    rw [flatten_cons, byteLen_append, length_cons, Nat.succ_mul]
    omega

namespace Fits

variable (h : transfer.Fits) (hdata : transfer.datas[place]? = some data)

include h hdata

theorem place_lt : place < transfer.start.count := by
  obtain ⟨hlt, _⟩ := List.getElem?_eq_some_iff.mp hdata
  rwa [h.length_eq] at hlt

theorem valid : (transfer.chunkFrame place data).valid = true := by
  have hplace := h.place_lt hdata
  have hcount := h.count_le
  have hbytes : utf16Length data ≤ companionSnapshotChunkDataBytes :=
    Nat.le_trans (utf16Length_le_byteLen data) (h.chunkOk data (mem_of_getElem? hdata)).2
  obtain ⟨_, _, _, hid⟩ := ActiveCompanionChunks.exists_serialized transfer.isNew
  simp only [companionSnapshotChunkDataBytes, maxCompanionChunkCount] at hbytes hcount
  simp only [ChunkFrame.valid, Bool.and_eq_true, decide_eq_true_eq]
  simp only [chunkFrame, maxSafeInteger, maxCompanionChunkCount, maxCompanionChunkCharacters]
  exact ⟨⟨⟨⟨⟨⟨by omega, by omega⟩, by omega⟩, hcount⟩, hplace⟩, by omega⟩, hid⟩

omit h in
theorem take_succ :
    (transfer.datas.take (place + 1)).flatten = (transfer.datas.take place).flatten ++ data := by
  rw [take_add_one, hdata, flatten_append]
  exact congrArg _ (append_nil data)

theorem continues :
    (transfer.assembly attachment.generation place).continues attachment
      (transfer.chunkFrame place data) = true := by
  have htake : utf16Length (transfer.datas.take (place + 1)).flatten ≤
      maxCompanionChunkCount * companionSnapshotChunkDataBytes := by
    refine Nat.le_trans (utf16Length_le_byteLen _) (Nat.le_trans
      (byteLen_flatten_le fun data hmem => h.chunkOk data (mem_of_mem_take hmem))
      (Nat.mul_le_mul_right _ ?_))
    rw [length_take, h.length_eq]
    exact Nat.le_trans (Nat.min_le_right _ _) h.count_le
  rw [take_succ hdata, utf16Length_append] at htake
  simp only [maxCompanionChunkCount, companionSnapshotChunkDataBytes] at htake
  simp only [CompanionChunkAssembly.continues, Bool.and_eq_true, decide_eq_true_eq]
  simp [assembly, chunkFrame, maxCompanionAssemblyCharacters]
  omega

omit h in
theorem push_eq {generation : ℕ} :
    (transfer.assembly generation place).push data = transfer.assembly generation (place + 1) := by
  have hchunks : transfer.datas.take place ++ [data] = transfer.datas.take (place + 1) := by
    rw [take_add_one, hdata]
    rfl
  rw [CompanionChunkAssembly.push, assembly, assembly, take_succ hdata, utf16Length_append,
    Nat.add_mul, ← hchunks]

omit hdata in
/-- The chunks up to the last one are the serialized snapshot. -/
theorem flatten_take (hlast : place + 1 = transfer.start.count) :
    (transfer.datas.take (place + 1)).flatten = transfer.start.serialized := by
  rw [hlast, ← h.length_eq, take_length, h.flatten_eq]

variable (hattachment : c.attachments transfer.start.taskId = some attachment)
  (hmatches : c.companionFrameMatchesAttachment transfer.start.attachmentEpoch
    (some attachment) = true)

include hattachment hmatches

/-- The chunk after the ones in the assembly is added. -/
theorem append_took (hassembly : c.companionChunkAssemblies transfer.start.taskId =
      some (transfer.assembly attachment.generation place)) :
    transfer.Took d attachment.generation place c.joined
      (c.appendChunk d attachment (transfer.chunkFrame place data)) := by
  rw [appendChunk]
  change c.companionChunkAssemblies (transfer.chunkFrame place data).taskId = _ at hassembly
  rw [hassembly]
  dsimp only
  rw [if_pos (h.continues hdata)]
  split
  · rw [show (transfer.chunkFrame place data).data = data from rfl, push_eq hdata]
    split
    next hlast =>
      have htext := h.flatten_take hlast
      refine .completed hlast complete_joined.1 ?_ fun hdirect hround => ?_
      · rw [complete_joined.2, show (transfer.assembly attachment.generation (place + 1)).chunks =
          transfer.datas.take (place + 1) from rfl, htext]
        rfl
      · obtain ⟨frame, hserialized, hsnapshot, _⟩ :=
          ActiveCompanionChunks.exists_serialized transfer.isNew
        have hcall := @complete_calls
          { c with decodeIngressBytes := c.decodeIngressBytes + utf16Length data * 2 } d
          transfer.start.taskId attachment (transfer.assembly attachment.generation (place + 1))
          frame hdirect (by rw [← htext] at hserialized; exact hround hserialized) hsnapshot
          hattachment hmatches
        rwa [show (transfer.assembly attachment.generation (place + 1)).chunks =
          transfer.datas.take (place + 1) from rfl, htext] at hcall
    next hmore =>
      change ¬ place + 1 = transfer.start.count at hmore
      refine .grew ?_ (update_self _ _ _) rfl
      have := h.place_lt hdata
      omega
  · exact .refused mem_cons_self Dropped.fail.assembly Dropped.fail.joined

/-- A chunk that finds the ones before it in the assembly, or is the first one, is taken. -/
theorem accept_chunk (hplace : place = 0 ∨ c.companionChunkAssemblies transfer.start.taskId =
      some (transfer.assembly attachment.generation place)) :
    transfer.Took d attachment.generation place c.joined
      (c.acceptCompanionSnapshotChunk d (transfer.chunkFrame place data)) := by
  have hcurrent : c.attachments (transfer.chunkFrame place data).taskId = some attachment :=
    hattachment
  have hepoch : c.companionFrameMatchesAttachment (transfer.chunkFrame place data).attachmentEpoch
      (some attachment) = true := hmatches
  rw [acceptCompanionSnapshotChunk, hcurrent, if_pos hepoch]
  dsimp only
  rw [if_pos (h.valid hdata)]
  split
  next hfirst =>
    obtain rfl : place = 0 := hfirst
    have htook := h.append_took (c := c.beginAssembly attachment (transfer.chunkFrame 0 data))
      (d := d) hdata (by rw [beginAssembly, drop_attachments]; exact hattachment)
      ((matches_eq drop_attachmentEpoch _ _).trans hmatches) (update_self _ _ _)
    rw [show (c.beginAssembly attachment (transfer.chunkFrame 0 data)).joined = c.joined from
      drop_joined] at htook
    exact htook
  next hlater => exact h.append_took hdata hattachment hmatches (hplace.resolve_left hlater)

end Fits

/-- A chunk that is not valid, or does not find the ones before it, ends the assembly. -/
theorem accept_rejected (d : FrameDecoder) (frame : ChunkFrame)
    (hattachment : c.attachments frame.taskId = some attachment)
    (hmatches : c.companionFrameMatchesAttachment frame.attachmentEpoch (some attachment) = true)
    (hrejected : frame.valid = false ∨
      frame.index ≠ 0 ∧ c.companionChunkAssemblies frame.taskId = none) :
    Dropped frame.taskId c (c.acceptCompanionSnapshotChunk d frame) := by
  rw [acceptCompanionSnapshotChunk, hattachment, if_pos hmatches]
  dsimp only
  split
  next hvalid =>
    obtain ⟨hindex, hnone⟩ := hrejected.resolve_left (by rw [hvalid]; exact Bool.noConfusion)
    rw [if_neg hindex, appendChunk, hnone]
    exact .fail
  next => exact .fail

end CompanionTransfer

end Kanna
