import Kanna.Lib.Text
import Kanna.Server.CompanionFrames

/-!
# The client's assembly of a chunked companion snapshot

`packages/stream-client/src/index.ts`: `acceptCompanionSnapshotChunk` collects the chunks
of a transfer per task, in order, and passes the joined text on when the last one has
come, to the worker that decodes chunks if there is one and to `JSON.parse` otherwise.

The client is the part of the `StreamClient` that these functions read: the companion
attachments, the assemblies, the budget of the decode lanes and the assembled texts that
wait in the companion lane. What the handlers are told is kept in `calls`, and every text
an assembly ended with in `joined`. `JSON.parse` is a parameter.

Two facts hold of whatever frames come in. Handling something of one task leaves the
attachments and the other tasks' assemblies alone (`Follows`), and a snapshot that is
handed to an attachment was joined for that very attachment (`Sound`).
-/

namespace Kanna

/-! ### Lengths in UTF-16 -/

/-- UTF-16 has no more units than UTF-8 has bytes. -/
theorem utf16Length_le_byteLen (text : List Char) : utf16Length text ≤ byteLen text := by
  induction text with
  | nil => exact Nat.le_refl 0
  | cons c text ih =>
    have hunits : (if c.toNat < 65536 then 1 else 2) ≤ c.utf8Size := by
      have hpos := c.utf8Size_pos
      split_ifs with hsmall
      · exact hpos
      · by_contra hlt
        have hone : c.utf8Size = 1 := by omega
        have hascii := Char.utf8Size_eq_one_iff.mp hone
        have : c.toNat ≤ 127 := UInt32.le_iff_toNat_le.mp hascii
        omega
    rw [utf16Length, byteLen]
    omega

/-! ### The client -/

/-- `MAX_COMPANION_CHUNK_COUNT`. -/
def maxCompanionChunkCount : ℕ := 512

/-- `MAX_COMPANION_CHUNK_CHARACTERS`. -/
def maxCompanionChunkCharacters : ℕ := 262144

/-- `MAX_COMPANION_ASSEMBLY_CHARACTERS`. -/
def maxCompanionAssemblyCharacters : ℕ := 67108864

/-- `MAX_PENDING_DECODE_BYTES`. -/
def maxPendingDecodeBytes : ℕ := 134217728

/-- `Number.MAX_SAFE_INTEGER`. -/
def maxSafeInteger : ℕ := 9007199254740991

/-- The frame `companion_snapshot_chunk`. -/
structure ChunkFrame where
  taskId : String
  transferId : String
  /-- its place in the transfer -/
  index : ℕ
  /-- how many chunks the transfer has -/
  count : ℕ
  data : List Char
  attachmentEpoch : Option ℕ

/-- `CompanionAttachment`. -/
structure CompanionAttachment where
  /-- the number of the attach -/
  generation : ℕ
  deriving DecidableEq

/-- `CompanionChunkAssembly`. -/
structure CompanionChunkAssembly where
  transferId : String
  /-- the place of the chunk that must come next -/
  nextIndex : ℕ
  count : ℕ
  retainedCharacters : ℕ
  retainedBytes : ℕ
  /-- what has come, in order -/
  chunks : List (List Char)
  /-- the attachment it is for -/
  attachmentGeneration : ℕ
  attachmentEpoch : Option ℕ

/-- What an attachment's handlers are told; a snapshot that was assembled comes with the
text it was parsed from. -/
inductive HandlerEvent where
  | onSnapshot (assembled : Option (List Char))
  | onError (code message : String)

/-- A call of a handler of the attachment of this generation. -/
structure HandlerCall where
  taskId : String
  generation : ℕ
  event : HandlerEvent

/-- The text an assembly of this attachment ended with. -/
structure Joined where
  taskId : String
  /-- the attachment -/
  generation : ℕ
  text : List Char

/-- `DecodeIngress` of an assembled snapshot. -/
structure DecodeIngress where
  chunks : List (List Char)
  retainedBytes : ℕ
  companionChunkTaskId : String
  companionAttachmentGeneration : ℕ
  companionChunkAttachmentEpoch : Option ℕ

/-- How frames are decoded: `JSON.parse`, and whether the decoder has `decodeChunks`. -/
structure FrameDecoder where
  parse : List Char → Option CompanionFrame
  decodeChunks : Bool

/-- The companion part of a `StreamClient`. -/
structure StreamClient where
  attachments : String → Option CompanionAttachment
  /-- the last number given to an attach -/
  companionAttachmentGeneration : ℕ
  /-- the transfer that is coming in, for each task -/
  companionChunkAssemblies : String → Option CompanionChunkAssembly
  /-- texts that wait for the decode worker -/
  decodeIngress : List DecodeIngress
  /-- their bytes, with those of other frames that wait -/
  decodeIngressBytes : ℕ
  /-- the capabilities the server announced -/
  companionAttachmentEpoch : Bool
  companionEventEpoch : Bool
  /-- the calls of handlers so far -/
  calls : List HandlerCall
  /-- the texts joined so far -/
  joined : List Joined

/-- The frame is a companion snapshot of this task and epoch. -/
def CompanionFrame.isSnapshotOf (taskId : String) (attachmentEpoch : Option ℕ) :
    CompanionFrame → Bool
  | .companionSnapshot task _ _ _ _ _ _ e => task = taskId && e = attachmentEpoch
  | _ => false

/-- What is asked of a chunk before the assembly is looked at. -/
def ChunkFrame.valid (frame : ChunkFrame) : Bool :=
  frame.index ≤ maxSafeInteger && frame.count ≤ maxSafeInteger && 1 ≤ frame.count &&
    frame.count ≤ maxCompanionChunkCount && frame.index < frame.count &&
    utf16Length frame.data ≤ maxCompanionChunkCharacters && frame.transferId ≠ ""

namespace CompanionChunkAssembly

/-- The chunk is the next one of this assembly, for this attachment. -/
def continues (assembly : CompanionChunkAssembly) (attachment : CompanionAttachment)
    (frame : ChunkFrame) : Bool :=
  assembly.transferId = frame.transferId && assembly.count = frame.count &&
    assembly.nextIndex = frame.index &&
    assembly.retainedCharacters + utf16Length frame.data ≤ maxCompanionAssemblyCharacters &&
    assembly.attachmentGeneration = attachment.generation &&
    assembly.attachmentEpoch = frame.attachmentEpoch

/-- The assembly with one more chunk. -/
def push (assembly : CompanionChunkAssembly) (data : List Char) : CompanionChunkAssembly :=
  { assembly with
    chunks := assembly.chunks ++ [data]
    retainedCharacters := assembly.retainedCharacters + utf16Length data
    retainedBytes := assembly.retainedBytes + utf16Length data * 2
    nextIndex := assembly.nextIndex + 1 }

end CompanionChunkAssembly

namespace StreamClient

variable (c : StreamClient)

/-- `companionFrameMatchesAttachment`. -/
def companionFrameMatchesAttachment (attachmentEpoch : Option ℕ)
    (attachment : Option CompanionAttachment) : Bool :=
  match attachmentEpoch with
  | none => !c.companionAttachmentEpoch
  | some e =>
    match attachment with
    | none => false
    | some attachment => e ≤ maxSafeInteger && e = attachment.generation

/-- Code and message for chunks that do not belong where they came. -/
def invalidChunks : String × String :=
  ("invalid_companion_chunks", "The remote visual companion was incomplete.")

/-- Code and message for a chunk there is no room for. -/
def decodeCapacity : String × String :=
  ("companion_decode_capacity", "The remote visual companion exceeded local decode capacity.")

/-- `handlers.onError`. -/
def onError (taskId : String) (attachment : CompanionAttachment)
    (error : String × String) : StreamClient :=
  { c with calls := ⟨taskId, attachment.generation, .onError error.1 error.2⟩ :: c.calls }

/-- `releaseDecodeBytes`. -/
def releaseDecodeBytes (bytes : ℕ) : StreamClient :=
  { c with decodeIngressBytes := c.decodeIngressBytes - bytes }

/-- `dropCompanionChunkAssembly`. -/
def dropCompanionChunkAssembly (taskId : String) : StreamClient :=
  match c.companionChunkAssemblies taskId with
  | none => c
  | some assembly =>
    { c with
      companionChunkAssemblies := Function.update c.companionChunkAssemblies taskId none
      decodeIngressBytes := c.decodeIngressBytes - assembly.retainedBytes }

/-- The case `companion_snapshot` of `handleFrame`; `assembled` is the text an assembled
snapshot was parsed from. -/
def handleSnapshot (taskId : String) (attachmentEpoch : Option ℕ)
    (assembled : Option (List Char)) : StreamClient :=
  if c.companionFrameMatchesAttachment attachmentEpoch (c.attachments taskId) then
    match c.attachments taskId with
    | none => c.dropCompanionChunkAssembly taskId
    | some attachment =>
      { c.dropCompanionChunkAssembly taskId with
        calls := ⟨taskId, attachment.generation, .onSnapshot assembled⟩ :: c.calls }
  else c

/-- The assembly is given up with an error. -/
def failAssembly (taskId : String) (attachment : CompanionAttachment)
    (error : String × String) : StreamClient :=
  (c.dropCompanionChunkAssembly taskId).onError taskId attachment error

/-- What the handlers are told when the decode budget is used up. -/
def decodeCapacityError : HandlerEvent := .onError decodeCapacity.1 decodeCapacity.2

/-- The assembly of the task's next chunks, empty. -/
def beginAssembly (attachment : CompanionAttachment) (frame : ChunkFrame) : StreamClient :=
  { c.dropCompanionChunkAssembly frame.taskId with
    companionChunkAssemblies :=
      Function.update c.companionChunkAssemblies frame.taskId
        (some
          { transferId := frame.transferId
            nextIndex := 0
            count := frame.count
            retainedCharacters := 0
            retainedBytes := 0
            chunks := []
            attachmentGeneration := attachment.generation
            attachmentEpoch := frame.attachmentEpoch }) }

/-- The text of a complete assembly is parsed, or put into the companion lane for the
worker. -/
def completeAssembly (d : FrameDecoder) (c : StreamClient) (taskId : String)
    (attachment : CompanionAttachment) (assembly : CompanionChunkAssembly) : StreamClient :=
  let c : StreamClient :=
    { c with
      companionChunkAssemblies := Function.update c.companionChunkAssemblies taskId none
      joined := ⟨taskId, assembly.attachmentGeneration, assembly.chunks.flatten⟩ :: c.joined }
  if d.decodeChunks then
    { c with
      decodeIngress := c.decodeIngress ++
        [{ chunks := assembly.chunks
           retainedBytes := assembly.retainedBytes
           companionChunkTaskId := taskId
           companionAttachmentGeneration := assembly.attachmentGeneration
           companionChunkAttachmentEpoch := assembly.attachmentEpoch }] }
  else
    match d.parse assembly.chunks.flatten with
    | some frame =>
      if frame.isSnapshotOf taskId assembly.attachmentEpoch then
        (c.handleSnapshot taskId assembly.attachmentEpoch
          (some assembly.chunks.flatten)).releaseDecodeBytes assembly.retainedBytes
      else (c.onError taskId attachment invalidChunks).releaseDecodeBytes assembly.retainedBytes
    | none => (c.onError taskId attachment invalidChunks).releaseDecodeBytes assembly.retainedBytes

/-- A valid chunk is added to the task's assembly. -/
def appendChunk (d : FrameDecoder) (c : StreamClient) (attachment : CompanionAttachment)
    (frame : ChunkFrame) : StreamClient :=
  match c.companionChunkAssemblies frame.taskId with
  | none => c.failAssembly frame.taskId attachment invalidChunks
  | some assembly =>
    if assembly.continues attachment frame then
      if c.decodeIngressBytes + utf16Length frame.data * 2 ≤ maxPendingDecodeBytes then
        let c : StreamClient :=
          { c with decodeIngressBytes := c.decodeIngressBytes + utf16Length frame.data * 2 }
        if (assembly.push frame.data).nextIndex = assembly.count then
          c.completeAssembly d frame.taskId attachment (assembly.push frame.data)
        else
          { c with
            companionChunkAssemblies :=
              Function.update c.companionChunkAssemblies frame.taskId
                (some (assembly.push frame.data)) }
      else c.failAssembly frame.taskId attachment decodeCapacity
    else c.failAssembly frame.taskId attachment invalidChunks

/-- `acceptCompanionSnapshotChunk`. -/
def acceptCompanionSnapshotChunk (d : FrameDecoder) (c : StreamClient) (frame : ChunkFrame) :
    StreamClient :=
  if c.companionFrameMatchesAttachment frame.attachmentEpoch (c.attachments frame.taskId) then
    match c.attachments frame.taskId with
    | none => c.dropCompanionChunkAssembly frame.taskId
    | some attachment =>
      if frame.valid then
        if frame.index = 0 then (c.beginAssembly attachment frame).appendChunk d attachment frame
        else c.appendChunk d attachment frame
      else c.failAssembly frame.taskId attachment invalidChunks
  else c

/-- `handleFrame`, for the frames of a companion. -/
def handleFrame (d : FrameDecoder) (c : StreamClient) : CompanionFrame → StreamClient
  | .companionSnapshot taskId _ _ _ _ _ _ attachmentEpoch =>
    c.handleSnapshot taskId attachmentEpoch none
  | .companionSnapshotChunk taskId transferId index count data attachmentEpoch =>
    c.acceptCompanionSnapshotChunk d ⟨taskId, transferId, index, count, data, attachmentEpoch⟩
  | _ => c

/-- `pumpDecodeIngress` takes the next assembled text, and the worker has parsed it. -/
def pumpDecodeIngress (d : FrameDecoder) (c : StreamClient) (ingress : DecodeIngress)
    (rest : List DecodeIngress) : StreamClient :=
  let c := { c with decodeIngress := rest }.releaseDecodeBytes ingress.retainedBytes
  match d.parse ingress.chunks.flatten, c.attachments ingress.companionChunkTaskId with
  | some frame, some attachment =>
    if attachment.generation = ingress.companionAttachmentGeneration then
      if frame.isSnapshotOf ingress.companionChunkTaskId ingress.companionChunkAttachmentEpoch then
        c.handleSnapshot ingress.companionChunkTaskId ingress.companionChunkAttachmentEpoch
          (some ingress.chunks.flatten)
      else c.onError ingress.companionChunkTaskId attachment invalidChunks
    else c
  | _, _ => c

/-- The worker failed on the next assembled text. -/
def decodeFailed (ingress : DecodeIngress) (rest : List DecodeIngress) : StreamClient :=
  let c := { c with decodeIngress := rest }.releaseDecodeBytes ingress.retainedBytes
  match c.attachments ingress.companionChunkTaskId with
  | some attachment => c.onError ingress.companionChunkTaskId attachment decodeCapacity
  | none => c

end StreamClient

/-! ### What the client's functions leave alone -/

open Function

namespace StreamClient

variable {c c' c'' : StreamClient} {d : FrameDecoder} {taskId : String}

@[simp] theorem drop_attachments : (c.dropCompanionChunkAssembly taskId).attachments =
    c.attachments := by
  rw [dropCompanionChunkAssembly]
  split <;> rfl

@[simp] theorem drop_calls : (c.dropCompanionChunkAssembly taskId).calls = c.calls := by
  rw [dropCompanionChunkAssembly]
  split <;> rfl

@[simp] theorem drop_joined : (c.dropCompanionChunkAssembly taskId).joined = c.joined := by
  rw [dropCompanionChunkAssembly]
  split <;> rfl

@[simp] theorem drop_decodeIngress :
    (c.dropCompanionChunkAssembly taskId).decodeIngress = c.decodeIngress := by
  rw [dropCompanionChunkAssembly]
  split <;> rfl

@[simp] theorem drop_assemblies : (c.dropCompanionChunkAssembly taskId).companionChunkAssemblies =
    update c.companionChunkAssemblies taskId none := by
  rw [dropCompanionChunkAssembly]
  split
  next hnone => exact (update_eq_self_iff.mpr hnone.symm).symm
  next => rfl

@[simp] theorem drop_attachmentEpoch :
    (c.dropCompanionChunkAssembly taskId).companionAttachmentEpoch =
      c.companionAttachmentEpoch := by
  rw [dropCompanionChunkAssembly]
  split <;> rfl

theorem matches_eq (h : c'.companionAttachmentEpoch = c.companionAttachmentEpoch)
    (attachmentEpoch : Option ℕ) (attachment : Option CompanionAttachment) :
    c'.companionFrameMatchesAttachment attachmentEpoch attachment =
      c.companionFrameMatchesAttachment attachmentEpoch attachment := by
  cases attachmentEpoch with
  | none => simp only [companionFrameMatchesAttachment, h]
  | some e => rfl

/-- `c'` comes from `c` by handling something of one task: the attachments and the other
tasks' assemblies are as they were, and what has been told is not untold. -/
structure Follows (taskId : String) (c c' : StreamClient) : Prop where
  attachments : c'.attachments = c.attachments
  generation : c'.companionAttachmentGeneration = c.companionAttachmentGeneration
  attachmentEpoch : c'.companionAttachmentEpoch = c.companionAttachmentEpoch
  /-- the assemblies of other tasks are as before -/
  others : ∀ task, task ≠ taskId →
    c'.companionChunkAssemblies task = c.companionChunkAssemblies task
  calls : c.calls ⊆ c'.calls
  joined : c.joined ⊆ c'.joined

open List

theorem Follows.trans (h : Follows taskId c c') (h' : Follows taskId c' c'') :
    Follows taskId c c'' where
  attachments := h'.attachments.trans h.attachments
  generation := h'.generation.trans h.generation
  attachmentEpoch := h'.attachmentEpoch.trans h.attachmentEpoch
  others task htask := (h'.others task htask).trans (h.others task htask)
  calls := List.Subset.trans h.calls h'.calls
  joined := List.Subset.trans h.joined h'.joined

/-! ### Assembled snapshots come from assemblies -/

/-- Every assembled snapshot the handlers were given, and every text that waits for the
worker, was joined for that attachment. -/
structure Sound (c : StreamClient) : Prop where
  /-- what a handler got was joined -/
  calls : ∀ {taskId : String} {generation : ℕ} {text : List Char},
    ⟨taskId, generation, .onSnapshot (some text)⟩ ∈ c.calls → ⟨taskId, generation, text⟩ ∈ c.joined
  /-- what waits was joined -/
  ingress : ∀ ingress ∈ c.decodeIngress, ⟨ingress.companionChunkTaskId,
    ingress.companionAttachmentGeneration, ingress.chunks.flatten⟩ ∈ c.joined

/-- `c'` comes from `c` by handling something of one task, and is sound. -/
structure Handled (taskId : String) (c c' : StreamClient) : Prop extends Follows taskId c c' where
  sound : c'.Sound

theorem Handled.trans (h : Handled taskId c c') (h' : Handled taskId c' c'') :
    Handled taskId c c'' :=
  ⟨h.toFollows.trans h'.toFollows, h'.sound⟩

theorem Handled.release (h : Handled taskId c c') (bytes : ℕ) :
    Handled taskId c (c'.releaseDecodeBytes bytes) :=
  h.trans ⟨⟨rfl, rfl, rfl, fun _ _ => rfl, .refl _, .refl _⟩, h.sound.calls, h.sound.ingress⟩

namespace Sound

variable (h : c.Sound)

include h

theorem refl : Handled taskId c c :=
  ⟨⟨rfl, rfl, rfl, fun _ _ => rfl, .refl _, .refl _⟩, h⟩

/-- Changing the assembly and the decode lane, and joining a text. -/
theorem update {assembly : Option CompanionChunkAssembly} {ingress : List DecodeIngress}
    {bytes : ℕ} {joined : List Joined} (hjoined : c.joined ⊆ joined)
    (hingress : ∀ item ∈ ingress, item ∈ c.decodeIngress ∨ ⟨item.companionChunkTaskId,
      item.companionAttachmentGeneration, item.chunks.flatten⟩ ∈ joined) :
    Handled taskId c { c with
        companionChunkAssemblies := Function.update c.companionChunkAssemblies taskId assembly
        decodeIngress := ingress
        decodeIngressBytes := bytes
        joined := joined } :=
  ⟨⟨rfl, rfl, rfl, fun _ htask => update_of_ne htask _ _, .refl _, hjoined⟩,
    fun hcall => hjoined (h.calls hcall),
    fun item hmem => (hingress item hmem).elim (fun hold => hjoined (h.ingress item hold)) id⟩

/-- Taking texts out of the lane and changing the budget. -/
theorem setIngress {ingress : List DecodeIngress} {bytes : ℕ}
    (hingress : ingress ⊆ c.decodeIngress) :
    Handled taskId c { c with decodeIngress := ingress, decodeIngressBytes := bytes } :=
  ⟨⟨rfl, rfl, rfl, fun _ _ => rfl, .refl _, .refl _⟩, h.calls,
    fun item hmem => h.ingress item (hingress hmem)⟩

theorem drop : Handled taskId c (c.dropCompanionChunkAssembly taskId) := by
  rw [dropCompanionChunkAssembly]
  split
  next => exact h.refl
  next => exact h.update (.refl _) fun _ => .inl

/-- A snapshot that a handler is given was joined for its attachment. -/
theorem tell {generation : ℕ} {event : HandlerEvent}
    (hevent : ∀ text, event = .onSnapshot (some text) → ⟨taskId, generation, text⟩ ∈ c.joined) :
    Handled taskId c { c with calls := ⟨taskId, generation, event⟩ :: c.calls } := by
  refine ⟨⟨rfl, rfl, rfl, fun _ _ => rfl, subset_cons_self _ _, .refl _⟩,
    fun hcall => ?_, h.ingress⟩
  obtain hnew | hold := mem_cons.mp hcall
  · cases hnew
    exact hevent _ rfl
  · exact h.calls hold

theorem onError (attachment : CompanionAttachment) (error : String × String) :
    Handled taskId c (c.onError taskId attachment error) :=
  h.tell (by rintro _ ⟨⟩)

theorem fail (attachment : CompanionAttachment) (error : String × String) :
    Handled taskId c (c.failAssembly taskId attachment error) :=
  h.drop.trans (h.drop.sound.onError attachment error)

theorem handleSnapshot (attachmentEpoch : Option ℕ) {assembled : Option (List Char)}
    (hassembled : ∀ {text : List Char} {attachment : CompanionAttachment}, assembled = some text →
      c.attachments taskId = some attachment →
      ⟨taskId, attachment.generation, text⟩ ∈ c.joined) :
    Handled taskId c (c.handleSnapshot taskId attachmentEpoch assembled) := by
  rw [StreamClient.handleSnapshot]
  split
  · split
    next => exact h.drop
    next attachment hattachment =>
      rw [← drop_calls]
      refine h.drop.trans (h.drop.sound.tell fun text htext => ?_)
      rw [drop_joined]
      exact hassembled (HandlerEvent.onSnapshot.inj htext) hattachment
  · exact h.refl

variable {attachment : CompanionAttachment}

theorem completeAssembly {assembly : CompanionChunkAssembly}
    (hattachment : c.attachments taskId = some attachment)
    (hgeneration : assembly.attachmentGeneration = attachment.generation) :
    Handled taskId c (c.completeAssembly d taskId attachment assembly) := by
  have hjoined := @update c taskId h none c.decodeIngress c.decodeIngressBytes
    (⟨taskId, assembly.attachmentGeneration, assembly.chunks.flatten⟩ :: c.joined)
    (subset_cons_self _ _) fun _ => .inl
  rw [StreamClient.completeAssembly]
  split
  · refine h.update (subset_cons_self _ _) fun item hmem => ?_
    obtain hold | hnew := mem_append.mp hmem
    · exact .inl hold
    · cases mem_singleton.mp hnew
      exact .inr mem_cons_self
  · split
    · split
      · refine (hjoined.trans (hjoined.sound.handleSnapshot _ ?_)).release _
        rintro _ _ ⟨⟩ hcurrent
        cases hattachment.symm.trans hcurrent
        rw [← hgeneration]
        exact mem_cons_self
      · exact (hjoined.trans (hjoined.sound.onError _ _)).release _
    · exact (hjoined.trans (hjoined.sound.onError _ _)).release _

theorem appendChunk {frame : ChunkFrame}
    (hattachment : c.attachments frame.taskId = some attachment) :
    Handled frame.taskId c (c.appendChunk d attachment frame) := by
  rw [StreamClient.appendChunk]
  split
  next => exact h.fail _ _
  next assembly _ =>
    split
    next hcontinues =>
      have hgeneration : assembly.attachmentGeneration = attachment.generation := by
        simp only [CompanionChunkAssembly.continues, Bool.and_eq_true, decide_eq_true_eq]
          at hcontinues
        exact hcontinues.1.2
      split
      · split
        · have hbytes := @setIngress c frame.taskId h c.decodeIngress
            (c.decodeIngressBytes + utf16Length frame.data * 2) (.refl _)
          exact hbytes.trans (hbytes.sound.completeAssembly hattachment hgeneration)
        · exact h.update (.refl _) fun _ => .inl
      · exact h.fail _ _
    next => exact h.fail _ _

theorem beginAssembly (attachment : CompanionAttachment) (frame : ChunkFrame) :
    Handled frame.taskId c (c.beginAssembly attachment frame) := by
  rw [StreamClient.beginAssembly, dropCompanionChunkAssembly]
  split <;> exact h.update (.refl _) fun _ => .inl

/-- A chunk changes nothing of another task. -/
theorem accept (frame : ChunkFrame) :
    Handled frame.taskId c (c.acceptCompanionSnapshotChunk d frame) := by
  rw [acceptCompanionSnapshotChunk]
  split
  · split
    next => exact h.drop
    next attachment hattachment =>
      split_ifs
      · have hbegin := h.beginAssembly attachment frame
        rw [← hbegin.attachments] at hattachment
        exact hbegin.trans (hbegin.sound.appendChunk hattachment)
      · exact h.appendChunk hattachment
      · exact h.fail _ _
  · exact h.refl

variable {ingress : DecodeIngress} {rest : List DecodeIngress}
  (hlane : c.decodeIngress = ingress :: rest)

include hlane

theorem takeIngress : Handled ingress.companionChunkTaskId c
    ({ c with decodeIngress := rest }.releaseDecodeBytes ingress.retainedBytes) :=
  h.setIngress (by rw [hlane]; exact subset_cons_self _ _)

theorem pump :
    Handled ingress.companionChunkTaskId c (c.pumpDecodeIngress d ingress rest) := by
  have hingress := h.ingress ingress (by rw [hlane]; exact mem_cons_self)
  have hrest := h.takeIngress hlane
  rw [pumpDecodeIngress]
  split
  next attachment _ hattachment =>
    split_ifs with hcurrent
    · refine hrest.trans (hrest.sound.handleSnapshot _ fun htext hattachment' => ?_)
      cases htext
      cases hattachment.symm.trans hattachment'
      rw [hcurrent]
      exact hingress
    · exact hrest.trans (hrest.sound.onError _ _)
    · exact hrest
  next => exact hrest

theorem decodeFailed :
    Handled ingress.companionChunkTaskId c (c.decodeFailed ingress rest) := by
  have hrest := h.takeIngress hlane
  rw [StreamClient.decodeFailed]
  split
  · exact hrest.trans (hrest.sound.onError _ _)
  · exact hrest

end Sound

end StreamClient

end Kanna
