import Kanna.Client.CompanionOrder

/-!
# The client never splices two transfers

A chunk that is for the current attachment and is not a first one continues the transfer
whose chunks are in the assembly, whatever its transfer id and its count are
(`TaskValid.holds_of_continues`): the chunk before it has come in, and it was for the
attachment as well.

`companion_snapshots_reassembled` is the result for whole runs. An assembled snapshot that is
handed to an attachment is the text of one transfer for that attachment, all of whose chunks
stand in its log one after the other; and such a transfer is joined unless the attachment
is told that the decode budget is used up.
-/

namespace Kanna

variable {serialize : CompanionFrame → Option (List Char)}

namespace CompanionLink

variable {s : CompanionLink serialize} {d : FrameDecoder} {task taskId : String}
  {transfer : CompanionTransfer serialize} {place : ℕ}

/-- The client has handled something of one task. -/
def handled (s : CompanionLink serialize) (client : StreamClient)
    (wire : String → List (WireItem serialize))
    (last : String → Option (CompanionTransfer serialize × ℕ))
    (log : String → ℕ → List (AttachmentEvent serialize)) : CompanionLink serialize :=
  { s with client, wire, last, log }

/-- What handling a frame of the task, or an assembled text, does outside the assembly. -/
structure Handles (s : CompanionLink serialize) (taskId : String) (client : StreamClient)
    (wire : String → List (WireItem serialize))
    (last : String → Option (CompanionTransfer serialize × ℕ)) : Prop where
  follows : StreamClient.Follows taskId s.client client
  sound : client.Sound
  sends : s.Sending taskId (s.active taskId) (wire taskId) (last taskId)
  wire_others : ∀ task, task ≠ taskId → wire task = s.wire task
  last_others : ∀ task, task ≠ taskId → last task = s.last task

section Client

variable {client : StreamClient} {wire : String → List (WireItem serialize)}
  {last : String → Option (CompanionTransfer serialize × ℕ)}
  {log : String → ℕ → List (AttachmentEvent serialize)}

theorem Handles.sameTask (hh : s.Handles taskId client wire last) (hne : task ≠ taskId)
    (hlog : log task = s.log task) : SameTask task s (s.handled client wire last log) where
  client := keeps_of_follows hh.follows task
  assemblies := hh.follows.others task hne
  authed := rfl
  requested := rfl
  active := rfl
  wire := hh.wire_others task hne
  last := hh.last_others task hne
  log := hlog

/-- Handling an event of the task's attachment, if it has one. -/
theorem Handles.valid_record (h : s.Valid d) (hh : s.Handles taskId client wire last)
    (event : AttachmentEvent serialize)
    (htask : (s.handled client wire last (s.record taskId event)).TaskValid taskId)
    (hjoined : ∀ joined ∈ client.joined, joined ∈ s.client.joined ∨
      (s.handled client wire last (s.record taskId event)).JoinedValid d joined) :
    (s.handled client wire last (s.record taskId event)).Valid d :=
  h.of_task (fun _ => record_suffix taskId event) hh.follows hh.sound htask
    (fun _ hne => hh.sameTask hne (record_of_ne event hne)) hjoined

/-- What is left to show of the task: what the log and the assembly hold. -/
theorem Handles.taskValid (h : s.TaskValid task) (hh : s.Handles task client wire last)
    (hrecorded : Recorded client task (log task))
    (hassembled : Assembled client task (last task) (log task))
    (hidle : s.authed = false → client.companionChunkAssemblies task = none) :
    (s.handled client wire last log).TaskValid task where
  toRecorded := hrecorded
  toAssembled := hassembled
  toSends := by
    rw [handled, hh.follows.attachmentEpoch]
    exact hh.sends
  unassembled := hidle
  legacy hlegacy := by
    rw [handled, hh.follows.attachments]
    exact h.legacy (hh.follows.attachmentEpoch ▸ hlegacy)

theorem record_none (event : AttachmentEvent serialize)
    (hnone : s.client.attachments taskId = none) : s.record taskId event = s.log := by
  rw [record, hnone]

/-- The assembly is dropped, and the log says so. -/
theorem Handles.valid_reset (h : s.Valid d) (hh : s.Handles taskId client wire last)
    (hdropped : StreamClient.Dropped taskId s.client client) :
    (s.handled client wire last (s.record taskId .reset)).Valid d := by
  refine hh.valid_record h .reset ?_ fun _ hmem => .inl (hdropped.joined ▸ hmem)
  have hattachments := congrFun hh.follows.attachments taskId
  exact hh.taskValid (h.task taskId)
    (((h.task taskId).toRecorded.mono (keeps_of_follows hh.follows taskId)).reset hattachments)
    (assembled_reset hattachments hdropped.assembly) fun _ => hdropped.assembly

/-- Neither the assembly nor the log changes. If a chunk came in, it was for another
attachment. -/
theorem Handles.valid_keep (h : s.Valid d) (hh : s.Handles taskId client wire last)
    (hassembly : client.companionChunkAssemblies taskId =
      s.client.companionChunkAssemblies taskId) (hjoined : client.joined = s.client.joined)
    (hlast : ∀ attachment, s.client.attachments taskId = some attachment →
      last taskId = s.last taskId ∨ ∃ transfer place, last taskId = some (transfer, place) ∧
        s.client.companionFrameMatchesAttachment transfer.start.attachmentEpoch
          (some attachment) = false) : (s.handled client wire last s.log).Valid d := by
  refine h.of_task (logGrows_of_eq rfl) hh.follows hh.sound ?_ (fun _ hne => hh.sameTask hne rfl)
    fun _ hmem => .inl (hjoined ▸ hmem)
  have hkeeps := keeps_of_follows hh.follows taskId
  exact hh.taskValid (h.task taskId) ((h.task taskId).toRecorded.mono hkeeps)
    ((h.task taskId).toAssembled.mono hkeeps hassembly hlast)
    fun hauthed => hassembly.trans ((h.task taskId).unassembled hauthed)

end Client

/-! ### Whole snapshots and the worker -/

variable {rest : List (WireItem serialize)}

variable (h : s.Valid d)

include h

open Function

variable {client : StreamClient}

/-- The client takes the task's next frame off the wire; `last` is `some` for a chunk. -/
theorem Valid.handles_head {item : WireItem serialize}
    (last : Option (CompanionTransfer serialize × ℕ))
    (hclient : StreamClient.Handled taskId s.client client) (hwire : s.wire taskId = item :: rest)
    (hfeeds : ∀ sent, Feeds (s.last taskId) (item :: rest) sent → Feeds last rest sent) :
    s.Handles taskId client (update s.wire taskId rest) (update s.last taskId last) := by
  have hsends := (h.task taskId).toSends
  rw [hwire] at hsends
  obtain ⟨sent, hsent, hcontinues⟩ := hsends.feeds
  refine ⟨hclient.toFollows, hclient.sound, ?_, fun _ hne => update_of_ne hne _ _,
    fun _ hne => update_of_ne hne _ _⟩
  rw [update_self, update_self]
  exact ⟨fun hauthed => (nomatch (hsends.idle hauthed).2.1), fun transfer place frame hmem =>
    hsends.wire transfer place frame (List.mem_cons_of_mem _ hmem), hsends.active, sent,
    hfeeds sent hsent, hcontinues⟩

open StreamClient CompanionTransfer

theorem Valid.receiveSnapshot {attachmentEpoch : Option ℕ}
    (hwire : s.wire taskId = .snapshot attachmentEpoch :: rest) :
    (s.receiveSnapshot taskId attachmentEpoch rest).Valid d := by
  have hh := h.handles_head (s.last taskId) (@Sound.handleSnapshot _ _ h.sound
    attachmentEpoch none (by rintro _ _ ⟨⟩)) hwire fun _ hsent => hsent
  rw [update_eq_self] at hh
  rw [CompanionLink.receiveSnapshot]
  split
  next hmatches =>
    exact hh.valid_reset h ⟨handleSnapshot_assemblies (.inl hmatches), handleSnapshot_joined⟩
  next hother =>
    refine hh.valid_keep h ?_ handleSnapshot_joined fun _ _ => .inl rfl
    rw [handleSnapshot, if_neg hother]

/-- Only the client has changed. -/
theorem Valid.handles_client (hclient : StreamClient.Handled taskId s.client client) :
    s.Handles taskId client s.wire s.last where
  follows := hclient.toFollows
  sound := hclient.sound
  sends := (h.task taskId).toSends
  wire_others _ _ := rfl
  last_others _ _ := rfl

theorem Valid.setDecodeBytes (bytes : ℕ) :
    Valid d { s with client := { s.client with decodeIngressBytes := bytes } } := by
  exact (h.handles_client (@Sound.setIngress _ "" h.sound _ bytes (.refl _))).valid_keep h rfl rfl
    fun _ _ => .inl rfl

variable {ingress : DecodeIngress}

theorem Valid.decodeFailed {rest : List DecodeIngress}
    (hlane : s.client.decodeIngress = ingress :: rest) :
    Valid d { s with client := s.client.decodeFailed ingress rest } := by
  refine (h.handles_client (h.sound.decodeFailed hlane)).valid_keep h ?_ ?_ fun _ _ => .inl rfl
  all_goals
    rw [StreamClient.decodeFailed]
    split <;> rfl

omit h

/-- A decoded snapshot ends the assembly of its task, or nothing happens to it. -/
theorem pump_assemblies {c : StreamClient} (ingress : DecodeIngress) (rest : List DecodeIngress) :
    Dropped ingress.companionChunkTaskId c (c.pumpDecodeIngress d ingress rest) ∨
      (c.pumpDecodeIngress d ingress rest).companionChunkAssemblies ingress.companionChunkTaskId =
        c.companionChunkAssemblies ingress.companionChunkTaskId ∧
      (c.pumpDecodeIngress d ingress rest).joined = c.joined := by
  rw [pumpDecodeIngress]
  split
  · split_ifs
    · rw [handleSnapshot]
      split
      · split <;> exact .inl ⟨Dropped.of_drop.assembly, Dropped.of_drop.joined⟩
      · exact .inr ⟨rfl, rfl⟩
    · exact .inr ⟨rfl, rfl⟩
    · exact .inr ⟨rfl, rfl⟩
  · exact .inr ⟨rfl, rfl⟩

theorem Valid.decode (h : s.Valid d) {rest : List DecodeIngress}
    (hlane : s.client.decodeIngress = ingress :: rest) : Valid d { s with
      client := s.client.pumpDecodeIngress d ingress rest
      log :=
        if ((s.client.pumpDecodeIngress d ingress rest).companionChunkAssemblies
            ingress.companionChunkTaskId).isNone then
          s.record ingress.companionChunkTaskId .reset
        else s.log } := by
  have hh := h.handles_client (h.sound.pump (d := d) hlane)
  have hpump := pump_assemblies (d := d) (c := s.client) ingress rest
  split
  next hnone =>
    exact hh.valid_reset h ⟨Option.isNone_iff_eq_none.mp hnone,
      hpump.elim Dropped.joined And.right⟩
  next hsome =>
    rw [Option.isNone_iff_eq_none] at hsome
    obtain ⟨hsame, hjoined⟩ := hpump.resolve_left fun hdropped => hsome hdropped.assembly
    exact hh.valid_keep h hsame hjoined fun _ _ => .inl rfl

/-! ### Chunks -/

variable {frame : CompanionFrame}

variable {attachment : CompanionAttachment}

section Matching

variable (ht : s.TaskValid task) (hattachment : s.client.attachments task = some attachment)
  (hmatches : s.client.companionFrameMatchesAttachment transfer.start.attachmentEpoch
    (some attachment) = true)

include ht hattachment hmatches

/-- A transfer whose epoch matches the current attachment is for that attachment. -/
theorem TaskValid.owner_eq
    (hfor : For task s.client.companionAttachmentEpoch (s.requested task) transfer) :
    transfer.owner = attachment.generation := by
  rw [hfor.epoch] at hmatches
  cases hepoch : s.client.companionAttachmentEpoch with
  | true =>
    rw [if_pos hepoch] at hmatches
    simp only [companionFrameMatchesAttachment, Bool.and_eq_true,
      decide_eq_true_eq] at hmatches
    exact hmatches.2
  | false =>
    -- without epochs there was one request on this socket
    have howner := hfor.owner
    obtain hnil | ⟨generation, hone, hgeneration⟩ := ht.legacy hepoch
    · rw [hnil] at howner
      cases howner
    · rw [hone] at howner
      rw [List.mem_singleton.mp howner, hgeneration attachment hattachment]

/-- **No splicing**: a chunk for the current attachment that is not a first one finds the
chunks before it in the assembly, if there is an assembly at all. -/
theorem TaskValid.holds_of_continues {assembly : CompanionChunkAssembly}
    (hlast : s.last task = some (transfer, place))
    (hassembly : s.client.companionChunkAssemblies task = some assembly) :
    assembly = transfer.assembly attachment.generation (place + 1) ∧
      transfer.received (place + 1) <+: s.log task attachment.generation := by
  obtain ⟨current, held, before, hcurrent, heq, hreceived,
    hsame | ⟨later, place', hlater, hother⟩⟩ :=
    ht.assembly assembly hassembly
  all_goals cases hattachment.symm.trans hcurrent
  · cases hlast.symm.trans hsame
    exact ⟨heq, hreceived⟩
  · cases hlast.symm.trans hlater
    cases hmatches.symm.trans hother

/-- A chunk for the current attachment is taken after the chunks before it, or it ends the
assembly. The latter happens to a transfer of at most 512 chunks only if the attachment was
told about the decode budget. -/
theorem TaskValid.chunk_outcome {index : ℕ} {data : List Char}
    (htaskId : transfer.start.taskId = task)
    (hframe : transfer.frame place = some (transfer.start.chunkOf index data))
    (hcontinues : Continues (s.last task) transfer place) :
    (transfer.start.count ≤ maxCompanionChunkCount ∧
      transfer.received place <+: s.log task attachment.generation ∧
      transfer.Took d attachment.generation place s.client.joined
        (s.client.acceptCompanionSnapshotChunk d (transfer.chunkFrame index data))) ∨
    Dropped task s.client
        (s.client.acceptCompanionSnapshotChunk d (transfer.chunkFrame index data)) ∧
      (transfer.start.count ≤ maxCompanionChunkCount →
        transfer.received place <+: s.log task attachment.generation →
        s.ToldCapacity task attachment.generation) := by
  subst htaskId
  by_cases hcount : transfer.start.count ≤ maxCompanionChunkCount
  · have hfits := fits hcount
    -- the chunk at this place carries its number and its text
    rw [hfits.frame_eq] at hframe
    obtain ⟨text, hdata, hchunk⟩ := Option.map_eq_some_iff.mp hframe
    obtain ⟨rfl, rfl⟩ : place = index ∧ text = data := by
      cases hchunk
      exact ⟨rfl, rfl⟩
    obtain rfl | ⟨before, rfl, hlast⟩ := hcontinues
    · exact .inl ⟨hcount, List.nil_prefix, hfits.accept_chunk hdata hattachment hmatches (.inl rfl)⟩
    · cases hassembly : s.client.companionChunkAssemblies transfer.start.taskId with
      | some assembly =>
        obtain ⟨rfl, hreceived⟩ := ht.holds_of_continues hattachment hmatches hlast hassembly
        exact .inl ⟨hcount, hreceived,
          hfits.accept_chunk hdata hattachment hmatches (.inr hassembly)⟩
      | none =>
        refine .inr ⟨accept_rejected d (transfer.chunkFrame (before + 1) text) hattachment hmatches
          (.inr ⟨Nat.succ_ne_zero before, hassembly⟩), fun _ hreceived => ?_⟩
        obtain htold | hsome := ht.progress attachment transfer before hattachment hreceived
          (hfits.place_lt hdata) hcount
        · exact htold
        · cases hassembly.symm.trans hsome
  · have hinvalid : (transfer.chunkFrame index data).valid = false := by
      rw [← Bool.not_eq_true]
      intro hvalid
      simp only [ChunkFrame.valid, Bool.and_eq_true, decide_eq_true_eq] at hvalid
      exact hcount hvalid.1.1.1.2
    exact .inr ⟨accept_rejected d (transfer.chunkFrame index data) hattachment hmatches
      (.inl hinvalid), fun hle => absurd hle hcount⟩

end Matching

theorem received_prefix_cons {other : CompanionTransfer serialize} {n : ℕ}
    {log : List (AttachmentEvent serialize)}
    (h : other.received (n + 1) <+: .chunk transfer place :: log) :
    other = transfer ∧ n = place ∧ transfer.received place <+: log := by
  rw [received, List.cons_prefix_cons] at h
  obtain ⟨heq, hrest⟩ := h
  cases heq
  exact ⟨rfl, rfl, hrest⟩

section Chunk

variable {client : StreamClient} {wire : String → List (WireItem serialize)}
  {last : String → Option (CompanionTransfer serialize × ℕ)}

variable (hattachment : s.client.attachments taskId = some attachment)
  (hlast : last taskId = some (transfer, place))

include hattachment hlast

/-- A chunk for the current attachment is on top of its log: what is left to show is what
follows if the chunks before it are there. -/
theorem Handles.taskValid_chunk (h : s.TaskValid taskId) (hh : s.Handles taskId client wire last)
    (hassembly : ∀ assembly, client.companionChunkAssemblies taskId = some assembly →
      assembly = transfer.assembly attachment.generation (place + 1) ∧
        transfer.received place <+: s.log taskId attachment.generation)
    (htaken : transfer.received place <+: s.log taskId attachment.generation →
      transfer.start.count ≤ maxCompanionChunkCount →
      ⟨taskId, attachment.generation, decodeCapacityError⟩ ∈ client.calls ∨
        (place + 1 < transfer.start.count → client.companionChunkAssemblies taskId =
          some (transfer.assembly attachment.generation (place + 1))) ∧
        (place + 1 = transfer.start.count →
          ⟨taskId, attachment.generation, transfer.start.serialized⟩ ∈ client.joined)) :
    (s.handled client wire last (s.record taskId (.chunk transfer place))).TaskValid taskId := by
  have hlog := record_self (.chunk transfer place) hattachment
  have hattachments := congrFun hh.follows.attachments taskId
  refine hh.taskValid h ((h.toRecorded.mono (keeps_of_follows hh.follows taskId)).record _
    hattachments ?_) ⟨?_, ?_⟩ ?_
  · intro current other hcurrent hpos hcount hprefix
    cases hattachment.symm.trans hcurrent
    obtain ⟨n, hn⟩ := Nat.exists_eq_succ_of_ne_zero (Nat.ne_of_gt hpos)
    rw [hn] at hprefix
    obtain ⟨rfl, rfl, hbefore⟩ := received_prefix_cons hprefix
    exact (htaken hbefore hcount).imp_right fun htaken => htaken.2 hn.symm
  · intro assembly hsome
    obtain ⟨heq, hbefore⟩ := hassembly assembly hsome
    refine ⟨attachment, transfer, place, hattachments.trans hattachment, heq, ?_, .inl hlast⟩
    rw [hlog]
    exact (List.prefix_cons_inj _).mpr hbefore
  · intro current other n hcurrent hreceived hmore hcount
    cases hattachment.symm.trans (hattachments.symm.trans hcurrent)
    rw [hlog] at hreceived
    obtain ⟨rfl, rfl, hbefore⟩ := received_prefix_cons hreceived
    exact (htaken hbefore hcount).imp_right fun htaken => htaken.1 hmore
  · intro hauthed
    cases (hh.sends.idle hauthed).2.2.2.symm.trans hlast

/-- The chunk is taken after the ones before it. -/
theorem Handles.valid_took (h : s.Valid d) (hh : s.Handles taskId client wire last)
    (htaskId : transfer.start.taskId = taskId) (howner : transfer.owner = attachment.generation)
    (hcount : transfer.start.count ≤ maxCompanionChunkCount)
    (hbefore : transfer.received place <+: s.log taskId attachment.generation)
    (htook : transfer.Took d attachment.generation place s.client.joined client) :
    (s.handled client wire last (s.record taskId (.chunk transfer place))).Valid d := by
  have hvalid := hh.taskValid_chunk hattachment hlast (h.task taskId)
  subst htaskId
  cases htook with
  | refused htold hdropped hjoined =>
    refine hh.valid_record h _ (hvalid ?_ fun _ _ => .inl htold)
      fun _ hmem => .inl (hjoined ▸ hmem)
    intro assembly hsome
    cases hdropped.symm.trans hsome
  | grew hmore hassembly hjoined =>
    refine hh.valid_record h _ (hvalid ?_ fun _ _ => .inr ⟨fun _ => hassembly,
      fun hall => absurd hall (Nat.ne_of_lt hmore)⟩) fun _ hmem => .inl (hjoined ▸ hmem)
    intro assembly hsome
    cases hassembly.symm.trans hsome
    exact ⟨rfl, hbefore⟩
  | completed hall hdropped hjoined htold =>
    refine hh.valid_record h _ (hvalid ?_ fun _ _ => .inr
      ⟨fun hmore => absurd hall (Nat.ne_of_lt hmore), fun _ => ?_⟩) ?_
    · intro assembly hsome
      cases hdropped.symm.trans hsome
    · rw [hjoined]
      exact List.mem_cons_self
    · intro joined hmem
      rw [hjoined] at hmem
      obtain rfl | hold := List.mem_cons.mp hmem
      · refine .inr ⟨⟨transfer, rfl, howner, rfl, hcount, ?_⟩, htold⟩
        change _ <:+: s.record _ _ _ attachment.generation
        rw [record_self _ hattachment, ← hall]
        exact ((List.prefix_cons_inj _).mpr hbefore).isInfix
      · exact .inl hold

end Chunk

/-- Without an attachment nothing is assembled. -/
theorem TaskValid.accept_unattached (h : s.TaskValid task) {frame : ChunkFrame}
    (htask : frame.taskId = task) (hnone : s.client.attachments task = none) :
    Dropped task s.client (s.client.acceptCompanionSnapshotChunk d frame) := by
  subst htask
  rw [acceptCompanionSnapshotChunk, hnone]
  split
  · exact .of_drop
  · refine ⟨?_, rfl⟩
    cases hassembly : s.client.companionChunkAssemblies frame.taskId with
    | none => rfl
    | some assembly =>
      obtain ⟨attachment, _, _, hattachment, _⟩ := h.assembly assembly hassembly
      cases hnone.symm.trans hattachment

/-- The client is given the next chunk of the task. -/
theorem Valid.receiveChunk (h : s.Valid d)
    (hwire : s.wire taskId = .chunk transfer place frame :: rest) :
    (s.receiveChunk d taskId transfer place frame rest).Valid d := by
  obtain ⟨hfor, hframe⟩ := (h.task taskId).wire transfer place frame
    (by rw [hwire]; exact List.mem_cons_self)
  obtain ⟨sent, hfeeds, -⟩ := (h.task taskId).feeds
  rw [hwire] at hfeeds
  obtain ⟨hcontinues, -⟩ := hfeeds
  obtain ⟨index, data, rfl⟩ := ActiveCompanionChunks.exists_chunkOf (List.mem_of_getElem? hframe)
  have htask : (transfer.chunkFrame index data).taskId = taskId := hfor.taskId
  have hh := h.handles_head (some (transfer, place))
    (htask ▸ h.sound.accept (d := d) (transfer.chunkFrame index data)) hwire
    fun _ hsent => hsent.2
  have hlast : update s.last taskId (some (transfer, place)) taskId =
      some (transfer, place) := update_self _ _ _
  rw [CompanionLink.receiveChunk]
  change Valid d (s.handled
    (s.client.acceptCompanionSnapshotChunk d (transfer.chunkFrame index data)) _ _ _)
  cases hattachment : s.client.attachments taskId with
  | none =>
    -- nobody is attached, so that nothing is assembled and the log stays as it is
    have hdropped := (h.task taskId).accept_unattached (d := d) htask hattachment
    rw [record_none _ hattachment, ite_self, ← record_none .reset hattachment]
    exact hh.valid_reset h hdropped
  | some attachment =>
    split
    next hmatches =>
      have howner := (h.task taskId).owner_eq hattachment hmatches hfor
      obtain ⟨hcount, hbefore, htook⟩ | ⟨hdropped, htold⟩ :=
        (h.task taskId).chunk_outcome hattachment hmatches hfor.taskId hframe hcontinues
      · exact hh.valid_took hattachment hlast h hfor.taskId howner hcount hbefore htook
      · refine hh.valid_record h _ (hh.taskValid_chunk hattachment hlast (h.task taskId)
          (fun assembly hsome => ?_) fun hbefore hcount =>
            .inl (hh.follows.calls (htold hcount hbefore)))
          fun _ hmem => .inl (hdropped.joined ▸ hmem)
        cases hdropped.assembly.symm.trans hsome
    next hmatches =>
      -- the chunk is for another attachment of the task
      have hignored : s.client.acceptCompanionSnapshotChunk d (transfer.chunkFrame index data) =
          s.client := by
        rw [acceptCompanionSnapshotChunk, htask, hattachment]
        exact if_neg hmatches
      refine hh.valid_keep h (by rw [hignored]) (by rw [hignored]) ?_
      intro current hcurrent
      cases hattachment.symm.trans hcurrent
      exact .inr ⟨transfer, place, hlast, (Bool.not_eq_true _).mp hmatches⟩

/-! ### Whole runs -/

/-- Every move keeps the invariant. -/
theorem Valid.step {s' : CompanionLink serialize} (h : s.Valid d) {move : LinkMove}
    (hstep : s.step d move = some s') : s'.Valid d := by
  cases move with
  | attach taskId sent =>
    cases hstep
    exact h.attach taskId sent
  | detach taskId =>
    cases hstep
    exact h.detach taskId
  | connect attachmentEpoch eventEpoch sent =>
    rw [CompanionLink.step, Option.ite_none_left_eq_some] at hstep
    cases hstep.2
    exact h.connect ((Bool.not_eq_true _).mp hstep.1) attachmentEpoch eventEpoch sent
  | disconnect =>
    cases hstep
    exact h.disconnect
  | start taskId owner delivery =>
    rw [CompanionLink.step] at hstep
    split at hstep
    next => cases hstep
    next =>
      rw [Option.ite_none_right_eq_some] at hstep
      obtain ⟨⟨howner, hepoch, htask⟩, hstep⟩ := hstep
      cases hstep
      exact h.start ⟨htask, howner, hepoch⟩
  | emit taskId =>
    rw [CompanionLink.step] at hstep
    split at hstep
    next => cases hstep
    next active hactive =>
      split at hstep
      next =>
        cases hstep
        exact h.abandon taskId
      next hnext =>
        cases hstep
        exact h.emitChunk hactive hnext
  | abandon taskId =>
    cases hstep
    exact h.abandon taskId
  | emitSnapshot taskId attachmentEpoch =>
    rw [CompanionLink.step, Option.ite_none_right_eq_some] at hstep
    cases hstep.2
    exact h.emitSnapshot hstep.1 taskId attachmentEpoch
  | receive taskId =>
    rw [CompanionLink.step] at hstep
    split at hstep
    next => cases hstep
    next hwire =>
      cases hstep
      exact h.receiveChunk hwire
    next hwire =>
      cases hstep
      exact h.receiveSnapshot hwire
  | decode =>
    rw [CompanionLink.step] at hstep
    split at hstep
    next => cases hstep
    next hlane =>
      cases hstep
      exact h.decode hlane
  | decodeFailed =>
    rw [CompanionLink.step] at hstep
    split at hstep
    next => cases hstep
    next hlane =>
      cases hstep
      exact h.decodeFailed hlane
  | setDecodeBytes bytes =>
    cases hstep
    exact h.setDecodeBytes bytes

theorem Valid.of_run {moves : List LinkMove}
    (hrun : run (CompanionLink.step d) fresh moves = some s) : s.Valid d :=
  (always_of_invariant (fun h hstep => h.step hstep) moves valid_fresh).last hrun

/-- **Chunked snapshots arrive whole.** A snapshot of at most 512 chunks is cut into chunks
that are not empty, are within the limit, carry their numbers and the count, and together
are its text.

However the streams of different tasks, abandoned transfers, re-attachments and lost
connections interleave, an assembled snapshot that is handed to an attachment is the text of
one transfer for that attachment, all of whose chunks the client was given one after the
other. A transfer whose chunks come in like this is joined, and without a worker handed over
if its text parses back, unless the attachment is told that there is no room. -/
theorem companion_snapshots_reassembled {moves : List LinkMove}
    (hrun : run (CompanionLink.step d) fresh moves = some s) :
    (∀ transfer : CompanionTransfer serialize, transfer.start.count ≤ maxCompanionChunkCount →
      (∀ data ∈ transfer.datas, data ≠ [] ∧ byteLen data ≤ companionSnapshotChunkDataBytes) ∧
      transfer.datas.length = transfer.start.count ∧
      (∀ place, transfer.frame place =
        (transfer.datas[place]?).map (transfer.start.chunkOf place)) ∧
      transfer.datas.flatten = transfer.start.serialized) ∧
    (∀ taskId generation text,
      ⟨taskId, generation, .onSnapshot (some text)⟩ ∈ s.client.calls →
      ∃ transfer : CompanionTransfer serialize, transfer.start.taskId = taskId ∧
        transfer.owner = generation ∧ transfer.start.serialized = text ∧
        transfer.received transfer.start.count <:+: s.log taskId generation) ∧
    ∀ taskId generation, ∀ transfer : CompanionTransfer serialize, 0 < transfer.start.count →
      transfer.start.count ≤ maxCompanionChunkCount →
      transfer.received transfer.start.count <:+: s.log taskId generation →
      s.ToldCapacity taskId generation ∨
        ⟨taskId, generation, transfer.start.serialized⟩ ∈ s.client.joined ∧
        (d.decodeChunks = false → d.RoundTrips serialize →
          ⟨taskId, generation, .onSnapshot (some transfer.start.serialized)⟩ ∈ s.client.calls) := by
  have h := Valid.of_run hrun
  refine ⟨fun transfer hcount => ?_, fun taskId generation text hcall => ?_,
    fun taskId generation transfer hpos hcount hreceived => ?_⟩
  · have hfits := fits hcount
    exact ⟨hfits.chunkOk, hfits.length_eq, hfits.frame_eq, hfits.flatten_eq⟩
  · obtain ⟨⟨transfer, htask, howner, htext, -, hreceived⟩, -⟩ := h.joined _ (h.sound.calls hcall)
    exact ⟨transfer, htask, howner, htext, hreceived⟩
  · refine ((h.task taskId).complete generation transfer hpos hcount hreceived).imp_right ?_
    exact fun hjoined => ⟨hjoined, (h.joined _ hjoined).2⟩

/-! ### A snapshot of two chunks -/

open List

/-- The next chunk is sent and handled. -/
theorem run_emit_receive {taskId : String} {active : ActiveTransfer serialize}
    {frame : CompanionFrame} {rest : ActiveCompanionChunks}
    (hactive : s.active taskId = some active) (hwire : s.wire taskId = [])
    (hnext : active.chunks.next = some (frame, rest)) :
    ∃ s', run (step d) s [.emit taskId, .receive taskId] = some s' ∧
      s'.client = s.client.handleFrame d frame ∧ s'.wire taskId = [] ∧
      s'.active taskId = some ⟨active.transfer, active.place + 1, rest⟩ := by
  let sent := s.emitChunk taskId active frame rest
  let s' := sent.receiveChunk d taskId active.transfer active.place frame []
  have hemit : step d s (.emit taskId) = some sent := by
    simp only [step, hactive, hnext, sent]
  have hreceive : step d sent (.receive taskId) = some s' := by
    simp only [step, sent, emitChunk, hwire, update_self, nil_append, s']
  refine ⟨s', ?_, rfl, update_self _ _ _, update_self _ _ _⟩
  rw [run_cons, hemit, Option.bind_some, run_cons, hreceive, Option.bind_some, run_nil]

section TwoChunks

/-- A text that fills a chunk and goes on. -/
def longText : List Char := replicate companionSnapshotChunkDataBytes 'a' ++ ['b']

/-- The snapshot that has this text. -/
def longSnapshot : PendingCompanionFrame :=
  ⟨.companionSnapshot "t" "session" "1" .fragment [] none [] (some 1), "t", 1, some 1, true, 1024⟩

/-- Every text is parsed as the snapshot. -/
def parsesSnapshot : FrameDecoder := ⟨fun _ => some longSnapshot.frame, false⟩

/-- The client attaches and connects, and the server starts to send the snapshot. -/
def startMoves : List LinkMove :=
  [.attach "t" true, .connect true true fun _ => true, .start "t" 1 longSnapshot]

/-- The client is sent the snapshot, which takes two chunks. -/
def longSnapshotMoves : List LinkMove :=
  startMoves ++ ([.emit "t", .receive "t"] ++ [.emit "t", .receive "t"])

/-- The client once it is connected. -/
def attached : StreamClient :=
  { StreamClient.fresh.attachCompanion "t" with
    companionAttachmentEpoch := true
    companionEventEpoch := true }

/-- The snapshot while it is sent. -/
def sending (first : List Char) (offset index count : ℕ) : ActiveCompanionChunks :=
  ⟨"t", "session:1", some 1, first ++ ['b'], offset, index, count, longSnapshot⟩

variable {first : List Char} (hbytes : byteLen first = 98304)
  (hunits : utf16Length first = 98304)

include hbytes in
theorem splits_two : Splits (first ++ ['b']) 0 [first, ['b']] := by
  have hfirst : first ≠ [] := by
    rintro rfl
    cases hbytes
  have hend : min companionSnapshotChunkDataBytes (byteLen (first ++ ['b'])) = byteLen first := by
    rw [byteLen_append, hbytes]
    rfl
  have hlast : Splits (first ++ ['b']) (byteLen first) [['b']] :=
    @Splits.cut [] first ['b'] [] (cons_ne_nil _ _) (companionChunkEnd_eq first rfl)
      (.done (Nat.le_refl _))
  exact @Splits.cut _ [] first ['b'] hfirst (companionChunkEnd_eq [] hend) hlast

include hbytes in
theorem countChunks_two :
    countChunks (first ++ ['b']) (byteLen (first ++ ['b'])) 0 0 = 2 := by
  have hlength : 2 ≤ byteLen (first ++ ['b']) := by
    rw [byteLen_append, hbytes]
    decide
  exact countChunks_eq (splits_two hbytes) hlength (Nat.zero_le _)

open StreamClient CompanionChunkAssembly in
include hunits in
/-- What the attachment is told once it has both chunks. -/
theorem calls_two :
    ((attached.handleFrame parsesSnapshot ((sending first 0 0 2).chunkOf 0 first)).handleFrame
      parsesSnapshot ((sending first 0 0 2).chunkOf 1 ['b'])).calls =
        [⟨"t", 1, .onSnapshot (some (first ++ ['b']))⟩] := by
  simp [attached, sending, parsesSnapshot, longSnapshot, hunits, ActiveCompanionChunks.chunkOf,
    handleFrame, acceptCompanionSnapshotChunk, attachCompanion, replaceAttachment,
    companionFrameMatchesAttachment, StreamClient.fresh, dropCompanionChunkAssembly,
    ChunkFrame.valid, beginAssembly, appendChunk, continues, push, completeAssembly,
    CompanionFrame.isSnapshotOf, handleSnapshot, releaseDecodeBytes, utf16Length, maxSafeInteger,
    maxCompanionChunkCount, maxCompanionChunkCharacters, maxCompanionAssemblyCharacters,
    maxPendingDecodeBytes]

include hbytes hunits in
theorem run_longSnapshot :
    ∃ s : CompanionLink fun _ => some (first ++ ['b']),
      run (step parsesSnapshot) fresh longSnapshotMoves = some s ∧
      s.client.calls = [⟨"t", 1, .onSnapshot (some (first ++ ['b']))⟩] := by
  obtain ⟨s, transfer, hrun, hclient, hwire, hactive⟩ :
      ∃ (s : CompanionLink fun _ => some (first ++ ['b'])) (transfer : _),
        run (step parsesSnapshot) fresh startMoves = some s ∧ s.client = attached ∧
        s.wire "t" = [] ∧ s.active "t" = some ⟨transfer, 0, sending first 0 0
          (countChunks (first ++ ['b']) (byteLen (first ++ ['b'])) 0 0)⟩ :=
    ⟨_, _, rfl, rfl, rfl, rfl⟩
  rw [countChunks_two hbytes] at hactive
  obtain ⟨offset, hsplits, hnext⟩ := @ActiveCompanionChunks.next_of_splits _
    (sending first 0 0 2) _ (splits_two hbytes) (Nat.zero_lt_succ _)
  obtain ⟨s₁, hrun₁, hclient₁, hwire, hactive⟩ := run_emit_receive hactive hwire hnext
  obtain ⟨_, -, hnext⟩ := @ActiveCompanionChunks.next_of_splits _
    (sending first offset 1 2) _ hsplits (Nat.succ_lt_succ (Nat.zero_lt_succ _))
  obtain ⟨s₂, hrun₂, hclient₂, -, -⟩ := run_emit_receive hactive hwire hnext
  refine ⟨s₂, ?_, ?_⟩
  · rw [longSnapshotMoves, run_append, hrun, Option.bind_some, run_append, hrun₁,
      Option.bind_some, hrun₂]
  · rw [hclient₂, hclient₁, hclient]
    exact calls_two hunits

end TwoChunks

theorem companion_snapshots_reassembled_twoChunks :
    ∃ s : CompanionLink fun _ => some longText,
      run (step parsesSnapshot) fresh longSnapshotMoves = some s ∧
      ⟨"t", 1, .onSnapshot (some longText)⟩ ∈ s.client.calls ∧
      ∃ transfer : CompanionTransfer fun _ => some longText, transfer.owner = 1 ∧
        transfer.start.serialized = longText ∧ transfer.start.count = 2 ∧
        transfer.received 2 <:+: s.log "t" 1 := by
  have hbytes : byteLen (replicate companionSnapshotChunkDataBytes 'a') = 98304 := by
    rw [byteLen_eq_length fun c hc => eq_of_mem_replicate hc ▸ rfl, length_replicate]
    rfl
  have hunits : ∀ n, utf16Length (replicate n 'a') = n := by
    intro n
    induction n with
    | zero => rfl
    | succ n ih => rw [replicate_succ, utf16Length, ih, if_pos (by decide), Nat.add_comm]
  obtain ⟨s, hrun, hcalls⟩ := run_longSnapshot hbytes (hunits _)
  have hcall : ⟨"t", 1, .onSnapshot (some longText)⟩ ∈ s.client.calls := by
    rw [hcalls]
    exact mem_singleton_self _
  obtain ⟨-, hdelivered, -⟩ := companion_snapshots_reassembled hrun
  obtain ⟨transfer, -, howner, htext, hreceived⟩ := hdelivered _ _ _ hcall
  have hcount : transfer.start.count = 2 := by
    rw [(ActiveCompanionChunks.start_of_new transfer.isNew).2.2, htext]
    exact countChunks_two hbytes
  exact ⟨s, hrun, hcall, transfer, howner, htext, hcount, hcount ▸ hreceived⟩

end CompanionLink

end Kanna
