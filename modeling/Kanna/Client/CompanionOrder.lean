import Kanna.Client.CompanionLink

/-!
# The order of chunks, and what an assembly holds

The chunks of a task come in order, and a transfer begins with its first chunk (`Feeds`). So
an assembly holds the first chunks of one transfer, and either the last of them was the last
chunk of the task to come in, or the chunks since then were not for this attachment
(`Assembled`).

`Valid` says this of every task, and that what was joined for an attachment is the text of
a transfer whose chunks stand in the attachment's log one after the other. Here it is shown
for what the user, the server and the connection do.
-/

namespace Kanna

variable {serialize : CompanionFrame → Option (List Char)}

/-- The first `n` chunks of a transfer as the log of its attachment shows them. -/
def CompanionTransfer.received (transfer : CompanionTransfer serialize) :
    ℕ → List (AttachmentEvent serialize)
  | 0 => []
  | n + 1 => .chunk transfer n :: transfer.received n

/-- A chunk may come after this one: it is a first chunk, or the next of the same transfer. -/
def Continues (last : Option (CompanionTransfer serialize × ℕ))
    (transfer : CompanionTransfer serialize) (place : ℕ) : Prop :=
  place = 0 ∨ ∃ before, place = before + 1 ∧ last = some (transfer, before)

/-- The chunks on the wire continue each other, from the last one the client was given to
the last one that was sent. -/
def Feeds : Option (CompanionTransfer serialize × ℕ) → List (WireItem serialize) →
    Option (CompanionTransfer serialize × ℕ) → Prop
  | last, [], sent => last = sent
  | last, .snapshot _ :: items, sent => Feeds last items sent
  | last, .chunk transfer place _ :: items, sent =>
    Continues last transfer place ∧ Feeds (some (transfer, place)) items sent

variable {sent : Option (CompanionTransfer serialize × ℕ)}
  {transfer : CompanionTransfer serialize}

variable {place : ℕ}

theorem Feeds.append {items more : List (WireItem serialize)}
    {last after : Option (CompanionTransfer serialize × ℕ)} (h : Feeds last items sent)
    (hmore : Feeds sent more after) : Feeds last (items ++ more) after := by
  induction items generalizing last with
  | nil =>
    obtain rfl : last = sent := h
    exact hmore
  | cons item items ih =>
    cases item with
    | chunk => exact ⟨h.1, ih h.2⟩
    | snapshot => exact @ih last h

/-- `chunks` is the transfer after it has returned the chunks before `place`. -/
def Emitted (transfer : CompanionTransfer serialize) (place : ℕ) (chunks : ActiveCompanionChunks) :
    Prop :=
  (transfer.start.drain place).length = place ∧
    ∀ fuel, transfer.start.drain (place + fuel) =
      transfer.start.drain place ++ chunks.drain fuel

theorem emitted_start (transfer : CompanionTransfer serialize) :
    Emitted transfer 0 transfer.start :=
  ⟨rfl, fun fuel => by rw [Nat.zero_add]; rfl⟩

open List

variable {frame : CompanionFrame}

/-- The next chunk is the one at `place`. -/
theorem Emitted.next {chunks rest : ActiveCompanionChunks} (h : Emitted transfer place chunks)
    (hnext : chunks.next = some (frame, rest)) :
    transfer.frame place = some frame ∧ Emitted transfer (place + 1) rest := by
  have hdrain : ∀ fuel, chunks.drain (fuel + 1) = frame :: rest.drain fuel := by
    intro fuel
    rw [ActiveCompanionChunks.drain, hnext]
  have hone : transfer.start.drain (place + 1) = transfer.start.drain place ++ [frame] := by
    rw [h.2 1, hdrain 0]
    rfl
  refine ⟨?_, ?_, fun fuel => ?_⟩
  · rw [CompanionTransfer.frame, hone, getElem?_append_right (Nat.le_of_eq h.1), h.1, Nat.sub_self]
    rfl
  · rw [hone, length_append, h.1]
    rfl
  · rw [Nat.add_assoc, h.2, Nat.add_comm 1, hdrain, hone, append_assoc]
    rfl

namespace CompanionLink

variable {s s' : CompanionLink serialize} {d : FrameDecoder} {task : String}
  {transfer : CompanionTransfer serialize}

/-- The attachment was told that the decode budget is used up. -/
def ToldCapacity (s : CompanionLink serialize) (task : String) (generation : ℕ) : Prop :=
  ⟨task, generation, StreamClient.decodeCapacityError⟩ ∈ s.client.calls

open StreamClient

section Parts

variable (client : StreamClient) (task : String)

/-- What the logs of a task's attachments say. -/
structure Recorded (log : ℕ → List (AttachmentEvent serialize)) : Prop where
  /-- the generations in use are those given out -/
  attached : ∀ attachment, client.attachments task = some attachment →
    attachment.generation ≤ client.companionAttachmentGeneration
  /-- nothing has come for a generation that was not given out -/
  unused : ∀ generation, client.companionAttachmentGeneration < generation → log generation = []
  /-- a transfer that came in is joined, unless there was no room -/
  complete : ∀ generation (transfer : CompanionTransfer serialize), 0 < transfer.start.count →
    transfer.start.count ≤ maxCompanionChunkCount →
    transfer.received transfer.start.count <:+: log generation →
    ⟨task, generation, decodeCapacityError⟩ ∈ client.calls ∨
      ⟨task, generation, transfer.start.serialized⟩ ∈ client.joined

/-- What the assembly of a task holds, `last` being the last chunk of the task to come in. -/
structure Assembled (last : Option (CompanionTransfer serialize × ℕ))
    (log : ℕ → List (AttachmentEvent serialize)) : Prop where
  /-- the first chunks of a transfer, which are the newest in the log of the current attachment;
  and none of the chunks that came in since was for the attachment -/
  assembly : ∀ assembly, client.companionChunkAssemblies task = some assembly →
    ∃ attachment transfer place, client.attachments task = some attachment ∧
      assembly = transfer.assembly attachment.generation (place + 1) ∧
      transfer.received (place + 1) <+: log attachment.generation ∧
      (last = some (transfer, place) ∨ ∃ other later, last = some (other, later) ∧
        client.companionFrameMatchesAttachment other.start.attachmentEpoch (some attachment) =
          false)
  /-- such chunks are in the assembly, unless there was no room -/
  progress : ∀ attachment (transfer : CompanionTransfer serialize) place,
    client.attachments task = some attachment →
    transfer.received (place + 1) <+: log attachment.generation →
    place + 1 < transfer.start.count → transfer.start.count ≤ maxCompanionChunkCount →
    ⟨task, attachment.generation, decodeCapacityError⟩ ∈ client.calls ∨
      client.companionChunkAssemblies task =
        some (transfer.assembly attachment.generation (place + 1))

variable (epoch : Bool) (requested : List ℕ)

/-- The transfer is for an attachment that was requested for this task on this socket. -/
structure For (transfer : CompanionTransfer serialize) : Prop where
  taskId : transfer.start.taskId = task
  owner : transfer.owner ∈ requested
  epoch : transfer.start.attachmentEpoch = if epoch then some transfer.owner else none

/-- What is on its way for a task: what the server sends `now`, and the `items` on the wire. -/
structure Sends (authed : Bool) (now : Option (ActiveTransfer serialize))
    (items : List (WireItem serialize)) (last : Option (CompanionTransfer serialize × ℕ)) :
    Prop where
  /-- without a connection there is nothing -/
  idle : authed = false → requested = [] ∧ items = [] ∧ now = none ∧ last = none
  /-- each chunk on the wire is one of a transfer -/
  wire : ∀ transfer place frame, .chunk transfer place frame ∈ items →
    For task epoch requested transfer ∧ transfer.frame place = some frame
  /-- what is being sent stands at its place -/
  active : ∀ active, now = some active →
    For task epoch requested active.transfer ∧
      Emitted active.transfer active.place active.chunks
  /-- the chunks follow each other -/
  feeds : ∃ sent, Feeds last items sent ∧
    ∀ active, now = some active → Continues sent active.transfer active.place

end Parts

/-- What is on its way for a task of this connection. -/
abbrev Sending (s : CompanionLink serialize) (task : String) : Option (ActiveTransfer serialize) →
    List (WireItem serialize) → Option (CompanionTransfer serialize × ℕ) → Prop :=
  Sends task s.client.companionAttachmentEpoch (s.requested task) s.authed

/-- What holds of every task. -/
structure TaskValid (s : CompanionLink serialize) (task : String) : Prop extends
    Recorded s.client task (s.log task), Assembled s.client task (s.last task) (s.log task),
    s.Sending task (s.active task) (s.wire task) (s.last task) where
  /-- a lost connection drops what was assembled -/
  unassembled : s.authed = false → s.client.companionChunkAssemblies task = none
  /-- a server without epochs has seen one attachment of the task -/
  legacy : s.client.companionAttachmentEpoch = false → s.requested task = [] ∨
    ∃ generation, s.requested task = [generation] ∧
      ∀ attachment, s.client.attachments task = some attachment →
        attachment.generation = generation

/-- A joined text is the text of one transfer for the attachment, whose chunks came in one
after the other. Without a worker it is handed over at once. -/
def JoinedValid (d : FrameDecoder) (s : CompanionLink serialize) (joined : Joined) : Prop :=
  (∃ transfer : CompanionTransfer serialize, transfer.start.taskId = joined.taskId ∧
    transfer.owner = joined.generation ∧ transfer.start.serialized = joined.text ∧
    transfer.start.count ≤ maxCompanionChunkCount ∧
    transfer.received transfer.start.count <:+: s.log joined.taskId joined.generation) ∧
  (d.decodeChunks = false → d.RoundTrips serialize →
    ⟨joined.taskId, joined.generation, .onSnapshot (some joined.text)⟩ ∈ s.client.calls)

/-- The invariant. -/
structure Valid (d : FrameDecoder) (s : CompanionLink serialize) : Prop where
  task : ∀ task, s.TaskValid task
  sound : s.client.Sound
  joined : ∀ joined ∈ s.client.joined, s.JoinedValid d joined

variable {client : StreamClient} {last : Option (CompanionTransfer serialize × ℕ)}
  {log : ℕ → List (AttachmentEvent serialize)}

theorem assembled_none (hnone : client.companionChunkAssemblies task = none)
    (hlog : ∀ attachment (transfer : CompanionTransfer serialize) place,
      client.attachments task = some attachment →
      ¬ transfer.received (place + 1) <+: log attachment.generation) :
    Assembled client task last log where
  assembly _ hsome := nomatch hnone.symm.trans hsome
  progress attachment transfer place hsome hreceived :=
    absurd hreceived (hlog attachment transfer place hsome)

/-- Nothing has been sent yet. -/
theorem sending_none {now : Option (ActiveTransfer serialize)} {items : List (WireItem serialize)}
    (hnow : now = none) (hitems : items = []) (hlast : last = none)
    (hidle : s.authed = false → s.requested task = []) : s.Sending task now items last := by
  subst hnow hitems hlast
  exact ⟨fun hauthed => ⟨hidle hauthed, rfl, rfl, rfl⟩, by rintro _ _ _ ⟨⟩, by rintro _ ⟨⟩,
    none, rfl, by rintro _ ⟨⟩⟩

theorem valid_fresh : (fresh : CompanionLink serialize).Valid d where
  task task :=
    { attached := by rintro _ ⟨⟩
      unused := fun _ _ => rfl
      complete := by
        rintro generation transfer hpos - hreceived
        obtain ⟨n, hn⟩ := Nat.exists_eq_succ_of_ne_zero (Nat.ne_of_gt hpos)
        rw [hn] at hreceived
        cases infix_nil.mp hreceived
      toAssembled := assembled_none rfl (by rintro _ _ _ ⟨⟩)
      toSends := sending_none rfl rfl rfl fun _ => rfl
      unassembled := fun _ => rfl
      legacy := fun _ => .inl rfl }
  sound := ⟨by rintro _ _ _ ⟨⟩, by rintro _ ⟨⟩⟩
  joined := by rintro _ ⟨⟩

/-! ### Moves of another task -/

/-- The task's attachment is as it was; elsewhere more may have been attached and told. -/
structure Keeps (task : String) (c c' : StreamClient) : Prop where
  attachments : c'.attachments task = c.attachments task
  attachmentEpoch : c'.companionAttachmentEpoch = c.companionAttachmentEpoch
  generation : c.companionAttachmentGeneration ≤ c'.companionAttachmentGeneration
  calls : c.calls ⊆ c'.calls
  joined : c.joined ⊆ c'.joined

theorem keeps_of_follows {c c' : StreamClient} {taskId : String} (h : Follows taskId c c')
    (task : String) : Keeps task c c' :=
  ⟨congrFun h.attachments task, h.attachmentEpoch, Nat.le_of_eq h.generation.symm, h.calls,
    h.joined⟩

section Keeps

variable {c c' : StreamClient} (hkeeps : Keeps task c c')

include hkeeps

theorem Recorded.mono (h : Recorded c task log) : Recorded c' task log where
  attached attachment hsome :=
    Nat.le_trans (h.attached attachment (hkeeps.attachments ▸ hsome)) hkeeps.generation
  unused generation hlt := h.unused generation (Nat.lt_of_le_of_lt hkeeps.generation hlt)
  complete generation transfer hpos hcount hreceived :=
    (h.complete generation transfer hpos hcount hreceived).imp (fun htold => hkeeps.calls htold)
      fun hjoined => hkeeps.joined hjoined

/-- If a chunk came in, it was for another attachment. -/
theorem Assembled.mono {last' : Option (CompanionTransfer serialize × ℕ)}
    (h : Assembled c task last log)
    (hassembly : c'.companionChunkAssemblies task = c.companionChunkAssemblies task)
    (hlast : ∀ attachment, c.attachments task = some attachment →
      last' = last ∨ ∃ transfer place, last' = some (transfer, place) ∧
        c.companionFrameMatchesAttachment transfer.start.attachmentEpoch (some attachment) =
          false) : Assembled c' task last' log := by
  refine ⟨fun assembly hsome => ?_,
    fun attachment transfer place hsome hreceived hmore hcount => ?_⟩
  · obtain ⟨attachment, transfer, place, hattachment, heq, hreceived, hbefore⟩ :=
      h.assembly assembly (hassembly ▸ hsome)
    refine ⟨attachment, transfer, place, hkeeps.attachments.trans hattachment, heq, hreceived, ?_⟩
    simp only [matches_eq hkeeps.attachmentEpoch]
    obtain rfl | hother := hlast attachment hattachment
    · exact hbefore
    · exact .inr hother
  · rw [hassembly]
    exact (h.progress attachment transfer place (hkeeps.attachments ▸ hsome) hreceived hmore
      hcount).imp_left fun htold => hkeeps.calls htold

end Keeps

/-- Nothing of this task has changed. -/
structure SameTask (task : String) (s s' : CompanionLink serialize) : Prop where
  client : Keeps task s.client s'.client
  assemblies : s'.client.companionChunkAssemblies task = s.client.companionChunkAssemblies task
  authed : s'.authed = s.authed
  requested : s'.requested task = s.requested task
  active : s'.active task = s.active task
  wire : s'.wire task = s.wire task
  last : s'.last task = s.last task
  log : s'.log task = s.log task

theorem TaskValid.of_same (h : s.TaskValid task) (hsame : SameTask task s s') :
    s'.TaskValid task where
  toRecorded := by
    rw [hsame.log]
    exact h.toRecorded.mono hsame.client
  toAssembled := by
    rw [hsame.log, hsame.last]
    exact h.toAssembled.mono hsame.client hsame.assemblies fun _ _ => .inl rfl
  toSends := by
    rw [hsame.client.attachmentEpoch, hsame.requested, hsame.authed, hsame.active,
      hsame.wire, hsame.last]
    exact h.toSends
  unassembled hauthed := hsame.assemblies.trans (h.unassembled (hsame.authed ▸ hauthed))
  legacy hlegacy := by
    rw [hsame.requested, hsame.client.attachments]
    exact h.legacy (hsame.client.attachmentEpoch ▸ hlegacy)

/-! ### Logs -/

/-- No event is taken back. -/
def LogGrows (s s' : CompanionLink serialize) : Prop :=
  ∀ task generation, s.log task generation <:+ s'.log task generation

theorem logGrows_of_eq (h : s'.log = s.log) : LogGrows s s' := by
  intro task generation
  exact h ▸ suffix_refl _

variable (event : AttachmentEvent serialize)

open Function

theorem record_eq (taskId : String) (generation : ℕ) : s.record taskId event task generation =
    if task = taskId ∧ s.client.attachments taskId = some ⟨generation⟩ then
      event :: s.log task generation else s.log task generation := by
  cases hattachment : s.client.attachments taskId with
  | none => simp [record, hattachment]
  | some attachment =>
    cases attachment
    simp only [record, hattachment, update_apply]
    grind

theorem record_of_ne {taskId : String} (hne : task ≠ taskId) :
    s.record taskId event task = s.log task := by
  funext generation
  rw [record_eq, if_neg fun h => hne h.1]

variable {attachment : CompanionAttachment}

theorem record_self (hattachment : s.client.attachments task = some attachment) :
    s.record task event task attachment.generation = event :: s.log task attachment.generation := by
  rw [record_eq, if_pos ⟨rfl, hattachment⟩]

theorem record_other (hattachment : s.client.attachments task = some attachment) {generation : ℕ}
    (hne : generation ≠ attachment.generation) :
    s.record task event task generation = s.log task generation := by
  rw [record_eq, if_neg]
  rintro ⟨-, hother⟩
  cases hattachment.symm.trans hother
  exact hne rfl

variable (taskId : String)

theorem record_suffix (event : AttachmentEvent serialize) (generation : ℕ) :
    s.log task generation <:+ s.record taskId event task generation := by
  rw [record_eq]
  split
  · exact suffix_cons _ _
  · exact suffix_refl _

theorem not_received_prefix_reset {n : ℕ} {log : List (AttachmentEvent serialize)} (hpos : 0 < n) :
    ¬ transfer.received n <+: .reset :: log := by
  obtain ⟨n, rfl⟩ := Nat.exists_eq_succ_of_ne_zero (Nat.ne_of_gt hpos)
  rw [CompanionTransfer.received, cons_prefix_cons]
  rintro ⟨⟨⟩, _⟩

section Events

variable (hattachments : client.attachments task = s.client.attachments task)

include hattachments

/-- An event of the task's attachment: what was recorded before stays so. -/
theorem Recorded.record (h : Recorded client task (s.log task))
    (hnew : ∀ attachment (transfer : CompanionTransfer serialize),
      s.client.attachments task = some attachment → 0 < transfer.start.count →
      transfer.start.count ≤ maxCompanionChunkCount →
      transfer.received transfer.start.count <+: event :: s.log task attachment.generation →
      ⟨task, attachment.generation, decodeCapacityError⟩ ∈ client.calls ∨
        ⟨task, attachment.generation, transfer.start.serialized⟩ ∈ client.joined) :
    Recorded client task (s.record task event task) where
  attached := h.attached
  unused generation hlt := by
    rw [record_eq, if_neg]
    · exact h.unused generation hlt
    · rintro ⟨-, hattachment⟩
      exact absurd (h.attached _ (hattachments.trans hattachment)) (Nat.not_le.mpr hlt)
  complete generation transfer hpos hcount hreceived := by
    rw [record_eq] at hreceived
    split at hreceived
    next hcurrent =>
      obtain hprefix | hold := infix_cons_iff.mp hreceived
      · exact hnew _ transfer hcurrent.2 hpos hcount hprefix
      · exact h.complete generation transfer hpos hcount hold
    next => exact h.complete generation transfer hpos hcount hreceived

theorem Recorded.reset (h : Recorded client task (s.log task)) :
    Recorded client task (s.record task .reset task) :=
  h.record .reset hattachments fun _ _ _ hpos _ hreceived =>
    absurd hreceived (not_received_prefix_reset hpos)

theorem assembled_reset (hnone : client.companionChunkAssemblies task = none) :
    Assembled client task last (s.record task .reset task) :=
  assembled_none hnone fun attachment transfer place hsome => by
    rw [record_self .reset (hattachments ▸ hsome)]
    exact not_received_prefix_reset (Nat.succ_pos place)

end Events

theorem JoinedValid.mono {joined : Joined} (h : s.JoinedValid d joined) (hlog : LogGrows s s')
    (hcalls : s.client.calls ⊆ s'.client.calls) : s'.JoinedValid d joined := by
  obtain ⟨⟨transfer, htask, howner, htext, hcount, hreceived⟩, htold⟩ := h
  exact ⟨⟨transfer, htask, howner, htext, hcount, hreceived.trans (hlog _ _).isInfix⟩,
    fun hdirect hround => hcalls (htold hdirect hround)⟩

/-- A move of one task. -/
theorem Valid.of_task (h : s.Valid d) (hlog : LogGrows s s') {taskId : String}
    (hclient : StreamClient.Follows taskId s.client s'.client) (hsound : s'.client.Sound)
    (htask : s'.TaskValid taskId) (hothers : ∀ task, task ≠ taskId → SameTask task s s')
    (hjoined : ∀ joined ∈ s'.client.joined,
      joined ∈ s.client.joined ∨ s'.JoinedValid d joined) : s'.Valid d where
  task task := by
    by_cases heq : task = taskId
    · rw [heq]
      exact htask
    · exact (h.task task).of_same (hothers task heq)
  sound := hsound
  joined joined hmem :=
    (hjoined joined hmem).elim (fun hold => (h.joined joined hold).mono hlog hclient.calls) id

/-! ### The connection -/

theorem disconnect_log : s.disconnect.log task = s.record task .reset task := by
  funext generation
  simp [record_eq, CompanionLink.disconnect]

/-- What is left of a task when the connection is lost. -/
theorem taskValid_disconnect (h : Recorded s.client task (s.log task)) :
    s.disconnect.TaskValid task where
  toRecorded := by
    rw [disconnect_log]
    exact { h.reset rfl with }
  toAssembled := by
    rw [disconnect_log]
    exact assembled_reset rfl rfl
  toSends := sending_none rfl rfl rfl fun _ => rfl
  unassembled _ := rfl
  legacy _ := .inl rfl

theorem logGrows_disconnect : LogGrows s s.disconnect := by
  intro task generation
  rw [disconnect_log]
  exact record_suffix task .reset generation

theorem Valid.disconnect (h : s.Valid d) : s.disconnect.Valid d where
  task task := taskValid_disconnect (h.task task).toRecorded
  sound := ⟨h.sound.calls, by rintro _ ⟨⟩⟩
  joined joined hmem := (h.joined joined hmem).mono logGrows_disconnect (.refl _)

theorem Valid.connect (h : s.Valid d) (hauthed : s.authed = false)
    (attachmentEpoch eventEpoch : Bool) (sent : String → Bool) :
    (s.connect attachmentEpoch eventEpoch sent).Valid d where
  task task := by
    obtain ⟨_, hwire, hactive, hlast⟩ := (h.task task).idle hauthed
    have hassembly := (h.task task).unassembled hauthed
    refine ⟨{ (h.task task).toRecorded with },
      ⟨fun _ hsome => (nomatch hassembly.symm.trans hsome), (h.task task).progress⟩,
      sending_none hactive hwire hlast (by rintro ⟨⟩), by rintro ⟨⟩, fun _ => ?_⟩
    cases hattachment : s.client.attachments task with
    | none =>
      refine .inl ?_
      simp only [CompanionLink.connect, hattachment]
    | some attachment =>
      by_cases hsent : sent task = true
      · refine .inr ⟨attachment.generation, ?_, ?_⟩
        · simp [CompanionLink.connect, hattachment, hsent]
        · intro other hother
          cases hattachment.symm.trans hother
          rfl
      · refine .inl ?_
        simp [CompanionLink.connect, hattachment, hsent]
  sound := ⟨h.sound.calls, h.sound.ingress⟩
  joined joined hmem := (h.joined joined hmem).mono (logGrows_of_eq rfl) (.refl _)

/-! ### The user -/

section Replace

variable {taskId : String} {attachment : Option CompanionAttachment} {generation : ℕ}
  {requested : String → List ℕ}

section Client

variable {c : StreamClient} (hgeneration : c.companionAttachmentGeneration ≤ generation)

include hgeneration

theorem keeps_replaced (htask : task ≠ taskId) :
    Keeps task c (c.replaceAttachment taskId attachment generation) :=
  ⟨update_of_ne htask _ _, drop_attachmentEpoch, hgeneration,
    (@drop_calls c taskId).symm ▸ .refl _, (@drop_joined c taskId).symm ▸ .refl _⟩

theorem Recorded.replaced (h : Recorded c task log)
    (hnew : ∀ new, attachment = some new → new.generation = generation) :
    Recorded (c.replaceAttachment taskId attachment generation) task log where
  attached new hsome := by
    by_cases htask : task = taskId
    · subst htask
      exact Nat.le_of_eq (hnew new ((update_self task _ c.attachments).symm.trans hsome))
    · exact Nat.le_trans (h.attached new ((update_of_ne htask _ c.attachments).symm.trans hsome))
        hgeneration
  unused g hlt := h.unused g (Nat.lt_of_le_of_lt hgeneration hlt)
  complete g transfer hpos hcount hreceived := by
    rw [replaceAttachment, drop_calls, drop_joined]
    exact h.complete g transfer hpos hcount hreceived

end Client

/-- The client after the task's attachment was replaced. -/
def replaced (s : CompanionLink serialize) (taskId : String)
    (attachment : Option CompanionAttachment) (generation : ℕ) (requested : String → List ℕ) :
    CompanionLink serialize :=
  { s with client := s.client.replaceAttachment taskId attachment generation, requested }

theorem Valid.sound_replaced (h : s.Valid d) :
    (s.replaced taskId attachment generation requested).client.Sound :=
  ⟨h.sound.drop.sound.calls, h.sound.drop.sound.ingress⟩

theorem Valid.joined_replaced (h : s.Valid d) {joined : Joined}
    (hmem : joined ∈ (s.replaced taskId attachment generation requested).client.joined) :
    (s.replaced taskId attachment generation requested).JoinedValid d joined := by
  rw [replaced, replaceAttachment, drop_joined] at hmem
  refine (h.joined joined hmem).mono (logGrows_of_eq rfl) ?_
  rw [CompanionLink.replaced, replaceAttachment, drop_calls]
  exact .refl _

/-- The socket of an old server is retired when the task is attached again. -/
theorem Valid.retired (h : s.Valid d) (taskId : String) :
    (s.replaced taskId (some ⟨s.client.companionAttachmentGeneration + 1⟩)
      (s.client.companionAttachmentGeneration + 1) s.requested).disconnect.Valid d where
  task task := by
    refine taskValid_disconnect ((h.task task).toRecorded.replaced (Nat.le_succ _) ?_)
    rintro _ ⟨⟩
    rfl
  sound := ⟨h.sound.drop.sound.calls, by rintro _ ⟨⟩⟩
  joined _ hmem := (h.joined_replaced hmem).mono logGrows_disconnect (.refl _)

variable
  (hnew : ∀ new, attachment = some new →
    new.generation = generation ∧ s.client.companionAttachmentGeneration < generation)
  (hgeneration : s.client.companionAttachmentGeneration ≤ generation)
  (hsubset : s.requested task ⊆ requested task)
  (hlegacy : s.client.companionAttachmentEpoch = false → requested task = [] ∨
    ∃ g, requested task = [g] ∧ ∀ new, attachment = some new → new.generation = g)
  (hidle : s.authed = false → requested task = [])

include hnew hgeneration hsubset hlegacy hidle

/-- The task has no attachment, or a new one with an empty log, and no assembly. -/
theorem taskValid_replaced (h : s.TaskValid task) :
    (s.replaced task attachment generation requested).TaskValid task := by
  have hepoch : (s.replaced task attachment generation requested).client.companionAttachmentEpoch =
      s.client.companionAttachmentEpoch := drop_attachmentEpoch
  have hcurrent : (s.replaced task attachment generation requested).client.attachments task =
      attachment := update_self _ _ _
  have hnone : (s.replaced task attachment generation requested).client.companionChunkAssemblies
      task = none := by
    rw [replaced, replaceAttachment, drop_assemblies, update_self]
  have hfor : ∀ {transfer : CompanionTransfer serialize},
      For task s.client.companionAttachmentEpoch (s.requested task) transfer →
      For task s.client.companionAttachmentEpoch (requested task) transfer :=
    fun hfor => { hfor with owner := hsubset hfor.owner }
  refine ⟨h.toRecorded.replaced hgeneration fun new hsome => (hnew new hsome).1,
    assembled_none hnone fun new transfer place hsome hreceived => ?_, ?_, fun _ => hnone,
    fun hold => ?_⟩
  · obtain ⟨hgen, hlt⟩ := hnew new (hcurrent.symm.trans hsome)
    have hempty : s.log task new.generation = [] := h.unused _ (hgen ▸ hlt)
    change _ <+: s.log task new.generation at hreceived
    rw [hempty] at hreceived
    cases prefix_nil.mp hreceived
  · rw [hepoch]
    exact ⟨fun hauthed => ⟨hidle hauthed, (h.idle hauthed).2⟩,
      fun transfer place frame hmem => (h.wire transfer place frame hmem).imp_left hfor,
      fun active hactive => (h.active active hactive).imp_left hfor, h.feeds⟩
  · rw [hcurrent]
    exact hlegacy (hepoch ▸ hold)

theorem Valid.replaced (h : s.Valid d)
    (hothers : ∀ other, other ≠ task → requested other = s.requested other) :
    (s.replaced task attachment generation requested).Valid d where
  task other := by
    by_cases htask : other = task
    · rw [htask]
      exact taskValid_replaced hnew hgeneration hsubset hlegacy hidle (h.task task)
    · refine (h.task other).of_same ⟨keeps_replaced hgeneration htask, ?_, rfl,
        hothers other htask, rfl, rfl, rfl, rfl⟩
      rw [CompanionLink.replaced, replaceAttachment, drop_assemblies, update_of_ne htask]
  sound := h.sound_replaced
  joined _ hmem := h.joined_replaced hmem

end Replace

variable (h : s.Valid d)

include h

theorem Valid.attach (sent : Bool) : (s.attach taskId sent).Valid d := by
  have hepoch : (s.client.attachCompanion taskId).companionAttachmentEpoch =
      s.client.companionAttachmentEpoch := drop_attachmentEpoch
  have hnew : ∀ new : CompanionAttachment,
      some ⟨s.client.companionAttachmentGeneration + 1⟩ = some new →
      new.generation = s.client.companionAttachmentGeneration + 1 ∧
        s.client.companionAttachmentGeneration < s.client.companionAttachmentGeneration + 1 := by
    rintro _ ⟨⟩
    exact ⟨rfl, Nat.lt_succ_self _⟩
  rw [CompanionLink.attach]
  split
  next => exact h.retired taskId
  next hretire =>
    -- an old server has not seen the task on this socket
    have hfirst : s.client.companionAttachmentEpoch = false → s.requested taskId = [] := by
      intro hlegacy
      cases hauthed : s.authed with
      | false => exact ((h.task taskId).idle hauthed).1
      | true =>
        rw [hepoch, hlegacy, hauthed] at hretire
        simpa using hretire
    split
    next hsent =>
      rw [Bool.and_eq_true] at hsent
      refine Valid.replaced hnew (Nat.le_succ _) ?_ ?_ ?_ h fun task htask =>
        update_of_ne htask _ _
      · rw [update_self]
        exact subset_cons_self _ _
      · intro hlegacy
        rw [update_self, hfirst hlegacy]
        exact .inr ⟨_, rfl, fun new hsome => (hnew new hsome).1⟩
      · intro hauthed
        rw [hauthed] at hsent
        cases hsent.1
    next =>
      exact Valid.replaced hnew (Nat.le_succ _) (.refl _)
        (fun hlegacy => .inl (hfirst hlegacy)) (fun hauthed => ((h.task taskId).idle hauthed).1) h
        fun _ _ => rfl

theorem Valid.detach : Valid d { s with client := s.client.detachCompanion taskId } := by
  refine Valid.replaced (by rintro _ ⟨⟩) (Nat.le_refl _) (.refl _) (fun hlegacy => ?_)
    (fun hauthed => ((h.task taskId).idle hauthed).1) h fun _ _ => rfl
  refine ((h.task taskId).legacy hlegacy).imp id ?_
  rintro ⟨generation, hone, -⟩
  exact ⟨generation, hone, by rintro _ ⟨⟩⟩

/-! ### The server -/

/-- A move of the server that leaves the client alone. -/
theorem Valid.of_server {taskId : String} {started : ℕ}
    {active : String → Option (ActiveTransfer serialize)}
    {wire : String → List (WireItem serialize)} {now : Option (ActiveTransfer serialize)}
    {items : List (WireItem serialize)} (hnow : active = update s.active taskId now)
    (hitems : wire = update s.wire taskId items)
    (hsends : s.Sending taskId now items (s.last taskId)) :
    Valid d { s with started, active, wire } where
  task task := by
    by_cases htask : task = taskId
    · subst htask
      obtain rfl : active task = now := by rw [hnow, update_self]
      obtain rfl : wire task = items := by rw [hitems, update_self]
      exact { h.task task with toSends := hsends }
    · refine (h.task task).of_same ⟨⟨rfl, rfl, Nat.le_refl _, .refl _, .refl _⟩, rfl, rfl, rfl,
        ?_, ?_, rfl, rfl⟩
      · exact (congrFun hnow task).trans (update_of_ne htask _ _)
      · exact (congrFun hitems task).trans (update_of_ne htask _ _)
  sound := h.sound
  joined joined hmem := (h.joined joined hmem).mono (logGrows_of_eq rfl) (.refl _)

theorem Valid.start {taskId : String}
    (hfor : For taskId s.client.companionAttachmentEpoch (s.requested taskId) transfer) :
    (s.start taskId transfer).Valid d := by
  have hvalid := h.task taskId
  obtain ⟨sent, hfeeds, -⟩ := hvalid.feeds
  refine h.of_server rfl (update_eq_self _ _).symm ⟨?_, hvalid.wire, ?_, sent, hfeeds, ?_⟩
  · intro hauthed
    have hnone := hfor.owner
    rw [(hvalid.idle hauthed).1] at hnone
    cases hnone
  · rintro _ ⟨⟩
    exact ⟨hfor, emitted_start transfer⟩
  · rintro _ ⟨⟩
    exact .inl rfl

theorem Valid.abandon : Valid d { s with active := update s.active taskId none } := by
  have hvalid := h.task taskId
  obtain ⟨sent, hfeeds, -⟩ := hvalid.feeds
  refine h.of_server rfl (update_eq_self _ _).symm ⟨fun hauthed => ?_, hvalid.wire,
    by rintro _ ⟨⟩, sent, hfeeds, by rintro _ ⟨⟩⟩
  obtain ⟨hrequested, hwire, -, hlast⟩ := hvalid.idle hauthed
  exact ⟨hrequested, hwire, rfl, hlast⟩

theorem Valid.emitChunk {taskId : String} {active : ActiveTransfer serialize}
    {rest : ActiveCompanionChunks} (hactive : s.active taskId = some active)
    (hnext : active.chunks.next = some (frame, rest)) :
    (s.emitChunk taskId active frame rest).Valid d := by
  have hvalid := h.task taskId
  obtain ⟨hfor, hemitted⟩ := hvalid.active active hactive
  obtain ⟨hframe, hrest⟩ := hemitted.next hnext
  obtain ⟨sent, hfeeds, hcontinues⟩ := hvalid.feeds
  refine h.of_server rfl rfl ⟨?_, ?_, ?_, some (active.transfer, active.place),
    hfeeds.append ⟨hcontinues active hactive, rfl⟩, ?_⟩
  · intro hauthed
    cases (hvalid.idle hauthed).2.2.1.symm.trans hactive
  · intro transfer place sent hmem
    obtain hold | hnew := mem_append.mp hmem
    · exact hvalid.wire transfer place sent hold
    · cases mem_singleton.mp hnew
      exact ⟨hfor, hframe⟩
  · rintro _ ⟨⟩
    exact ⟨hfor, hrest⟩
  · rintro _ ⟨⟩
    exact .inr ⟨active.place, rfl, rfl⟩

theorem Valid.emitSnapshot (hauthed : s.authed = true) (taskId : String)
    (attachmentEpoch : Option ℕ) :
    Valid d { s with
      wire := update s.wire taskId (s.wire taskId ++ [.snapshot attachmentEpoch]) } := by
  have hvalid := h.task taskId
  obtain ⟨sent, hfeeds, hcontinues⟩ := hvalid.feeds
  refine h.of_server (update_eq_self _ _).symm rfl ⟨?_, ?_, hvalid.active, sent,
    hfeeds.append rfl, hcontinues⟩
  · intro hfalse
    cases hauthed.symm.trans hfalse
  · intro transfer place sent hmem
    obtain hold | hnew := mem_append.mp hmem
    · exact hvalid.wire transfer place sent hold
    · cases mem_singleton.mp hnew

omit h

end CompanionLink

end Kanna
