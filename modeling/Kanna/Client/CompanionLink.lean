import Kanna.Client.CompanionTransfer
import Kanna.Lib.Run

/-!
# Chunked snapshots on one connection

The server cuts snapshots into chunks and sends them in order, several tasks at a time; a
transfer may be abandoned at any point, and the next one of the task begins with its first
chunk. The client attaches, detaches and attaches again, and the connection may be lost. A
transfer is sent for an attachment that was requested on this connection and carries its
generation as epoch, unless the server does not know about epochs.

The order of frames matters per task only, so every task has a queue of its own. For every
attachment `log` keeps what its chunks were and when its assembly was reset, the newest
first.
-/

namespace Kanna

section Types

variable (serialize : CompanionFrame → Option (List Char))

/-- What happens to an attachment: a chunk of a transfer comes in, or its assembly is dropped
for another reason. -/
inductive AttachmentEvent where
  | chunk (transfer : CompanionTransfer serialize) (place : ℕ)
  | reset

/-- A frame of one task on its way to the client. -/
inductive WireItem where
  | chunk (transfer : CompanionTransfer serialize) (place : ℕ) (frame : CompanionFrame)
  | snapshot (attachmentEpoch : Option ℕ)

/-- A transfer that is being sent: the place of its next chunk, and `ActiveCompanionChunks`
as it stands. -/
structure ActiveTransfer where
  transfer : CompanionTransfer serialize
  place : ℕ
  chunks : ActiveCompanionChunks

/-- A client and the server it is connected to. -/
structure CompanionLink where
  client : StreamClient
  authed : Bool
  /-- the attachments requested on this socket; a task with one is in
  `companionTasksOnSocket` -/
  requested : String → List ℕ
  /-- the transfers so far -/
  started : ℕ
  /-- what the server is sending -/
  active : String → Option (ActiveTransfer serialize)
  /-- the frames on their way -/
  wire : String → List (WireItem serialize)
  /-- the last chunk of the task the client was given -/
  last : String → Option (CompanionTransfer serialize × ℕ)
  /-- what happened to each attachment, the newest first -/
  log : String → ℕ → List (AttachmentEvent serialize)

/-- The moves of client, server and connection. -/
inductive LinkMove where
  /-- the user attaches or detaches; the request may fail to be sent -/
  | attach (taskId : String) (sent : Bool)
  | detach (taskId : String)
  /-- a connection is authenticated, with or without the two capabilities -/
  | connect (attachmentEpoch eventEpoch : Bool) (sent : String → Bool)
  | disconnect
  /-- the server starts a transfer, sends its next chunk, or gives it up -/
  | start (taskId : String) (owner : ℕ) (delivery : PendingCompanionFrame)
  | emit (taskId : String)
  | abandon (taskId : String)
  /-- the server sends a whole snapshot -/
  | emitSnapshot (taskId : String) (attachmentEpoch : Option ℕ)
  /-- the client handles the task's next frame -/
  | receive (taskId : String)
  /-- the worker has decoded the next assembled text, or failed on it -/
  | decode
  | decodeFailed
  /-- other frames wait to be decoded -/
  | setDecodeBytes (bytes : ℕ)

end Types

variable {serialize : CompanionFrame → Option (List Char)}

/-- The task's attachment is replaced, and what was assembled for the old one is dropped. -/
def StreamClient.replaceAttachment (c : StreamClient) (taskId : String)
    (attachment : Option CompanionAttachment) (generation : ℕ) : StreamClient :=
  { c.dropCompanionChunkAssembly taskId with
    companionAttachmentGeneration := generation
    attachments := Function.update c.attachments taskId attachment }

/-- `attachCompanion` up to the request. -/
def StreamClient.attachCompanion (c : StreamClient) (taskId : String) : StreamClient :=
  c.replaceAttachment taskId (some ⟨c.companionAttachmentGeneration + 1⟩)
    (c.companionAttachmentGeneration + 1)

/-- `detach` of a companion. -/
def StreamClient.detachCompanion (c : StreamClient) (taskId : String) : StreamClient :=
  c.replaceAttachment taskId none c.companionAttachmentGeneration

/-- `handleDisconnect`. -/
def StreamClient.handleDisconnect (c : StreamClient) : StreamClient :=
  { c with
    companionChunkAssemblies := fun _ => none
    decodeIngress := []
    decodeIngressBytes := 0
    companionAttachmentEpoch := false
    companionEventEpoch := false }

/-- The client before it connects for the first time. -/
def StreamClient.fresh : StreamClient where
  attachments _ := none
  companionAttachmentGeneration := 0
  companionChunkAssemblies _ := none
  decodeIngress := []
  decodeIngressBytes := 0
  companionAttachmentEpoch := false
  companionEventEpoch := false
  calls := []
  joined := []

namespace CompanionLink

/-- Nothing is connected yet. -/
def fresh : CompanionLink serialize where
  client := .fresh
  authed := false
  requested _ := []
  started := 0
  active _ := none
  wire _ := []
  last _ := none
  log _ _ := []

variable (s : CompanionLink serialize)

/-- The log with an event of the task's attachment, if it has one. -/
def record (taskId : String) (event : AttachmentEvent serialize) :
    String → ℕ → List (AttachmentEvent serialize) :=
  match s.client.attachments taskId with
  | none => s.log
  | some attachment =>
    Function.update s.log taskId
      (Function.update (s.log taskId) attachment.generation
        (event :: s.log taskId attachment.generation))

/-- The connection is lost, with all that was on it. -/
def disconnect : CompanionLink serialize :=
  { s with
    client := s.client.handleDisconnect
    authed := false
    requested := fun _ => []
    active := fun _ => none
    wire := fun _ => []
    last := fun _ => none
    log := fun task generation =>
      if s.client.attachments task = some ⟨generation⟩ then .reset :: s.log task generation
      else s.log task generation }

/-- `attachCompanion`: an old server would send to both attachments, so that its socket is
retired. -/
def attach (taskId : String) (sent : Bool) : CompanionLink serialize :=
  let client := s.client.attachCompanion taskId
  if s.authed && !(client.companionAttachmentEpoch && client.companionEventEpoch) &&
      !(s.requested taskId).isEmpty then
    { s with client }.disconnect
  else if s.authed && sent then
    { s with
      client
      requested := Function.update s.requested taskId
        (client.companionAttachmentGeneration :: s.requested taskId) }
  else { s with client }

/-- The connection is authenticated: every attachment is requested on it. -/
def connect (attachmentEpoch eventEpoch : Bool) (sent : String → Bool) : CompanionLink serialize :=
  { s with
    client :=
      { s.client with
        companionAttachmentEpoch := attachmentEpoch
        companionEventEpoch := eventEpoch }
    authed := true
    requested := fun task =>
      match s.client.attachments task with
      | some attachment => if sent task then [attachment.generation] else []
      | none => [] }

/-- The epoch the frames for an attachment carry. -/
def epochFor (owner : ℕ) : Option ℕ :=
  if s.client.companionAttachmentEpoch then some owner else none

/-- The server starts a transfer in place of the task's last one. -/
def start (taskId : String) (transfer : CompanionTransfer serialize) : CompanionLink serialize :=
  { s with
    started := s.started + 1
    active := Function.update s.active taskId (some ⟨transfer, 0, transfer.start⟩) }

/-- The server sends the next chunk. -/
def emitChunk (taskId : String) (active : ActiveTransfer serialize)
    (frame : CompanionFrame) (rest : ActiveCompanionChunks) : CompanionLink serialize :=
  { s with
    wire := Function.update s.wire taskId
      (s.wire taskId ++ [.chunk active.transfer active.place frame])
    active := Function.update s.active taskId (some ⟨active.transfer, active.place + 1, rest⟩) }

/-- The client is given a chunk. -/
def receiveChunk (d : FrameDecoder) (s : CompanionLink serialize) (taskId : String)
    (transfer : CompanionTransfer serialize) (place : ℕ) (frame : CompanionFrame)
    (rest : List (WireItem serialize)) : CompanionLink serialize :=
  { s with
    client := s.client.handleFrame d frame
    wire := Function.update s.wire taskId rest
    last := Function.update s.last taskId (some (transfer, place))
    log :=
      if s.client.companionFrameMatchesAttachment transfer.start.attachmentEpoch
          (s.client.attachments taskId) then
        s.record taskId (.chunk transfer place)
      else s.log }

/-- The client is given a whole snapshot. -/
def receiveSnapshot (taskId : String) (attachmentEpoch : Option ℕ)
    (rest : List (WireItem serialize)) : CompanionLink serialize :=
  { s with
    client := s.client.handleSnapshot taskId attachmentEpoch none
    wire := Function.update s.wire taskId rest
    log :=
      if s.client.companionFrameMatchesAttachment attachmentEpoch
          (s.client.attachments taskId) then
        s.record taskId .reset
      else s.log }

/-- One move, if it is enabled. -/
def step (d : FrameDecoder) (s : CompanionLink serialize) :
    LinkMove → Option (CompanionLink serialize)
  | .attach taskId sent => some (s.attach taskId sent)
  | .detach taskId => some { s with client := s.client.detachCompanion taskId }
  | .connect attachmentEpoch eventEpoch sent =>
    if s.authed then none else some (s.connect attachmentEpoch eventEpoch sent)
  | .disconnect => some s.disconnect
  | .start taskId owner delivery =>
    match h : ActiveCompanionChunks.new serialize delivery with
    | none => none
    | some chunks =>
      if owner ∈ s.requested taskId ∧ chunks.attachmentEpoch = s.epochFor owner ∧
          chunks.taskId = taskId then
        some (s.start taskId ⟨s.started, owner, delivery, chunks, h⟩)
      else none
  | .emit taskId =>
    match s.active taskId with
    | none => none
    | some active =>
      match active.chunks.next with
      | none => some { s with active := Function.update s.active taskId none }
      | some (frame, rest) => some (s.emitChunk taskId active frame rest)
  | .abandon taskId => some { s with active := Function.update s.active taskId none }
  | .emitSnapshot taskId attachmentEpoch =>
    if s.authed then
      some { s with
        wire := Function.update s.wire taskId (s.wire taskId ++ [.snapshot attachmentEpoch]) }
    else none
  | .receive taskId =>
    match s.wire taskId with
    | [] => none
    | .chunk transfer place frame :: rest =>
      some (s.receiveChunk d taskId transfer place frame rest)
    | .snapshot attachmentEpoch :: rest => some (s.receiveSnapshot taskId attachmentEpoch rest)
  | .decode =>
    match s.client.decodeIngress with
    | [] => none
    | ingress :: rest =>
      let client := s.client.pumpDecodeIngress d ingress rest
      some { s with
        client
        log :=
          -- the snapshot has ended the assembly, if there was one
          if (client.companionChunkAssemblies ingress.companionChunkTaskId).isNone then
            s.record ingress.companionChunkTaskId .reset
          else s.log }
  | .decodeFailed =>
    match s.client.decodeIngress with
    | [] => none
    | ingress :: rest => some { s with client := s.client.decodeFailed ingress rest }
  | .setDecodeBytes bytes => some { s with client := { s.client with decodeIngressBytes := bytes } }

end CompanionLink

end Kanna
