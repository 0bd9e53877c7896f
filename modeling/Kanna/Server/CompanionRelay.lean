import Kanna.Lib.Charges
import Kanna.Lib.Run
import Kanna.Server.CompanionFrames

/-!
# The companion relay

`crates/kanna-server/src/ksp.rs`: every connection keeps at most one pending companion
frame for each task (`CompanionFrameState`), in a map and in the order of a queue, and
`OutboundFrameReceiver::recv` takes them from there. Attachments of a task are told apart
by a generation; a frame is charged to a budget that all connections share, from its
reservation until it is dropped.

`publish_shared` holds its connection's mutex while it replaces the pending frame, but
the budget is an atomic that other connections reserve from in between. So here a mutex
section without a reservation is one step, and each reservation is one: a call of
`publish_shared` that is under way is kept in `publishing`, and nothing else that needs
the mutex can move until it is done. The receiver's steps are the turns of `recv`'s loop;
a snapshot is serialized in the background (`prepare`).

A connection's step is `CompanionConnection.step`, which also moves the shared counter;
`CompanionRelay.step` runs any finite number of connections.

What holds along its runs is in `CompanionQueue`, for the queue and the map, and in
`CompanionBudget`, for the frames that `recv` returns and the budget.
-/

namespace Kanna

/-- `MAX_RELAY_COMPANION_PENDING_BYTES`: 64 MiB. -/
def maxRelayCompanionPendingBytes : ℕ := 67108864

/-- `MAX_ORDINARY_FRAMES_BEFORE_COMPANION`. -/
def maxOrdinaryFramesBeforeCompanion : ℕ := 32

/-- `reserve_relay_pending_bytes`: the counter after a reservation, if it fits. -/
def reserveRelayPendingBytes (total bytes : ℕ) : Option ℕ :=
  if maxRelayCompanionPendingBytes < min (total + bytes) 18446744073709551615 then none
  else some (total + bytes)

theorem reserve_eq_some {total bytes after : ℕ}
    (h : reserveRelayPendingBytes total bytes = some after) :
    after = total + bytes ∧ after ≤ maxRelayCompanionPendingBytes := by
  rw [reserveRelayPendingBytes, maxRelayCompanionPendingBytes] at *
  split_ifs at h
  cases h
  omega

/-- `CompanionAttachmentSender`: what an attachment knows about itself. -/
structure CompanionAttachmentSender where
  taskId : String
  generation : ℕ
  includeAssets : Bool
  acceptSnapshotChunks : Bool
  attachmentEpoch : Option ℕ
  deriving DecidableEq

/-- The pending frames by task. -/
abbrev PendingFrames := AList fun _ : String => PendingCompanionFrame

/-- `CompanionFrameState`. -/
structure CompanionFrameState where
  /-- the newest frame of each task -/
  pending : PendingFrames
  /-- the tasks in the order of their turn -/
  ready : List String
  /-- the current generation of each task -/
  generations : String → Option ℕ

namespace CompanionFrameState

/-- The generation after `current`: a `u64` that wraps and skips zero. -/
def nextGeneration (current : Option ℕ) : ℕ :=
  if (current.getD 0 + 1) % 18446744073709551616 = 0 then 1
  else (current.getD 0 + 1) % 18446744073709551616

/-- `CompanionFrameState::invalidate`, without the generation it returns. -/
def invalidate (state : CompanionFrameState) (taskId : String) : CompanionFrameState where
  pending := state.pending.erase taskId
  ready := state.ready.filter fun queuedTask => queuedTask ≠ taskId
  generations :=
    Function.update state.generations taskId (some (nextGeneration (state.generations taskId)))

/-- The loop of `take_companion`: the first queued task that has a frame. -/
def takeReady (pending : PendingFrames) :
    List String → Option PendingCompanionFrame × List String × PendingFrames
  | [] => (none, [], pending)
  | task :: ready =>
    match pending.lookup task with
    | some frame => (some frame, ready, pending.erase task)
    | none => takeReady pending ready

/-- `take_companion`. -/
def takeCompanion (state : CompanionFrameState) :
    Option PendingCompanionFrame × CompanionFrameState :=
  let (frame, ready, pending) := takeReady state.pending state.ready
  (frame, { state with ready, pending })

end CompanionFrameState

/-- A call of `publish_shared` that holds the mutex. -/
inductive Publishing where
  /-- the pending frame is gone; about to reserve for the new one -/
  | reserving (sender : CompanionAttachmentSender) (wasPending : Bool) (frame : CompanionFrame)
  /-- that failed; about to reserve for an error frame -/
  | reservingError (sender : CompanionAttachmentSender) (wasPending : Bool)
  /-- about to queue and insert a frame that is paid for -/
  | inserting (sender : CompanionAttachmentSender) (wasPending : Bool) (frame : CompanionFrame)
      (retainedBytes : ℕ)

namespace Publishing

/-- Whose call it is. -/
def sender : Publishing → CompanionAttachmentSender
  | .reserving sender _ _ => sender
  | .reservingError sender _ => sender
  | .inserting sender _ _ _ => sender

/-- Whether it took a pending frame away. -/
def wasPending : Publishing → Bool
  | .reserving _ wasPending _ => wasPending
  | .reservingError _ wasPending => wasPending
  | .inserting _ wasPending _ _ => wasPending

/-- What it has reserved. -/
def reserved : Publishing → ℕ
  | .inserting _ _ _ retainedBytes => retainedBytes
  | _ => 0

end Publishing

/-- The frame a task gets when the budget is exhausted. -/
def resourceLimitFrame (sender : CompanionAttachmentSender) : CompanionFrame :=
  .companionError sender.taskId "companion_resource_limit"
    "Visual companion relay resources are busy. Reopen the companion." sender.attachmentEpoch

/-- `PreparedCompanion`. -/
inductive PreparedCompanion where
  | chunks (active : ActiveCompanionChunks)
  | frame (frame : CompanionFrame) (delivery : PendingCompanionFrame)

/-- The pending frame a prepared one came from. -/
def PreparedCompanion.delivery : PreparedCompanion → PendingCompanionFrame
  | .chunks active => active.delivery
  | .frame _ delivery => delivery

/-- The background task: serialize a snapshot for a client that takes chunks, stamp
anything else. -/
def prepareCompanion (serialize : CompanionFrame → Option (List Char))
    (delivery : PendingCompanionFrame) : Option PreparedCompanion :=
  if delivery.acceptSnapshotChunks && delivery.frame.isSnapshot then
    (ActiveCompanionChunks.new serialize delivery).map .chunks
  else
    some (.frame (stampCompanionAttachmentEpoch delivery.frame delivery.attachmentEpoch) delivery)

/-- The background task, under way or done; serializing may fail. -/
inductive Preparation where
  | running (delivery : PendingCompanionFrame)
  | finished (prepared : Option PreparedCompanion)

/-- The pending frame a background task keeps alive. -/
def Preparation.held : Preparation → Option PendingCompanionFrame
  | .running delivery => some delivery
  | .finished prepared => prepared.map PreparedCompanion.delivery

/-- `OutboundFrameReceiver`, as far as companion frames are concerned. -/
structure OutboundFrameReceiver where
  /-- a call of `recv` is under way -/
  receiving : Bool
  /-- the receiver was dropped -/
  closed : Bool
  /-- the ordinary frames since the last companion frame -/
  ordinaryBurst : ℕ
  /-- the snapshot that is sent in chunks -/
  activeCompanion : Option ActiveCompanionChunks
  /-- the frame returned last, charged until the next call -/
  deliveringCompanion : Option PendingCompanionFrame
  /-- the background task -/
  preparingCompanion : Option Preparation

/-- A companion frame that `recv` returned, for which task and generation, and what the
task's generation was when that was checked. -/
structure Returned where
  frame : CompanionFrame
  taskId : String
  generation : ℕ
  current : Option ℕ

/-- One connection. -/
structure CompanionConnection where
  state : CompanionFrameState
  /-- the call of `publish_shared` that holds the mutex -/
  publishing : Option Publishing
  /-- the attachments handed out -/
  attachments : List CompanionAttachmentSender
  receiver : OutboundFrameReceiver
  /-- the companion frames returned so far -/
  returned : List Returned

/-- What moves on a connection. -/
inductive CompanionMove where
  | attach (taskId : String) (includeAssets acceptSnapshotChunks : Bool)
      (attachmentEpoch : Option ℕ)
  | invalidate (taskId : String)
  /-- `publish_shared`, in steps -/
  | publish (sender : CompanionAttachmentSender) (frame : CompanionFrame)
  | reserve
  | reserveError
  | insert
  /-- `recv`, in steps -/
  | recv
  | recvOrdinary
  | recvActive
  | recvPrepared
  | recvTake
  | recvCancelled
  /-- the background task ends -/
  | prepare
  /-- the receiver is dropped, and then the state -/
  | closeReceiver
  | dropState

namespace CompanionConnection

/-- What a pending frame is charged for. -/
abbrev bytesOf (frame : Option PendingCompanionFrame) : ℕ :=
  optionCharge PendingCompanionFrame.retainedBytes frame

/-- What the frames in the map are charged for. -/
abbrev pendingBytesOf (pending : PendingFrames) : ℕ :=
  mapCharge PendingCompanionFrame.retainedBytes pending

/-- A connection nobody has used yet. -/
def fresh : CompanionConnection where
  state := ⟨∅, [], fun _ => none⟩
  publishing := none
  attachments := []
  receiver := ⟨false, false, 0, none, none, none⟩
  returned := []

variable (c : CompanionConnection)

/-- `attachment_with_epoch`: a new generation, and its sender. The old pending frame is
dropped. -/
def attach (total : ℕ) (taskId : String)
    (includeAssets acceptSnapshotChunks : Bool) (attachmentEpoch : Option ℕ) :
    CompanionConnection × ℕ :=
  let sender : CompanionAttachmentSender :=
    { taskId
      generation := CompanionFrameState.nextGeneration (c.state.generations taskId)
      includeAssets
      acceptSnapshotChunks
      attachmentEpoch }
  ({ c with state := c.state.invalidate taskId, attachments := sender :: c.attachments },
    total - bytesOf (c.state.pending.lookup taskId))

/-- `publish_shared` up to its first reservation. -/
def publish (total : ℕ) (sender : CompanionAttachmentSender)
    (frame : CompanionFrame) : CompanionConnection × ℕ :=
  if c.state.generations sender.taskId = some sender.generation then
    ({ c with
        state := { c.state with pending := c.state.pending.erase sender.taskId }
        publishing := some (.reserving sender (c.state.pending.lookup sender.taskId).isSome
          (companionFrameForAttachment frame sender.includeAssets)) },
      total - bytesOf (c.state.pending.lookup sender.taskId))
  else (c, total)

/-- A reservation of `publish_shared`: the frame is paid for, or the call goes on with
`otherwise`. -/
def pay (total : ℕ) (sender : CompanionAttachmentSender)
    (wasPending : Bool) (frame : CompanionFrame) (otherwise : Option Publishing) :
    CompanionConnection × ℕ :=
  match reserveRelayPendingBytes total (companionFrameRetainedBytes frame) with
  | some after =>
    ({ c with
        publishing :=
          some (.inserting sender wasPending frame (companionFrameRetainedBytes frame)) }, after)
  | none => ({ c with publishing := otherwise }, total)

/-- `publish_shared` reserves for the frame. -/
def reserve (total : ℕ) (sender : CompanionAttachmentSender)
    (wasPending : Bool) (frame : CompanionFrame) : CompanionConnection × ℕ :=
  c.pay total sender wasPending frame (some (.reservingError sender wasPending))

/-- `publish_shared` reserves for an error frame, or gives up. -/
def reserveError (total : ℕ) (sender : CompanionAttachmentSender)
    (wasPending : Bool) : CompanionConnection × ℕ :=
  c.pay total sender wasPending (resourceLimitFrame sender) none

/-- `publish_shared` queues the task, unless it was queued, and inserts the frame. -/
def insert (sender : CompanionAttachmentSender) (wasPending : Bool)
    (frame : CompanionFrame) (retainedBytes : ℕ) : CompanionConnection :=
  { c with
    state :=
      { c.state with
        ready := if wasPending then c.state.ready else c.state.ready ++ [sender.taskId]
        pending := c.state.pending.insert sender.taskId
          { frame
            taskId := sender.taskId
            generation := sender.generation
            attachmentEpoch := sender.attachmentEpoch
            acceptSnapshotChunks := sender.acceptSnapshotChunks
            retainedBytes } }
    publishing := none }

/-- `recv` returns a companion frame of `delivery`, whose generation it just checked. -/
def giveBack (receiver : OutboundFrameReceiver) (frame : CompanionFrame)
    (delivery : PendingCompanionFrame) : CompanionConnection :=
  { c with
    receiver := { receiver with receiving := false, ordinaryBurst := 0 }
    returned :=
      ⟨frame, delivery.taskId, delivery.generation, c.state.generations delivery.taskId⟩ ::
        c.returned }

/-- `generation_is_current`. -/
def generationIsCurrent (delivery : PendingCompanionFrame) : Bool :=
  c.state.generations delivery.taskId = some delivery.generation

/-- The turn of `recv` with an active chunk stream: a stale one is dropped, an exhausted
one too. -/
def recvActive (total : ℕ) (active : ActiveCompanionChunks) : CompanionConnection × ℕ :=
  if c.generationIsCurrent active.delivery then
    match active.next with
    | some (frame, rest) =>
      (c.giveBack { c.receiver with activeCompanion := some rest } frame active.delivery, total)
    | none =>
      ({ c with receiver := { c.receiver with activeCompanion := none } },
        total - active.delivery.retainedBytes)
  else
    ({ c with receiver := { c.receiver with activeCompanion := none } },
      total - active.delivery.retainedBytes)

/-- The turn of `recv` with a finished preparation. -/
def recvPrepared (total : ℕ) :
    Option PreparedCompanion → CompanionConnection × ℕ
  | some (.chunks active) =>
    if c.generationIsCurrent active.delivery then
      ({ c with
          receiver :=
            { c.receiver with preparingCompanion := none, activeCompanion := some active } },
        total)
    else
      ({ c with receiver := { c.receiver with preparingCompanion := none } },
        total - active.delivery.retainedBytes)
  | some (.frame frame delivery) =>
    if c.generationIsCurrent delivery then
      (c.giveBack { c.receiver with
          preparingCompanion := none
          deliveringCompanion := some delivery } frame delivery,
        total)
    else
      ({ c with receiver := { c.receiver with preparingCompanion := none } },
        total - delivery.retainedBytes)
  | none => ({ c with receiver := { c.receiver with preparingCompanion := none } }, total)

/-- The turn of `recv` that takes the next pending frame, if there is one. -/
def recvTake : CompanionConnection :=
  match c.state.takeCompanion with
  | (some delivery, state) =>
    { c with
      state
      receiver := { c.receiver with preparingCompanion := some (.running delivery) } }
  | (none, state) => { c with state }

/-- The background task ends. What it prepared for a dropped receiver goes with it. -/
def prepare (serialize : CompanionFrame → Option (List Char)) (c : CompanionConnection) (total : ℕ)
    (delivery : PendingCompanionFrame) : CompanionConnection × ℕ :=
  let prepared := if c.receiver.closed then none else prepareCompanion serialize delivery
  ({ c with
      receiver :=
        { c.receiver with
          preparingCompanion := if c.receiver.closed then none else some (.finished prepared) } },
    if prepared.isSome then total else total - delivery.retainedBytes)

/-- The receiver is dropped with what it holds, but a background task that is under way
goes on. -/
def closeReceiver (total : ℕ) : CompanionConnection × ℕ :=
  let detached := match c.receiver.preparingCompanion with
    | some (.running delivery) => some (.running delivery)
    | _ => none
  ({ c with
      receiver :=
        { c.receiver with
          receiving := false
          closed := true
          activeCompanion := none
          deliveringCompanion := none
          preparingCompanion := detached } },
    total - (bytesOf (c.receiver.activeCompanion.map ActiveCompanionChunks.delivery) +
      bytesOf c.receiver.deliveringCompanion +
      (bytesOf (c.receiver.preparingCompanion.bind Preparation.held) -
        bytesOf (detached.bind Preparation.held))))

/-- One move on a connection, if it is enabled: the connection and the shared counter
after it. What needs the mutex waits for a call of `publish_shared`. -/
def step (serialize : CompanionFrame → Option (List Char)) (c : CompanionConnection) (total : ℕ) :
    CompanionMove → Option (CompanionConnection × ℕ)
  | .attach taskId includeAssets acceptSnapshotChunks attachmentEpoch =>
    if c.publishing.isSome then none
    else some (c.attach total taskId includeAssets acceptSnapshotChunks attachmentEpoch)
  | .invalidate taskId =>
    if c.publishing.isSome then none
    else some ({ c with state := c.state.invalidate taskId },
      total - bytesOf (c.state.pending.lookup taskId))
  | .publish sender frame =>
    if c.publishing.isSome ∨ sender ∉ c.attachments then none
    else some (c.publish total sender frame)
  | .reserve =>
    match c.publishing with
    | some (.reserving sender wasPending frame) => some (c.reserve total sender wasPending frame)
    | _ => none
  | .reserveError =>
    match c.publishing with
    | some (.reservingError sender wasPending) => some (c.reserveError total sender wasPending)
    | _ => none
  | .insert =>
    match c.publishing with
    | some (.inserting sender wasPending frame bytes) =>
      some (c.insert sender wasPending frame bytes, total)
    | _ => none
  | .recv =>
    if c.receiver.receiving || c.receiver.closed then none
    else some ({ c with
        receiver := { c.receiver with receiving := true, deliveringCompanion := none } },
      total - bytesOf c.receiver.deliveringCompanion)
  | .recvOrdinary =>
    if c.receiver.receiving ∧ (c.receiver.ordinaryBurst < maxOrdinaryFramesBeforeCompanion ∨
        (c.receiver.activeCompanion.isNone ∧ c.receiver.preparingCompanion.isNone)) then
      some ({ c with
          receiver :=
            { c.receiver with
              receiving := false
              ordinaryBurst := c.receiver.ordinaryBurst + 1 } },
        total)
    else none
  | .recvActive =>
    match c.publishing, c.receiver.receiving, c.receiver.activeCompanion with
    | none, true, some active => some (c.recvActive total active)
    | _, _, _ => none
  | .recvPrepared =>
    match c.publishing, c.receiver.receiving, c.receiver.activeCompanion,
      c.receiver.preparingCompanion with
    | none, true, none, some (.finished prepared) => some (c.recvPrepared total prepared)
    | _, _, _, _ => none
  | .recvTake =>
    match c.publishing, c.receiver.receiving, c.receiver.activeCompanion,
      c.receiver.preparingCompanion with
    | none, true, none, none => some (c.recvTake, total)
    | _, _, _, _ => none
  | .recvCancelled =>
    if c.receiver.receiving then
      some ({ c with receiver := { c.receiver with receiving := false } }, total)
    else none
  | .prepare =>
    match c.receiver.preparingCompanion with
    | some (.running delivery) => some (c.prepare serialize total delivery)
    | _ => none
  | .closeReceiver => if c.receiver.closed then none else some (c.closeReceiver total)
  | .dropState =>
    if c.publishing.isSome || !c.receiver.closed then none
    else some ({ c with state := { c.state with pending := ∅, ready := [] } },
      total - pendingBytesOf c.state.pending)

end CompanionConnection

/-- The connections that share a budget. -/
structure CompanionRelay (ι : Type) where
  conns : ι → CompanionConnection
  /-- `pending_bytes` -/
  pendingBytes : ℕ

namespace CompanionRelay

variable {ι : Type} [DecidableEq ι]

/-- Nobody has connected yet. -/
def fresh : CompanionRelay ι := ⟨fun _ => .fresh, 0⟩

/-- A move on one of the connections. -/
def step (serialize : CompanionFrame → Option (List Char)) (s : CompanionRelay ι)
    (move : ι × CompanionMove) : Option (CompanionRelay ι) :=
  ((s.conns move.1).step serialize s.pendingBytes move.2).map fun (c, total) =>
    ⟨Function.update s.conns move.1 c, total⟩

end CompanionRelay

end Kanna
