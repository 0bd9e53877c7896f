import Mathlib.Algebra.Group.Nat.Defs
import Kanna.Lib.Durable
import Kanna.Lib.Run
import Kanna.Recovery.Service

/-!
# The recovery manager

`RecoveryManager` of `crates/daemon/src/recovery.rs`. Calls of the daemon become commands for the
worker that is installed in the manager's state; `ensure_sender` starts a new one if there is none
that can be used, and replays the tracked sessions to it before it is installed.

A call is a task with a program counter. Every section under the lock of the state, every message
that is sent, every reply that is taken and every wait is one step. The worker's task takes a
message from its queue, writes the command to the sidecar and replies; it may fail at any time.
-/

namespace Kanna.RecoveryManager

open Durable

/-- `RECOVERY_QUEUE_CAPACITY`. -/
def recoveryQueueCapacity : ℕ := 1024

/-- The size of a session's terminal. -/
structure SessionGeometry where
  cols : UInt16
  rows : UInt16

/-! ### `RestartRetry` -/

/-- The failed restarts in a row, and when the next one may be tried. -/
structure RestartRetry where
  attempts : ℕ
  nextAttemptAt : Option ℕ

namespace RestartRetry

/-- No restart has failed. -/
def new : RestartRetry := ⟨0, none⟩

/-- A restart may be tried now. -/
def due (retry : RestartRetry) (now : ℕ) : Bool := retry.nextAttemptAt.all (· ≤ now)

/-- `record_failure`, in milliseconds. -/
def recordFailure (retry : RestartRetry) (now : ℕ) : RestartRetry :=
  let attempts := min (retry.attempts + 1) (2 ^ 32 - 1)
  ⟨attempts, some (now + min (200 * 2 ^ min (attempts - 1) 8) 30000)⟩

end RestartRetry

/-! ### Calls -/

/-- The calls of the manager. -/
inductive Call where
  | startSession (sessionId : String) (geometry : SessionGeometry) (resumeFromDisk : Bool)
  | writeOutput (sessionId : String) (data : List UInt8) (sequence : UInt64)
  | resizeSession (sessionId : String) (geometry : SessionGeometry)
  | endSession (sessionId : String)
  | getSnapshot (sessionId : String)
  | flushAndShutdown

/-- The command that a call sends. -/
def Call.command : Call → RecoveryCommand
  | .startSession sessionId geometry resumeFromDisk =>
    .startSession sessionId geometry.cols geometry.rows resumeFromDisk
  | .writeOutput sessionId data sequence => .writeOutput sessionId data sequence
  | .resizeSession sessionId geometry => .resizeSession sessionId geometry.cols geometry.rows
  | .endSession sessionId => .endSession sessionId
  | .getSnapshot sessionId => .getSnapshot sessionId
  | .flushAndShutdown => .flushAndShutdown

/-- A request to a worker, with the number of the channel for its reply. -/
structure Request where
  ticket : ℕ
  worker : ℕ
  command : RecoveryCommand
  deriving DecidableEq

/-- What the worker's queue holds; a request has somebody waiting for its answer. -/
inductive WorkerMessage where
  | fireAndForget (command : RecoveryCommand)
  | request (request : Request)

/-- What is written to the sidecar for a message. -/
def WorkerMessage.command : WorkerMessage → RecoveryCommand
  | .fireAndForget command => command
  | .request sent => sent.command

/-- The error of a call. The source formats the argument of the last two into its message. -/
inductive Failure where
  | message (text : String)
  | unexpected (response : RecoveryResponse)
  | refused (sessionId : String)

/-- What comes after `cancel_and_wait`. -/
inductive After where
  /-- `ensure_sender` goes on with its copy of the tracked sessions -/
  | respawn (copy : List (String × SessionGeometry)) (due : Bool)
  | recordFailure
  /-- `ensure_sender` drops a worker it may not install any more -/
  | discard
  | invalidated (message : String)
  | flushed

/-- Where a call is. -/
inductive Phase where
  /-- before the section of `resize_session` or `end_session` -/
  | tracking
  /-- before the first section of `ensure_sender` -/
  | ensure
  /-- waits for the restart guard -/
  | restart
  /-- before the second section of `ensure_sender`; the guard is held from here on -/
  | guarded
  | cancel (w : ℕ) (after : After)
  | wait (w : ℕ) (after : After)
  | spawn (copy : List (String × SessionGeometry))
  /-- has still to replay the sessions of `copy`, or to install the worker -/
  | replay (w : ℕ) (copy : List (String × SessionGeometry))
  | replaying (request : Request) (sessionId : String) (copy : List (String × SessionGeometry))
  | recordFailure
  /-- has a worker; the guard is not held any more -/
  | send (w : ℕ)
  | await (request : Request)
  | invalidate (w : ℕ) (message : String)
  /-- waits for the restart guard -/
  | gate (w : ℕ) (message : String)
  /-- before the section of `invalidate_worker`, with the guard -/
  | clear (w : ℕ) (message : String)
  /-- before the section of `start_session`; the worker has acknowledged the session -/
  | started (w : ℕ)
  /-- before the first section of `flush_and_shutdown` -/
  | shutdown
  | flush (w : ℕ)
  | flushing (request : Request)
  | clearAll
  /-- the call is over; calls without a result return `ok` -/
  | returned (result : Except Failure RecoveryResponse)

/-- A call under way, and how often it has been tried. -/
structure Task where
  call : Call
  attempt : ℕ
  phase : Phase

namespace Task

/-- The call goes on. -/
def setPhase (task : Task) (phase : Phase) : Task := { task with phase := phase }

/-- `request` returns an error; `fire_and_forget` returns nothing. -/
def fail (task : Task) (message : String) : Task :=
  task.setPhase (.returned
    (if task.call.command.expectsResponse then .error (.message message) else .ok .ok))

/-- `ensure_sender` returns. -/
def ensured (task : Task) : Option ℕ → Task
  | some w => task.setPhase (.send w)
  | none => task.fail "recovery service is unavailable"

/-- `invalidate_worker` returns. -/
def retry (task : Task) (message : String) : Task :=
  if task.attempt = 0 then { task with attempt := 1, phase := .ensure } else task.fail message

/-- `request` returns a response. -/
def answered (task : Task) (w : ℕ) (response : RecoveryResponse) : Task :=
  match task.call with
  | .startSession .. =>
    match response with
    | .ok => task.setPhase (.started w)
    | .error message => task.setPhase (.returned (.error (.message message)))
    | other => task.setPhase (.returned (.error (.unexpected other)))
  | _ => task.setPhase (.returned (.ok response))

/-- A call is made. Without a launcher a snapshot is read from its file, which is also what
becomes of the answer `notFound`. -/
def begin (launcher : Bool) (call : Call) : Task :=
  let task : Task := ⟨call, 0, .ensure⟩
  let ignored := task.setPhase (.returned (.ok .ok))
  match call with
  | .startSession sessionId .. =>
    if !isSafe sessionId then task.setPhase (.returned (.error (.refused sessionId)))
    else if launcher then task else task.ensured none
  | .getSnapshot sessionId =>
    if !isSafe sessionId then task.setPhase (.returned (.error (.refused sessionId)))
    else if launcher then task else task.setPhase (.returned (.ok .notFound))
  | .writeOutput sessionId .. =>
    if !isSafe sessionId then ignored else if launcher then task else ignored
  | .resizeSession sessionId _ | .endSession sessionId =>
    if !isSafe sessionId then ignored else task.setPhase .tracking
  | .flushAndShutdown => task.setPhase .shutdown

end Task

/-! ### Workers -/

/-- `RecoveryWorker` with its task and its sidecar. -/
structure RecoveryWorker where
  /-- its token is cancelled -/
  cancelled : Bool
  /-- the loop of the task is left -/
  exiting : Bool
  /-- the receiver of the queue is closed -/
  closed : Bool
  /-- its task has ended -/
  stopped : Bool
  /-- the messages it has not taken -/
  queue : List WorkerMessage
  /-- the message that the task works on -/
  current : Option WorkerMessage
  /-- the commands that were written to the sidecar -/
  commands : List RecoveryCommand

namespace RecoveryWorker

/-- `spawn_worker`. -/
def spawned : RecoveryWorker := ⟨false, false, false, false, [], none, []⟩

variable (worker : RecoveryWorker)

/-- The worker's token is cancelled. -/
def cancel : RecoveryWorker := { worker with cancelled := true }

/-- A message is sent to the worker. -/
def push (message : WorkerMessage) (worker : RecoveryWorker) : RecoveryWorker :=
  { worker with queue := worker.queue ++ [message] }

/-- The task takes the next message. -/
def receive : RecoveryWorker :=
  match worker.queue with
  | [] => worker
  | message :: rest => { worker with queue := rest, current := some message }

/-- The task is done with a message. -/
def served (command : RecoveryCommand) (written exiting : Bool) : RecoveryWorker :=
  { worker with
    current := none
    exiting := worker.exiting || exiting
    commands := if written then worker.commands ++ [command] else worker.commands }

/-- The task closes its receiver and drops the messages that are left. -/
def close : RecoveryWorker :=
  { worker with exiting := true, closed := true, queue := [], current := none }

/-- The worker's task has ended. -/
def stop : RecoveryWorker := { worker with stopped := true }

end RecoveryWorker

/-- What the sidecar makes of a command. -/
inductive Outcome where
  /-- it is written, and a request is answered -/
  | answered (response : RecoveryResponse)
  /-- a pipe fails or the time is over, before or after it is written -/
  | failed (written : Bool) (message : String)

/-- The command had reached the sidecar. -/
def Outcome.written : Outcome → Bool
  | .answered _ => true
  | .failed written _ => written

/-- What the caller is told. -/
def Outcome.result : Outcome → Except String RecoveryResponse
  | .answered response => .ok response
  | .failed _ message => .error message

/-! ### The manager -/

/-- `RecoveryManager`, with its calls and workers. -/
structure Manager where
  /-- a sidecar can be started -/
  launcher : Bool
  /-- the worker in use -/
  sender : Option ℕ
  shutdownRequested : Bool
  /-- what a new sidecar is told to start -/
  trackedSessions : Records String SessionGeometry
  restartRetry : RestartRetry
  /-- the call that holds the restart guard -/
  restartGuard : Option ℕ
  workers : List RecoveryWorker
  calls : List Task
  /-- the requests so far -/
  tickets : ℕ
  /-- their answers -/
  replies : List (Request × Except String RecoveryResponse)
  /-- the sessions whose start succeeded and that were not ended since -/
  started : List String

/-- What a step reads from outside. -/
structure Env where
  now : ℕ
  /-- why the sidecar cannot be started -/
  spawnError : Option String
  /-- the tracked session that is replayed next -/
  pick : ℕ
  hasPersistedSnapshot : String → Bool

namespace Manager

/-- A manager that has not started a sidecar yet. -/
def new (launcher : Bool) : Manager :=
  ⟨launcher, none, false, ∅, .new, none, [], [], 0, [], []⟩

variable (s : Manager)

/-- What was written to the sidecar of a worker. -/
def commands (w : ℕ) : List RecoveryCommand :=
  (s.workers[w]?.map RecoveryWorker.commands).getD []

/-- Nothing can be sent to the worker. -/
def isClosed (w : ℕ) : Bool := s.workers[w]?.all RecoveryWorker.closed

/-- The worker's task has ended, or there was none. -/
def isStopped (w : ℕ) : Bool := s.workers[w]?.all RecoveryWorker.stopped

/-- The worker's queue is not full. -/
def hasRoom (w : ℕ) : Bool :=
  s.workers[w]?.any (·.queue.length < recoveryQueueCapacity)

/-- The installed worker, if it is neither closed nor cancelled. -/
def liveSender : Option ℕ :=
  s.sender.filter fun w => s.workers[w]?.any fun worker => !worker.closed && !worker.cancelled

/-- A call goes on. -/
def setTask (i : ℕ) (task : Task) : Manager := { s with calls := s.calls.set i task }

/-- The workers have changed. -/
def setWorkers (workers : List RecoveryWorker) : Manager :=
  { s with workers := workers }

/-- The tracked sessions have changed. -/
def setTracked (trackedSessions : Records String SessionGeometry) : Manager :=
  { s with trackedSessions := trackedSessions }

/-- Another worker is sent to, or none. -/
def setSender (sender : Option ℕ) : Manager := { s with sender := sender }

/-- The restart guard is taken or released. -/
def setGuard (restartGuard : Option ℕ) : Manager :=
  { s with restartGuard := restartGuard }

/-- The record of failed restarts has changed. -/
def setRetry (restartRetry : RestartRetry) : Manager :=
  { s with restartRetry := restartRetry }

/-- A worker has changed. -/
def modify (w : ℕ) (f : RecoveryWorker → RecoveryWorker) : Manager :=
  s.setWorkers (s.workers.modify w f)

/-- A request is sent to a worker, with a new channel for its reply. -/
def sendRequest (request : Request) : Manager :=
  { s.modify request.worker (RecoveryWorker.push (.request request)) with tickets := s.tickets + 1 }

/-- What came of a request. If the worker dropped the channel of the reply, it is the error
`dropped`. -/
def outcome (request : Request) (dropped : String) : Option (Except String RecoveryResponse) :=
  match s.replies.lookup request with
  | some result => some result
  | none => if s.isClosed request.worker then some (.error dropped) else none

/-- `cancel_and_wait` is over. -/
def resume (i : ℕ) (task : Task) : After → Manager
  | .respawn copy true => s.setTask i (task.setPhase (.spawn copy))
  | .respawn _ false => (s.setGuard none).setTask i (task.ensured none)
  | .recordFailure => s.setTask i (task.setPhase .recordFailure)
  | .discard => (s.setGuard none).setTask i (task.ensured none)
  | .invalidated message => (s.setGuard none).setTask i (task.retry message)
  | .flushed => s.setTask i (task.setPhase .clearAll)

/-- The second section of `ensure_sender`. -/
def takeStale (i : ℕ) (task : Task) (now : ℕ) : Manager :=
  if s.shutdownRequested then (s.setGuard none).setTask i (task.ensured none)
  else
    match s.liveSender with
    | some w => (s.setGuard none).setTask i (task.ensured (some w))
    | none =>
      let copy := s.trackedSessions.entries.map fun entry => (entry.1, entry.2)
      let after := After.respawn copy (s.restartRetry.due now)
      match s.sender with
      | some w => (s.setSender none).setTask i (task.setPhase (.cancel w after))
      | none => s.resume i task after

/-- `replay_session` sends its request, or the worker is installed. -/
def replayNext (i : ℕ) (task : Task) (w : ℕ)
    (copy : List (String × SessionGeometry)) (env : Env) : Option Manager :=
  match copy with
  | [] =>
    if s.shutdownRequested then some (s.setTask i (task.setPhase (.cancel w .discard)))
    else
      some ((((s.setRetry .new).setSender (some w)).setGuard none).setTask i
        (task.ensured (some w)))
  | _ :: _ =>
    match copy[env.pick]? with
    | none => none
    | some (sessionId, geometry) =>
      if s.isClosed w then some (s.setTask i (task.setPhase (.cancel w .recordFailure)))
      else if s.hasRoom w then
        let request : Request := ⟨s.tickets, w, .startSession sessionId geometry.cols geometry.rows
          (env.hasPersistedSnapshot sessionId)⟩
        some ((s.sendRequest request).setTask i
          (task.setPhase (.replaying request sessionId (copy.eraseIdx env.pick))))
      else none

/-- The section of `resize_session` and the one of `end_session`. -/
def track (i : ℕ) (task : Task) : Option Manager :=
  let next := if s.launcher then task.setPhase .ensure else task.ensured none
  match task.call with
  | .resizeSession sessionId geometry =>
    some ((s.setTracked (s.trackedSessions.insert sessionId geometry)).setTask i next)
  | .endSession sessionId =>
    some (({ s with started := s.started.filter (· ≠ sessionId) }.setTracked
      (s.trackedSessions.erase sessionId)).setTask i next)
  | _ => none

/-- The section of `start_session`. -/
def trackStarted (i : ℕ) (task : Task) : Option Manager :=
  match task.call with
  | .startSession sessionId geometry _ =>
    some (({ s with started := sessionId :: s.started }.setTracked
      (s.trackedSessions.insert sessionId geometry)).setTask i
        (task.setPhase (.returned (.ok .ok))))
  | _ => none

/-- `request` and `fire_and_forget` send the command. -/
def sendCommand (i : ℕ) (task : Task) (w : ℕ) : Option Manager :=
  let command := task.call.command
  if s.isClosed w then
    some (s.setTask i (task.setPhase (.invalidate w "recovery worker stopped before request send")))
  else if command.expectsResponse then
    if s.hasRoom w then
      let request : Request := ⟨s.tickets, w, command⟩
      some ((s.sendRequest request).setTask i (task.setPhase (.await request)))
    else none
  else
    let returned := task.setPhase (.returned (.ok .ok))
    -- a full queue drops the command
    if s.hasRoom w then
      some ((s.modify w (RecoveryWorker.push (.fireAndForget command))).setTask i returned)
    else some (s.setTask i returned)

/-- The next step of a call. One that has to wait has none. -/
def advance (i : ℕ) (task : Task) (env : Env) : Option Manager :=
  match task.phase with
  | .tracking => s.track i task
  | .ensure =>
    if s.shutdownRequested then some (s.setTask i (task.ensured none))
    else
      match s.liveSender with
      | some w => some (s.setTask i (task.ensured (some w)))
      | none => some (s.setTask i (task.setPhase .restart))
  | .restart =>
    if s.restartGuard.isNone then
      some ((s.setGuard (some i)).setTask i (task.setPhase .guarded))
    else none
  | .guarded => some (s.takeStale i task env.now)
  | .cancel w after =>
    some ((s.modify w RecoveryWorker.cancel).setTask i (task.setPhase (.wait w after)))
  | .wait w after => if s.isStopped w then some (s.resume i task after) else none
  | .spawn copy =>
    match env.spawnError with
    | some _ => some (s.setTask i (task.setPhase .recordFailure))
    | none =>
      some ((s.setWorkers (s.workers ++ [.spawned])).setTask i
        (task.setPhase (.replay s.workers.length copy)))
  | .replay w copy => s.replayNext i task w copy env
  | .replaying request _ copy =>
    match s.outcome request "recovery worker stopped before replay response" with
    | none => none
    | some (.ok .ok) => some (s.setTask i (task.setPhase (.replay request.worker copy)))
    | some _ => some (s.setTask i (task.setPhase (.cancel request.worker .recordFailure)))
  | .recordFailure =>
    some (((s.setRetry (s.restartRetry.recordFailure env.now)).setGuard none).setTask i
      (task.ensured none))
  | .send w => s.sendCommand i task w
  | .await request =>
    match s.outcome request "recovery worker stopped before reply" with
    | none => none
    | some (.ok response) => some (s.setTask i (task.answered request.worker response))
    | some (.error message) =>
      some (s.setTask i (task.setPhase (.invalidate request.worker message)))
  | .invalidate w message =>
    some ((s.modify w RecoveryWorker.cancel).setTask i (task.setPhase (.gate w message)))
  | .gate w message =>
    if s.restartGuard.isNone then
      some ((s.setGuard (some i)).setTask i (task.setPhase (.clear w message)))
    else none
  | .clear w message =>
    let cleared := if s.sender = some w then s.setSender none else s
    some (cleared.setTask i (task.setPhase (.cancel w (.invalidated message))))
  | .started _ => s.trackStarted i task
  | .shutdown =>
    let next := match s.sender with
      | some w => task.setPhase (.flush w)
      | none => task.setPhase .clearAll
    some (({ s with shutdownRequested := true }.setSender none).setTask i next)
  | .flush w =>
    if s.isClosed w then some (s.setTask i (task.setPhase (.cancel w .flushed)))
    else if s.hasRoom w then
      let request : Request := ⟨s.tickets, w, .flushAndShutdown⟩
      some ((s.sendRequest request).setTask i (task.setPhase (.flushing request)))
    else none
  | .flushing request =>
    match s.outcome request "recovery worker stopped before shutdown reply" with
    | none => none
    | some (.ok _) => some (s.setTask i (task.setPhase (.wait request.worker .flushed)))
    | some (.error _) => some (s.setTask i (task.setPhase (.cancel request.worker .flushed)))
  | .clearAll => some ((s.setTracked ∅).setTask i (task.setPhase (.returned (.ok .ok))))
  | .returned _ => none

/-- A call that waits for a reply gives up. -/
def timeout (i : ℕ) (task : Task) : Option Manager :=
  match task.phase with
  | .replaying request _ _ =>
    some (s.setTask i (task.setPhase (.cancel request.worker .recordFailure)))
  | .await request =>
    some (s.setTask i (task.setPhase
      (.invalidate request.worker "recovery worker did not reply in time")))
  | .flushing request => some (s.setTask i (task.setPhase (.cancel request.worker .flushed)))
  | _ => none

/-- The task of a worker is done with its message. It leaves its loop after a failure and after
`FlushAndShutdown`. -/
def serve (w : ℕ) (outcome : Outcome) : Option Manager :=
  match s.workers[w]?.bind RecoveryWorker.current with
  | none => none
  | some message =>
    let exiting := !outcome.result.isOk || message.command = .flushAndShutdown
    let next := s.modify w (·.served message.command outcome.written exiting)
    match message with
    | .fireAndForget _ => some next
    | .request request => some { next with replies := (request, outcome.result) :: s.replies }

end Manager

/-! ### Moves -/

/-- What can happen: a call begins, goes on or times out, and a worker takes a message, serves
it, closes or stops. -/
inductive Move where
  | begin (call : Call)
  | advance (i : ℕ) (env : Env)
  | timeout (i : ℕ)
  | receive (w : ℕ)
  | serve (w : ℕ) (outcome : Outcome)
  /-- the worker is cancelled, or it fails -/
  | close (w : ℕ)
  | stop (w : ℕ)

/-- One move, if it is enabled. -/
def step (s : Manager) : Move → Option Manager
  | .begin call => some { s with calls := s.calls ++ [.begin s.launcher call] }
  | .advance i env => s.calls[i]?.bind fun task => s.advance i task env
  | .timeout i => s.calls[i]?.bind fun task => s.timeout i task
  | .receive w =>
    if s.workers[w]?.any fun worker => !worker.exiting && worker.current.isNone then
      some (s.modify w RecoveryWorker.receive)
    else none
  | .serve w outcome => s.serve w outcome
  | .close w => some (s.modify w RecoveryWorker.close)
  | .stop w => if s.isClosed w then some (s.modify w RecoveryWorker.stop) else none

end Kanna.RecoveryManager
