import Kanna.Lib.Base64
import Kanna.Daemon.Segments
import Kanna.Server.OutputRing

/-!
# A session tap and a windowed client

`crates/kanna-server/src/ksp.rs` keeps one tap per session: the last snapshot cut to a
window, and a ring of the output after it. `stream_terminal_windowed` sends a client
the window and the output; `packages/stream-client/src/index.ts` counts the bytes it was
sent, and presents the count when it attaches again.

* `TapShared` — the state of the tap, and `attach`, which decides what a client needs.
* `TermClient` — the client's side: the position it tracks and what it has applied.
* `TapTask` — where the task that serves the client stands.
* `WindowedStream` — tap, task, queue of frames and client, with one step for each
  locked section of the tap and each await of the task. Two fields are history: all
  ids minted, and the bytes published under each stream id.
-/

namespace Kanna

universe u

/-- `status_str`. -/
def statusStr : SessionStatus → String
  | .busy => "busy"
  | .waiting => "waiting"
  | .idle => "idle"

/-- A snapshot of the daemon, as far as the tap reads it. -/
structure TerminalSnapshot where
  vt : String
  cols : UInt16
  rows : UInt16

/-- The snapshot a tap offers, and the scrollback it kept back. `A` is the type of
agent providers. -/
structure TapBase (A : Type u) : Type u where
  historyId : ℕ
  cols : UInt16
  rows : UInt16
  agentProvider : Option A
  window : String
  history : List String

/-- The state of a tap. -/
structure TapShared (A : Type u) : Type u where
  /-- an offset means something only together with this id -/
  streamId : ℕ
  /-- none before a snapshot and after an invalidation -/
  base : Option (TapBase A)
  /-- offset the base is valid at -/
  baseOffset : ℕ
  ring : OutputRing
  status : Option SessionStatus

/-- What a tap tells its subscribers. -/
inductive TapEvent where
  | output (data : List UInt8)
  /-- a new base replaced the old one -/
  | snapshot
  | status (status : SessionStatus)
  | exit (code : Int)
  | failed (code message : String)
  deriving DecidableEq

/-- The position a client presents. -/
structure TermResumePosition where
  streamId : ℕ
  offset : ℕ
  deriving DecidableEq

/-- What a subscriber should send its client. -/
inductive TapAttach (A : Type u) : Type u where
  /-- no snapshot yet -/
  | notReady
  /-- the ring does not reach back to the base, or too far -/
  | needsRestart
  | fresh (streamId offset : ℕ) (base : TapBase A) (replay : List (List UInt8))
      (status : Option SessionStatus)
  | resumed (streamId offset : ℕ) (base : TapBase A) (replay : List (List UInt8))
      (status : Option SessionStatus)

/-- The frames a windowed client is sent. -/
inductive ServerFrame (A : Type u) : Type u where
  | termSnapshot (cols rows : UInt16) (dataB64 : String) (agentProvider : Option A)
      (streamId streamOffset historyId scrollbackLines : Option ℕ)
  | termResumed (streamId offset : ℕ) (cols rows : UInt16) (agentProvider : Option A)
      (historyId scrollbackLines : Option ℕ)
  | termOutput (dataB64 : String)
  | statusChanged (status : String)
  | sessionExit (code : Int)
  | error (code message : String)

variable {A : Type u}

/-- `b64`. -/
def b64 (data : List UInt8) : String := String.ofList (Base64.encode data)

/-! ## The tap -/

/-- `TERMINAL_RING_MAX_BYTES`. -/
def terminalRingMaxBytes : ℕ := 512 * 1024

/-- `TERMINAL_FRESH_ATTACH_REPLAY_MAX_BYTES`. -/
def terminalFreshAttachReplayMaxBytes : ℕ := 16 * 1024

/-- `TERMINAL_TAP_BROADCAST_CAPACITY`. -/
def terminalTapBroadcastCapacity : ℕ := 512

/-- `next_terminal_tap_id`: the id of a process for its `n`-th request. -/
def terminalTapId (base n : ℕ) : ℕ := base + n % 2 ^ 24

namespace TapShared

/-- A client without a usable position gets the base and what followed, unless that
is not held any more or is too much. -/
def attachFresh (shared : TapShared A) (base : TapBase A) : TapAttach A :=
  match shared.ring.replayFrom shared.baseOffset with
  | none => .needsRestart
  | some replay =>
    if terminalFreshAttachReplayMaxBytes <
        replay.foldl (fun total chunk => total + chunk.length) 0 then .needsRestart
    else .fresh shared.streamId shared.baseOffset base replay shared.status

/-- `TerminalTap::attach`. -/
def attach (shared : TapShared A) (resume : Option TermResumePosition) : TapAttach A :=
  match shared.base with
  | none => .notReady
  | some base =>
    match resume with
    | none => shared.attachFresh base
    | some position =>
      if position.streamId = shared.streamId then
        match shared.ring.replayFrom position.offset with
        | some replay => .resumed shared.streamId position.offset base replay shared.status
        | none => shared.attachFresh base
      else shared.attachFresh base

end TapShared

/-! ## The client -/

/-- A terminal attachment of the stream client. The last two fields say what its
terminal shows: the position of the last base window, and the output on top. -/
structure TermClient where
  /-- the position from which it resumes -/
  resume : Option TermResumePosition
  base : Option TermResumePosition
  applied : List UInt8
  deriving DecidableEq

/-- `base64ByteLength`. -/
def base64ByteLength (data : String) : ℕ :=
  if data.toList = [] then 0
  else
    let padding :=
      if ['=', '='].isSuffixOf data.toList then 2
      else if ['='].isSuffixOf data.toList then 1
      else 0
    data.toList.length * 3 / 4 - padding

namespace TermClient

/-- Nothing received yet. -/
def new : TermClient := ⟨none, none, []⟩

/-- `handleFrame`, as far as the terminal goes. -/
def handleFrame (client : TermClient) : ServerFrame A → TermClient
  | .termSnapshot _ _ _ _ streamId streamOffset _ _ =>
    let position :=
      match streamId, streamOffset with
      | some streamId, some offset => some ⟨streamId, offset⟩
      | _, _ => none
    ⟨position, position, []⟩
  | .termResumed streamId offset _ _ _ _ _ => { client with resume := some ⟨streamId, offset⟩ }
  | .termOutput data =>
    { client with
      resume := client.resume.map fun position =>
        { position with offset := position.offset + base64ByteLength data }
      applied := client.applied ++ (Base64.decode data.toList).getD [] }
  | .statusChanged _ | .sessionExit _ | .error _ _ => client

/-- Several frames. -/
def handleAll (client : TermClient) (frames : List (ServerFrame A)) : TermClient :=
  frames.foldl handleFrame client

end TermClient

/-! ## The task that serves a client -/

/-- A subscription to the tap's events. -/
structure TapReceiver where
  /-- events not received yet, oldest first -/
  pending : List TapEvent
  /-- older events were overwritten; the next `recv` fails -/
  lagged : Bool

namespace TapReceiver

/-- `events.subscribe()`. -/
def new : TapReceiver := ⟨[], false⟩

/-- An event is broadcast. -/
def hear (events : TapReceiver) (event : TapEvent) : TapReceiver :=
  if events.pending.length < terminalTapBroadcastCapacity then
    { events with pending := events.pending ++ [event] }
  else ⟨events.pending.tail ++ [event], true⟩

/-- An event is received. -/
def drop (events : TapReceiver) : TapReceiver := { events with pending := events.pending.tail }

end TapReceiver

/-- Where `stream_terminal_windowed` stands. -/
inductive TapTask (A : Type u) : Type u where
  /-- at the head of its loop -/
  | attaching (resume : Option TermResumePosition)
  /-- in `wait_for_tap_base` -/
  | waiting (events : TapReceiver)
  /-- serves the stream `streamId`, with some frames still to be sent before it goes on
  to the next event -/
  | streaming (streamId : ℕ) (unsent : List (ServerFrame A)) (events : TapReceiver)
  /-- about to send its last frame -/
  | closing (frame : ServerFrame A)
  /-- has returned -/
  | done

namespace TapTask

/-- An event is broadcast. -/
def hear (task : TapTask A) (event : TapEvent) : TapTask A :=
  match task with
  | .waiting events => .waiting (events.hear event)
  | .streaming streamId unsent events => .streaming streamId unsent (events.hear event)
  | _ => task

/-- The frames the task is in the middle of sending. -/
def unsent : TapTask A → List (ServerFrame A)
  | .streaming _ unsent _ => unsent
  | .closing frame => [frame]
  | _ => []

/-- The frames after the first: the status, then what was missed. -/
def catchUp (status : Option SessionStatus) (replay : List (List UInt8)) : List (ServerFrame A) :=
  (status.map fun status => .statusChanged (statusStr status)).toList ++
    replay.map fun chunk => .termOutput (b64 chunk)

/-- What `stream_terminal_windowed` does with the outcome of an attach. -/
def ofAttach : TapAttach A → TapTask A
  | .notReady => .waiting .new
  | .needsRestart => .waiting .new
  | .fresh streamId offset base replay status =>
    .streaming streamId
      (.termSnapshot base.cols base.rows (b64 base.window.toUTF8.data.toList) base.agentProvider
        (some streamId) (some offset) (some base.historyId) (some (base.history.length % 2 ^ 32)) ::
        catchUp status replay) .new
  | .resumed streamId offset base replay status =>
    .streaming streamId
      (.termResumed streamId offset base.cols base.rows base.agentProvider (some base.historyId)
        (some (base.history.length % 2 ^ 32)) :: catchUp status replay) .new

/-- `wait_for_tap_base` receives an event. -/
def wake (events : TapReceiver) : TapEvent → TapTask A
  | .snapshot => .attaching none
  | .failed code message => .closing (.error code message)
  | .exit code => .closing (.sessionExit code)
  | _ => .waiting events

/-- The inner loop receives an event. -/
def serve (streamId : ℕ) (events : TapReceiver) : TapEvent → TapTask A
  | .output data => .streaming streamId [.termOutput (b64 data)] events
  | .status status => .streaming streamId [.statusChanged (statusStr status)] events
  | .snapshot => .attaching none
  | .exit code => .closing (.sessionExit code)
  | .failed code message => .closing (.error code message)

/-- `events.recv().await`, where the task has one. -/
def recv : TapTask A → Option (TapTask A)
  | .waiting events =>
    if events.lagged then some (.attaching none)
    else events.pending.head?.map fun event => wake events.drop event
  | .streaming streamId [] events =>
    if events.lagged then some (.attaching none)
    else events.pending.head?.map fun event => serve streamId events.drop event
  | _ => none

/-- The next frame is put into the queue: the frame and the task afterwards. -/
def send : TapTask A → Option (ServerFrame A × TapTask A)
  | .streaming streamId (frame :: unsent) events => some (frame, .streaming streamId unsent events)
  | .closing frame => some (frame, .done)
  | _ => none

/-- The task serves another stream than the current one, and will not be told. -/
def behind (task : TapTask A) (current : ℕ) : Bool :=
  match task with
  | .streaming streamId _ events =>
    !events.lagged && !events.pending.contains .snapshot && streamId != current
  | _ => false

end TapTask

/-! ## The whole -/

/-- What was published under one stream id. -/
structure Generation where
  id : ℕ
  /-- offset of the first byte -/
  start : ℕ
  bytes : List UInt8
  deriving DecidableEq

/-- The bytes from one offset up to another. -/
def Generation.between (g : Generation) (lo hi : ℕ) : List UInt8 :=
  (g.bytes.drop (lo - g.start)).take (hi - lo)

/-- A tap and one client. The last two fields are history. -/
structure WindowedStream (A : Type u) : Type u where
  /-- `terminal_tap_id_base` -/
  idBase : ℕ
  /-- `NEXT_TERMINAL_TAP_ID` -/
  nextId : ℕ
  shared : TapShared A
  /-- the tap is finished -/
  finished : Bool
  /-- the server's task for the client -/
  task : TapTask A
  /-- the client's socket is open -/
  connected : Bool
  /-- frames on their way to the client -/
  queue : List (ServerFrame A)
  client : TermClient
  /-- every id minted, newest first -/
  ids : List ℕ
  /-- what was published, newest stream first -/
  generations : List Generation

/-- The moves. -/
inductive TapAction (A : Type u) : Type u where
  /-- another tap of the process takes an id -/
  | mint
  | publishSnapshot (snapshot : TerminalSnapshot) (agentProvider : Option A)
  | publishOutput (data : List UInt8)
  | publishStatus (status : SessionStatus)
  | invalidateStream
  /-- the driver of the tap sends an event of its own -/
  | announce (event : TapEvent)
  /-- the tap is finished -/
  | finish
  /-- the task attaches -/
  | attach
  /-- the task receives an event -/
  | recv
  /-- the task sends a frame -/
  | send
  /-- the client handles the next frame -/
  | handle
  /-- the socket is lost, with the frames on it -/
  | disconnect
  /-- the client attaches on a new socket -/
  | reconnect

namespace WindowedStream

/-- A new tap, when `nextId` ids have been taken, and a client that never attached. -/
def new (idBase nextId : ℕ) : WindowedStream A where
  idBase := idBase
  nextId := nextId + 1
  shared :=
    { streamId := terminalTapId idBase nextId
      base := none
      baseOffset := 0
      ring := .new terminalRingMaxBytes
      status := none }
  finished := false
  task := .done
  connected := false
  queue := []
  client := .new
  ids := [terminalTapId idBase nextId]
  generations := [⟨terminalTapId idBase nextId, 0, []⟩]

/-- Output belongs to the current stream. -/
def record (data : List UInt8) : List Generation → List Generation
  | g :: older => { g with bytes := g.bytes ++ data } :: older
  | [] => []

variable (windowSnapshot : String → UInt16 → String × List String)

variable (w : WindowedStream A)

/-- `publish_snapshot`: an id for the history, one for the stream. -/
def publishSnapshot (snapshot : TerminalSnapshot) (agentProvider : Option A) : WindowedStream A :=
  let windowed := windowSnapshot snapshot.vt snapshot.rows
  let historyId := terminalTapId w.idBase w.nextId
  let streamId := terminalTapId w.idBase (w.nextId + 1)
  let offset := w.shared.ring.endOffset
  { w with
    nextId := w.nextId + 2
    shared :=
      { w.shared with
        streamId := streamId
        ring := w.shared.ring.resetTo offset
        baseOffset := offset
        base := some
          ⟨historyId, snapshot.cols, snapshot.rows, agentProvider, windowed.1, windowed.2⟩ }
    task := w.task.hear .snapshot
    ids := streamId :: historyId :: w.ids
    generations := ⟨streamId, offset, []⟩ :: w.generations }

/-- `publish_output`. -/
def publishOutput (data : List UInt8) : WindowedStream A :=
  { w with
    shared := { w.shared with ring := w.shared.ring.push data }
    task := w.task.hear (.output data)
    generations := record data w.generations }

/-- `publish_status`. -/
def publishStatus (status : SessionStatus) : WindowedStream A :=
  { w with shared := { w.shared with status := some status }, task := w.task.hear (.status status) }

/-- `invalidate_stream`: nobody is told. -/
def invalidateStream : WindowedStream A :=
  let streamId := terminalTapId w.idBase w.nextId
  { w with
    nextId := w.nextId + 1
    shared :=
      { streamId := streamId
        base := none
        baseOffset := 0
        ring := w.shared.ring.resetTo 0
        status := none }
    ids := streamId :: w.ids
    generations := ⟨streamId, 0, []⟩ :: w.generations }

/-- The interleaving semantics. -/
def step : TapAction A → Option (WindowedStream A)
  | .mint => some { w with nextId := w.nextId + 1, ids := terminalTapId w.idBase w.nextId :: w.ids }
  | .publishSnapshot snapshot agentProvider =>
    some (w.publishSnapshot windowSnapshot snapshot agentProvider)
  | .publishOutput data => some (w.publishOutput data)
  | .publishStatus status => some (w.publishStatus status)
  | .invalidateStream => some w.invalidateStream
  | .announce event =>
    match event with
    -- the driver announces a lost base, the end of the session, or a failure
    | .output _ | .status _ => none
    | _ => some { w with task := w.task.hear event }
  | .finish => some { w with finished := true }
  | .attach =>
    match w.task with
    | .attaching resume =>
      some { w with task := if w.finished then .done else .ofAttach (w.shared.attach resume) }
    | _ => none
  | .recv => w.task.recv.map fun task => { w with task := task }
  | .send =>
    w.task.send.map fun (frame, task) => { w with queue := w.queue ++ [frame], task := task }
  | .handle =>
    match w.queue with
    | frame :: queue => some { w with queue := queue, client := w.client.handleFrame frame }
    | [] => none
  | .disconnect =>
    if w.connected then some { w with connected := false, task := .done, queue := [] } else none
  | .reconnect =>
    if w.connected then none
    else some { w with connected := true, task := .attaching w.client.resume }

/-- **The client shows what was published**: on top of the last base window it was
sent, exactly the bytes of that stream up to the position it tracks. -/
structure Exact (w : WindowedStream A) : Prop where
  /-- a stream id names one stream -/
  distinct : (w.generations.map Generation.id).Nodup
  /-- a client without a position has applied nothing -/
  unattached : w.client.resume = none → w.client.base = none ∧ w.client.applied = []
  applied : ∀ position, w.client.resume = some position →
    ∃ base, w.client.base = some base ∧ base.streamId = position.streamId ∧
      ∃ g ∈ w.generations, g.id = position.streamId ∧ g.start ≤ base.offset ∧
        base.offset ≤ position.offset ∧ position.offset ≤ g.start + g.bytes.length ∧
        w.client.applied = g.between base.offset position.offset

/-! ## The conditions on a run -/

/-- The ids a move mints, newest first. -/
def mints : TapAction A → List ℕ
  | .mint | .invalidateStream => [terminalTapId w.idBase w.nextId]
  | .publishSnapshot .. =>
    [terminalTapId w.idBase (w.nextId + 1), terminalTapId w.idBase w.nextId]
  | _ => []

/-- All ids minted are pairwise distinct. -/
def FreshIds (a : TapAction A) : Prop := (w.mints a ++ w.ids).Nodup

/-- The client is served a stream that is no longer the current one, and no event on
its way tells it so. -/
def stale : Bool := w.task.behind w.shared.streamId

/-- No output is published while the client takes it for that of an older stream. -/
def NoStaleOutput : TapAction A → Prop
  | .publishOutput data => data = [] ∨ w.stale = false
  | _ => True

instance (w : WindowedStream A) (a : TapAction A) : Decidable (w.FreshIds a) :=
  inferInstanceAs (Decidable (w.mints a ++ w.ids).Nodup)

instance (w : WindowedStream A) : (a : TapAction A) → Decidable (w.NoStaleOutput a)
  | .publishOutput data => inferInstanceAs (Decidable (data = [] ∨ w.stale = false))
  | .mint | .publishSnapshot .. | .publishStatus _ | .invalidateStream | .announce _ | .finish
  | .attach | .recv | .send | .handle | .disconnect | .reconnect => inferInstanceAs (Decidable True)

end WindowedStream

end Kanna
