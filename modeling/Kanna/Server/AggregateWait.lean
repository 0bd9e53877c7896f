import Mathlib.Data.List.Dedup
import Kanna.Lib.Durable
import Kanna.Lib.Run
import Kanna.Server.TaskEventWait

/-!
# Waiting for the task events of all machines

`wait_aggregate_task_events` of `http_api/task_events.rs`, for one watcher that presents in each
call the cursor that the call before it returned. A call takes the session that is registered
under its cursor, or makes a new one from the cursor alone; it starts a wait on every active
machine that has none, joins the ones that are done until it has something to return, and leaves
the session, with the waits that are still going on, under the cursor that it returns.

The events are appended, the waits go on, and sessions are evicted at any time. A call that fails
or is dropped takes its session with it.
-/

namespace Kanna.TaskEvents

open Durable

/-- `MAX_AGGREGATE_MACHINES`. -/
def maxAggregateMachines : ℕ := 128

/-- `AggregateCursor`; the lists stand for sets. The scope and the local machine are those of the
watcher. -/
structure AggregateCursor where
  machineIds : List String
  /-- how far each machine was read -/
  cursorsByMachine : Records String MachineCursor
  /-- the machines that had more than they returned -/
  machinesWithMore : List String

/-- `AggregateWaitSession`. The machines that have a wait are `pending_machines`. -/
structure Session where
  filters : TaskEventFilters
  cursor : AggregateCursor
  /-- the waits under way -/
  pending : List Leg
  includeCurrentActivity : Bool
  /-- a wait without a cursor starts at the head -/
  fromNow : Bool

/-- What a call asks for, and the machines that the relay lists. -/
structure Query where
  filters : TaskEventFilters
  includeCurrentActivity : Bool
  fromNow : Bool
  limit : Option ℤ
  /-- the timeout is not zero -/
  waits : Bool
  /-- `list_active_relay_desktops`, if it succeeds -/
  listed : Option (List String)

/-- The limit of a call, between one and `MAX_EVENT_LIMIT`; `DEFAULT_EVENT_LIMIT` without one. -/
def Query.eventLimit (query : Query) : ℕ := (min (max (query.limit.getD 100) 1) 500).toNat

/-- Where a call is in its loop. -/
inductive CallPhase where
  /-- starts waits -/
  | starting
  /-- waits for one of them -/
  | joining
  /-- has left the loop -/
  | ending
  deriving DecidableEq

/-- A call in progress. -/
structure Call where
  session : Session
  query : Query
  /-- the machines it asks -/
  activeMachines : List String
  events : List (String × ReturnedEvent)
  machineErrors : List (String × String)
  /-- those whose wait was joined -/
  completedMachines : List String
  /-- those whose wait failed -/
  failedMachines : List String
  hasMore : Bool
  phase : CallPhase

/-! ### The session -/

namespace Session

/-- A new session for a cursor. -/
def new (cursor : AggregateCursor) (query : Query) : Session :=
  ⟨query.filters, cursor, [], query.includeCurrentActivity, query.fromNow⟩

variable (session : Session)

/-- The waits of other filters are aborted. -/
def adopt (query : Query) : Session :=
  if session.includeCurrentActivity ≠ query.includeCurrentActivity ∨
      session.filters ≠ query.filters then
    { session with
      pending := []
      includeCurrentActivity := query.includeCurrentActivity
      filters := query.filters }
  else session

/-- The session has other waits. -/
def setPending (pending : List Leg) : Session :=
  { session with pending := pending }

/-- The session has another cursor. -/
def setCursor (cursor : AggregateCursor) : Session :=
  { session with cursor := cursor }

/-- The machines of the cursor. -/
def setMachineIds (machineIds : List String) : Session :=
  session.setCursor { session.cursor with machineIds := machineIds }

/-- The machines with a wait. -/
def pendingMachines : List String := session.pending.map Leg.machineId

/-- `spawn_aggregate_wait`. -/
def spawnAggregateWait (limit : ℕ) (machineId : String) : Session :=
  session.setPending (session.pending ++
    [⟨machineId, session.cursor.cursorsByMachine.lookup machineId, session.filters,
      session.includeCurrentActivity, session.fromNow, limit, .starting⟩])

end Session

/-! ### Completions -/

/-- The cursor of a machine once a part of its answer is returned; `none` keeps the old one. -/
def nextCursor (previous : Option MachineCursor) (includeCurrentActivity : Bool)
    (response : Response) (emitted : List ReturnedEvent) : Except String (Option MachineCursor) :=
  if emitted.length = response.events.length then .ok (some response.cursor)
  else
    match emitted.getLast? with
    | none => .ok none
    | some (.synthetic taskId) =>
      match response.cursor.current with
      | none => .error "returned paged synthetic task state without a current-activity cursor"
      | some _ => .ok (some ⟨response.cursor.durable, some ⟨some taskId, false⟩⟩)
    | some (.durable event) =>
      .ok (some ⟨event.seq,
        if includeCurrentActivity then
          some ((previous.bind MachineCursor.current).getD .default)
        else none⟩)

namespace AggregateCursor

/-- Whether a machine has more events. -/
def insertMore (cursor : AggregateCursor) (machineId : String) (more : Bool) : AggregateCursor :=
  { cursor with
    machinesWithMore :=
      if more then machineId :: cursor.machinesWithMore.filter (· ≠ machineId)
      else cursor.machinesWithMore.filter (· ≠ machineId) }

/-- A machine's cursor, if there is a new one. -/
def setMachineCursor (cursor : AggregateCursor) (machineId : String) :
    Option MachineCursor → AggregateCursor
  | some next =>
    { cursor with cursorsByMachine := cursor.cursorsByMachine.insert machineId next }
  | none => cursor

end AggregateCursor

namespace Call

variable (call : Call)

/-- The call goes on. -/
def setPhase (phase : CallPhase) : Call := { call with phase := phase }

/-- The call has another session. -/
def setSession (session : Session) : Call := { call with session := session }

/-- `apply_aggregate_completion`, with the flag whether the machine had events. -/
def applyAggregateCompletion (machineId : String) :
    Except WaitError Response → Except String (Call × Bool)
  | .error (.cursorRejected error) => .error error
  | .error (.unavailable error) =>
    .ok ({ call with
      failedMachines := machineId :: call.failedMachines
      machineErrors := call.machineErrors ++ [(machineId, error)] }, false)
  | .ok response =>
    let remaining := call.query.eventLimit - call.events.length
    let emitted := response.events.take remaining
    let cursor := call.session.cursor.insertMore machineId
      (decide (remaining < response.events.length) || response.hasMore)
    match nextCursor (cursor.cursorsByMachine.lookup machineId)
        call.session.includeCurrentActivity response emitted with
    | .error error => .error error
    | .ok next =>
      let cursor := cursor.setMachineCursor machineId next
      .ok ({ call with
        session := call.session.setCursor cursor
        events := call.events ++ emitted.map (machineId, ·)
        hasMore := call.hasMore || !cursor.machinesWithMore.isEmpty }, !response.events.isEmpty)

/-- The waits that a pass of the loop starts. -/
def machinesToStart : List String :=
  call.activeMachines.filter fun machineId =>
    !(call.session.pendingMachines.contains machineId ||
      call.completedMachines.contains machineId || call.failedMachines.contains machineId)

/-- A wait for every machine that has none. -/
def start : Call :=
  (call.setSession (call.machinesToStart.foldl
    (Session.spawnAggregateWait · call.query.eventLimit) call.session)).setPhase .joining

/-- Whether the loop is left after a completion. `timeLeft` is what the clock says. -/
def next (timeLeft : Bool) : Call :=
  let all := decide (call.activeMachines.length ≤ call.completedMachines.length)
  if !call.events.isEmpty || call.hasMore then call.setPhase .ending
  else if !call.machineErrors.isEmpty && all then call.setPhase .ending
  else if all || (call.query.waits && !timeLeft) then call.setPhase .ending
  else call.setPhase .starting

/-- A machine that had no events is waited for again while there is time. -/
def complete (machineId : String) (hadEvents timeLeft : Bool) : Call :=
  let completed := machineId :: call.completedMachines.filter (· ≠ machineId)
  { call with
    completedMachines :=
      if !hadEvents && !call.failedMachines.contains machineId && call.query.waits && timeLeft then
        completed.filter (· ≠ machineId)
      else completed }

/-- The `k`th wait is joined. An error ends the call. -/
def join (k : ℕ) (timeLeft timeLeft' : Bool) : Option (Except String Call) :=
  match call.session.pending[k]? with
  | none => none
  | some leg =>
    match leg.phase with
    | .done result =>
      let joined := call.setSession
        (call.session.setPending (call.session.pending.eraseIdx k))
      some ((joined.applyAggregateCompletion leg.machineId result).map fun applied =>
        (applied.1.complete leg.machineId applied.2 timeLeft).next timeLeft')
    | _ => none

end Call

/-! ### A watcher -/

/-- When the first call returned: the heads of the logs, and the active machines of which no wait
had failed. -/
structure FirstReturn where
  heads : String → ℕ
  reached : List String

/-- A call that has returned: the filters that it asked for, and the cursors of the watcher before
and after it. -/
structure Finished where
  filters : TaskEventFilters
  before : Option AggregateCursor
  after : AggregateCursor

/-- The machines, and what the watcher has. -/
structure State where
  logs : String → Log
  /-- the cursor that the last call returned -/
  cursor : Option AggregateCursor
  /-- the session that is registered under it -/
  stored : Option Session
  /-- the call in progress -/
  call : Option Call
  /-- the events that were returned, other than current activity -/
  returned : List (String × TaskEvent)
  /-- set when the first call returns -/
  first : Option FirstReturn
  /-- the calls that have returned, the last one first -/
  calls : List Finished

/-- What can happen: an event, the steps of a call, and those of its waits. -/
inductive Move where
  | append (machineId : String) (event : TaskEvent)
  | begin (query : Query)
  | start
  | join (k : ℕ) (timeLeft timeLeft' : Bool)
  /-- no wait is done in time, or there is none -/
  | giveUp
  | finish
  /-- the call fails, or the client does not get its answer -/
  | fail
  | evict
  | legStart (k : ℕ)
  | legRead (k : ℕ) (rows : List String) (timeIsUp : Bool)
  | legFail (k : ℕ) (error : WaitError)

/-- The durable events of a call. -/
def durableEvents (events : List (String × ReturnedEvent)) : List (String × TaskEvent) :=
  events.filterMap fun event =>
    match event.2 with
    | .durable durable => some (event.1, durable)
    | .synthetic _ => none

namespace State

/-- Nobody has called yet. -/
def new (logs : String → Log) : State := ⟨logs, none, none, none, [], none, []⟩

/-- The call in progress has changed. -/
def setCall (s : State) (call : Option Call) : State := { s with call := call }

/-- The registered session has changed. -/
def setStored (s : State) (stored : Option Session) : State := { s with stored := stored }

/-- The session that is registered under the cursor, or a new one. -/
def takeSession (localMachineId : String) (s : State) (query : Query) : Session :=
  match s.cursor with
  | none => .new ⟨[localMachineId], ∅, []⟩ query
  | some cursor => s.stored.getD (.new cursor query)

/-- The head of `wait_aggregate_task_events`. -/
def begin (localMachineId unreachable : String) (s : State) (query : Query) : State :=
  let session := (s.takeSession localMachineId query).adopt query
  let errors :=
    if query.listed.isNone && session.cursor.machineIds.length = 1 then
      [(localMachineId, unreachable)]
    else []
  let active := (localMachineId :: query.listed.getD []).dedup
  let session := session.setMachineIds (session.cursor.machineIds ++ active).dedup
  let s := s.setStored none
  if maxAggregateMachines < session.cursor.machineIds.length then s
  else
    s.setCall (some
      { session := session
        query := query
        activeMachines := active
        events := []
        machineErrors := errors ++
          (session.cursor.machineIds.filter (!active.contains ·)).map (·, unreachable)
        completedMachines := []
        failedMachines := []
        hasMore := !session.cursor.machinesWithMore.isEmpty
        phase := .starting })

/-- The call returns. -/
def finish (s : State) (call : Call) : State :=
  { s with
    cursor := some call.session.cursor
    stored := some call.session
    call := none
    returned := s.returned ++ durableEvents call.events
    first := s.first.or (some
      { heads := fun machineId => (s.logs machineId).head
        reached := call.activeMachines.filter (!call.failedMachines.contains ·) })
    calls := ⟨call.query.filters, s.cursor, call.session.cursor⟩ :: s.calls }

/-- The waits of the session of the call, or of the registered one. -/
def pending (s : State) : List Leg :=
  match s.call with
  | some call => call.session.pending
  | none => (s.stored.map Session.pending).getD []

/-- The waits, which the call has if there is one. -/
def setPending (s : State) (pending : List Leg) : State :=
  match s.call with
  | some call => s.setCall (some (call.setSession (call.session.setPending pending)))
  | none => s.setStored (s.stored.map (·.setPending pending))

/-- One of the waits takes a step. -/
def modifyLeg (s : State) (k : ℕ) (f : Leg → Option Leg) : Option State :=
  (s.pending[k]?.bind f).map fun leg => s.setPending (s.pending.set k leg)

end State

section Step

variable (world : World) (localMachineId unreachable : String)

/-- One move, if it is enabled. -/
def step (s : State) : Move → Option State
  | .append machineId event =>
    if h : (s.logs machineId).head < event.seq then
      some { s with
        logs := Function.update s.logs machineId ((s.logs machineId).append event h) }
    else none
  | .begin query =>
    match s.call with
    | some _ => none
    | none => some (s.begin localMachineId unreachable query)
  | .start => s.call.bind fun call =>
    if call.phase = .starting then some (s.setCall (some call.start)) else none
  | .join k timeLeft timeLeft' => s.call.bind fun call =>
    if call.phase = .joining then
      (call.join k timeLeft timeLeft').map fun joined =>
        match joined with
        | .ok call => s.setCall (some call)
        | .error _ => s.setCall none
    else none
  | .giveUp => s.call.bind fun call =>
    if call.phase = .joining then some (s.setCall (some (call.setPhase .ending))) else none
  | .finish => s.call.bind fun call =>
    if call.phase = .ending then some (s.finish call) else none
  | .fail => s.call.map fun _ => s.setCall none
  | .evict => some (s.setStored none)
  | .legStart k => s.modifyLeg k fun leg =>
    match leg.phase with
    | .starting => some (leg.start (s.logs leg.machineId))
    | _ => none
  | .legRead k rows timeIsUp => s.modifyLeg k fun leg =>
    match leg.phase with
    | .reading cursor progress =>
      some (leg.read world (s.logs leg.machineId) cursor progress rows timeIsUp)
    | _ => none
  | .legFail k error => s.modifyLeg k fun leg =>
    match leg.phase with
    | .done _ => none
    | _ => some (leg.setPhase (.done (.error error)))

end Step

end Kanna.TaskEvents
