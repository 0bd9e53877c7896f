import Mathlib.Data.List.Perm.Basic
import Kanna.Server.AggregateWait

/-!
# Sessions of aggregate waits

A session is in order if each of its waits started from the cursor that the session still has for
the machine, and is worth what `Leg.Ok` says. Then a completion returns exactly the events between
the old and the new cursor of its machine, however much of the answer is cut off
(`nextCursor_durables`, `completion`).
-/

namespace Kanna.TaskEvents

open Durable

/-! ### Events of an answer -/

/-- The events of the log among those returned. -/
def durables (events : List ReturnedEvent) : List TaskEvent :=
  events.filterMap fun event =>
    match event with
    | .durable durable => some durable
    | .synthetic _ => none

open List

@[simp] theorem durables_append (events events' : List ReturnedEvent) :
    durables (events ++ events') = durables events ++ durables events' :=
  filterMap_append

@[simp] theorem durables_map_durable (events : List TaskEvent) :
    durables (events.map .durable) = events := by
  induction events with
  | nil => rfl
  | cons event events ih => exact congrArg (event :: ·) ih

@[simp] theorem durables_map_synthetic (rows : List String) :
    durables (rows.map .synthetic) = [] := by
  induction rows with
  | nil => rfl
  | cons row rows ih => exact ih

/-- The events of one machine. -/
def eventsOf (machineId : String) (events : List (String × TaskEvent)) : List TaskEvent :=
  events.filterMap fun event => if event.1 = machineId then some event.2 else none

theorem eventsOf_append (machineId : String) (events events' : List (String × TaskEvent)) :
    eventsOf machineId (events ++ events') =
      eventsOf machineId events ++ eventsOf machineId events' :=
  filterMap_append

/-- The events of a completion are all of its machine. -/
theorem eventsOf_emitted (machineId other : String) (emitted : List ReturnedEvent) :
    eventsOf other (durableEvents (emitted.map (machineId, ·))) =
      if other = machineId then durables emitted else [] := by
  induction emitted with
  | nil => split <;> rfl
  | cons event emitted ih =>
    cases event with
    | synthetic taskId => exact ih
    | durable event =>
      by_cases heq : other = machineId
      · rw [if_pos heq] at ih ⊢
        simp only [map_cons, durableEvents, filterMap_cons, eventsOf, if_pos heq.symm]
        exact congrArg (event :: ·) ih
      · rw [if_neg heq] at ih ⊢
        simp only [map_cons, durableEvents, filterMap_cons, eventsOf, if_neg (Ne.symm heq)]
        exact ih

/-! ### A completion -/

variable {log : Log} {keep : TaskEvent → Bool} {base n : ℕ} {response : Response}

variable {events : List TaskEvent}

/-- Whether a part of an answer ends with an event or with a row says what it has of each. -/
theorem getLast?_answer {rows : List String}
    (hevents : response.events = events.map .durable ++ rows.map .synthetic) {last : ReturnedEvent}
    (hlast : (response.events.take n).getLast? = some last) :
    (∃ event, last = .durable event ∧ (events.take n).getLast? = some event ∧
        durables (response.events.take n) = events.take n) ∨
      ∃ taskId, last = .synthetic taskId ∧ durables (response.events.take n) = events := by
  rw [hevents, take_append, length_map, ← map_take, ← map_take] at hlast ⊢
  by_cases hrest : rows.take (n - events.length) = []
  · rw [hrest, map_nil, append_nil, getLast?_map] at hlast
    obtain ⟨event, hevent, rfl⟩ := Option.map_eq_some_iff.mp hlast
    refine .inl ⟨event, rfl, hevent, ?_⟩
    rw [durables_append, durables_map_durable, durables_map_synthetic, append_nil]
  · have hlt : events.length ≤ n := by
      by_contra hle
      rw [Nat.sub_eq_zero_of_le (Nat.le_of_not_le hle)] at hrest
      exact hrest rfl
    have hne : (rows.take (n - events.length)).map ReturnedEvent.synthetic ≠ [] := by
      simpa using hrest
    rw [getLast?_append_of_ne_nil _ hne, getLast?_map] at hlast
    obtain ⟨taskId, -, rfl⟩ := Option.map_eq_some_iff.mp hlast
    refine .inr ⟨taskId, rfl, ?_⟩
    rw [durables_append, durables_map_durable, durables_map_synthetic, append_nil,
      take_of_length_le hlt]

variable {next : Option MachineCursor}

/-- **A completion returns the events up to its new cursor**, whatever is cut off. -/
theorem nextCursor_durables (h : Leg.Answers log keep base response)
    {previous : Option MachineCursor} {includeCurrentActivity : Bool}
    (hnext : nextCursor previous includeCurrentActivity response (response.events.take n) =
      .ok next) : (next = none ∧ durables (response.events.take n) = []) ∨
      ∃ cursor, next = some cursor ∧ base ≤ cursor.durable ∧ cursor.durable ≤ log.head ∧
        durables (response.events.take n) = log.between keep base cursor.durable := by
  obtain ⟨hle, hhead, rows, hevents⟩ := h
  rw [nextCursor] at hnext
  split at hnext
  next hall =>
    cases hnext
    refine .inr ⟨_, rfl, hle, hhead, ?_⟩
    rw [take_of_length_le (by rw [length_take] at hall; omega), hevents]
    simp
  next =>
  split at hnext
  next hnone =>
    cases hnext
    rw [getLast?_eq_none_iff.mp hnone]
    exact .inl ⟨rfl, rfl⟩
  next taskId hlast =>
    split at hnext
    next => cases hnext
    next =>
      cases hnext
      refine .inr ⟨_, rfl, hle, hhead, ?_⟩
      rcases getLast?_answer hevents hlast with ⟨_, heq, -⟩ | ⟨_, -, hdurables⟩
      · cases heq
      · exact hdurables
  next event hlast =>
    cases hnext
    rcases getLast?_answer hevents hlast with ⟨_, heq, hevent, hdurables⟩ | ⟨_, heq, -⟩
    · cases heq
      have hmem := CursorLog.mem_between.mp (mem_of_mem_take (mem_of_getLast? hevent))
      refine .inr ⟨_, rfl, Nat.le_of_lt hmem.2.2.1, Nat.le_trans hmem.2.2.2 hhead, ?_⟩
      rw [hdurables]
      exact CursorLog.take_between hevent
    · cases heq

/-! ### Sessions -/

/-- The number of the last event of a machine that a cursor is past. -/
def durableCursor (cursor : AggregateCursor) (m : String) : Option ℕ :=
  (cursor.cursorsByMachine.lookup m).map MachineCursor.durable

/-- The cursors are not beyond the logs. -/
def AggregateCursor.Within (logs : String → Log) (cursor : AggregateCursor) : Prop :=
  ∀ m machineCursor, cursor.cursorsByMachine.lookup m = some machineCursor →
    machineCursor.durable ≤ (logs m).head

variable {m : String} {logs : String → Log} {cursor : AggregateCursor}

theorem within_append (h : cursor.Within logs) {event : TaskEvent}
    (hevent : (logs m).head < event.seq) :
    cursor.Within (Function.update logs m ((logs m).append event hevent)) := by
  intro other machineCursor hcursor
  have hle := h other machineCursor hcursor
  by_cases heq : other = m
  · subst heq
    rw [Function.update_self]
    exact Nat.le_of_lt (Nat.lt_of_le_of_lt hle hevent)
  · rw [Function.update_of_ne heq]
    exact hle

/-- A wait belongs to a session if it started from the cursor that the session has. -/
structure Leg.Of (session : Session) (leg : Leg) : Prop where
  filters : leg.filters = session.filters
  cursor : leg.cursor = session.cursor.cursorsByMachine.lookup leg.machineId
  fromNow : leg.fromNow = session.fromNow

namespace Session

variable {world : World} {logs : String → Log} {bounds : String → Option ℕ} {session : Session}

/-- Every wait belongs to the session and is in order, there is one for each machine, and the
cursor is within the logs. -/
structure Ok (world : World) (logs : String → Log) (bounds : String → Option ℕ)
    (session : Session) : Prop where
  legs : ∀ leg ∈ session.pending,
    leg.Ok world (logs leg.machineId) (bounds leg.machineId) ∧ leg.Of session
  nodup : session.pendingMachines.Nodup
  within : session.cursor.Within logs

theorem ok_new (h : cursor.Within logs) (query : Query) : (new cursor query).Ok world logs bounds :=
  ⟨nofun, nodup_nil, h⟩

theorem ok_adopt (h : session.Ok world logs bounds) (query : Query) :
    (session.adopt query).Ok world logs bounds := by
  rw [adopt]
  split
  next => exact ⟨nofun, nodup_nil, h.within⟩
  next => exact h

theorem adopt_frame (session : Session) (query : Query) :
    (session.adopt query).cursor = session.cursor ∧
      (session.adopt query).fromNow = session.fromNow ∧
      (session.adopt query).filters = query.filters := by
  rw [adopt]
  split
  next => exact ⟨rfl, rfl, rfl⟩
  next hsame => exact ⟨rfl, rfl, not_not.mp fun hne => hsame (.inr hne)⟩

theorem ok_setMachineIds (h : session.Ok world logs bounds) (machineIds : List String) :
    (session.setMachineIds machineIds).Ok world logs bounds := by
  refine ⟨fun leg hleg => ?_, h.nodup, h.within⟩
  obtain ⟨hok, hof⟩ := h.legs leg hleg
  exact ⟨hok, hof.filters, hof.cursor, hof.fromNow⟩

theorem pendingMachines_spawnAggregateWait (session : Session) (limit : ℕ) (m : String) :
    (session.spawnAggregateWait limit m).pendingMachines = session.pendingMachines ++ [m] :=
  map_append

theorem ok_spawnAggregateWait (h : session.Ok world logs bounds) (limit : ℕ)
    (hfree : m ∉ session.pendingMachines) :
    (session.spawnAggregateWait limit m).Ok world logs bounds := by
  refine ⟨fun leg hleg => ?_, ?_, h.within⟩
  · rcases mem_append.mp hleg with hleg | hleg
    · obtain ⟨hok, hof⟩ := h.legs leg hleg
      exact ⟨hok, hof.filters, hof.cursor, hof.fromNow⟩
    · rw [mem_singleton.mp hleg]
      refine ⟨?_, rfl, rfl, rfl⟩
      cases hcursor : session.cursor.cursorsByMachine.lookup m with
      | some cursor => exact ⟨cursor.durable, .inl rfl, h.within m cursor hcursor, trivial⟩
      | none =>
        cases hnow : session.fromNow with
        | true => exact ⟨0, .inr ⟨rfl, fun _ _ => Nat.zero_le _⟩, Nat.zero_le _, trivial⟩
        | false => exact ⟨0, .inl rfl, Nat.zero_le _, trivial⟩
  · rw [pendingMachines_spawnAggregateWait]
    refine nodup_append.mpr ⟨h.nodup, nodup_singleton _, fun other hother _ hm heq => ?_⟩
    rw [mem_singleton.mp hm] at heq
    exact hfree (heq ▸ hother)

/-- The waits of a list of machines are started. -/
theorem ok_spawnAll (limit : ℕ) (machines : List String) (hnodup : machines.Nodup)
    (h : session.Ok world logs bounds) (hfree : ∀ m ∈ machines, m ∉ session.pendingMachines) :
    (machines.foldl (spawnAggregateWait · limit) session).Ok world logs bounds := by
  induction machines generalizing session with
  | nil => exact h
  | cons m machines ih =>
    obtain ⟨hm, hnodup⟩ := nodup_cons.mp hnodup
    refine ih hnodup (ok_spawnAggregateWait h limit (hfree m mem_cons_self)) fun other hother => ?_
    rw [pendingMachines_spawnAggregateWait, mem_append, not_or]
    refine ⟨hfree other (mem_cons_of_mem _ hother), fun hlast => ?_⟩
    exact hm (mem_singleton.mp hlast ▸ hother)

theorem spawnAll_frame (session : Session) (limit : ℕ) (machines : List String) :
    (machines.foldl (spawnAggregateWait · limit) session).cursor = session.cursor ∧
      (machines.foldl (spawnAggregateWait · limit) session).filters = session.filters ∧
      (machines.foldl (spawnAggregateWait · limit) session).fromNow = session.fromNow := by
  induction machines generalizing session with
  | nil => exact ⟨rfl, rfl, rfl⟩
  | cons m machines ih => exact ih (session.spawnAggregateWait limit m)

/-- One of the waits goes on. -/
theorem ok_set (h : session.Ok world logs bounds) {k : ℕ} {leg leg' : Leg}
    (hleg : session.pending[k]? = some leg)
    (hok : leg'.Ok world (logs leg'.machineId) (bounds leg'.machineId)) (hof : leg'.Of session)
    (hmachine : leg'.machineId = leg.machineId) :
    (session.setPending (session.pending.set k leg')).Ok world logs bounds := by
  refine ⟨fun other hother => ?_, ?_, h.within⟩
  · rcases mem_or_eq_of_mem_set hother with hother | heq
    · obtain ⟨hok, hof⟩ := h.legs other hother
      exact ⟨hok, hof.filters, hof.cursor, hof.fromNow⟩
    · rw [heq]
      exact ⟨hok, hof.filters, hof.cursor, hof.fromNow⟩
  · have hsame : (session.setPending (session.pending.set k leg')).pendingMachines =
        session.pendingMachines := by
      rw [pendingMachines, setPending, map_set, hmachine, pendingMachines]
      refine ext_getElem? fun i => ?_
      by_cases heq : k = i
      · subst heq
        rw [getElem?_set_self', getElem?_map, hleg]
        rfl
      · rw [getElem?_set_ne heq]
    rw [hsame]
    exact h.nodup

/-- An event is appended to a log. -/
theorem ok_append (h : session.Ok world logs bounds) {event : TaskEvent}
    (hevent : (logs m).head < event.seq) :
    session.Ok world (Function.update logs m ((logs m).append event hevent)) bounds := by
  refine ⟨fun leg hleg => ?_, h.nodup, fun other cursor hcursor => ?_⟩
  · obtain ⟨hok, hof⟩ := h.legs leg hleg
    refine ⟨?_, hof⟩
    by_cases heq : leg.machineId = m
    · subst heq
      rw [Function.update_self]
      exact Leg.ok_append hevent hok
    · rw [Function.update_of_ne heq]
      exact hok
  · exact within_append h.within hevent other cursor hcursor

/-- The cursors once a machine has a new one. -/
theorem lookup_completed (cursor : AggregateCursor) (m other : String) (more : Bool)
    (next : Option MachineCursor) :
    ((cursor.insertMore m more).setMachineCursor m next).cursorsByMachine.lookup other =
      if other = m then next.or (cursor.cursorsByMachine.lookup m)
      else cursor.cursorsByMachine.lookup other := by
  cases next with
  | none =>
    split
    next heq => rw [heq]; rfl
    next => rfl
  | some machineCursor => exact lookup_insert_eq _ m other machineCursor

theorem durableCursor_completed (cursor : AggregateCursor) (m other : String) (more : Bool)
    (next : Option MachineCursor) :
    durableCursor ((cursor.insertMore m more).setMachineCursor m next) other =
      if other = m then (next.map MachineCursor.durable).or (durableCursor cursor m)
      else durableCursor cursor other := by
  rw [durableCursor, lookup_completed]
  split
  next => exact Option.map_or
  next => rfl

/-- A wait is joined. There is no other one on its machine. -/
theorem ok_eraseIdx (h : session.Ok world logs bounds) {k : ℕ} {leg : Leg}
    (hleg : session.pending[k]? = some leg) :
    (session.setPending (session.pending.eraseIdx k)).Ok world logs bounds ∧
      leg.machineId ∉ (session.setPending (session.pending.eraseIdx k)).pendingMachines := by
  have hperm := List.getElem_cons_eraseIdx_perm (List.getElem?_eq_some_iff.mp hleg).1
  rw [(List.getElem?_eq_some_iff.mp hleg).2] at hperm
  have hnodup := (hperm.map Leg.machineId).nodup_iff.mpr h.nodup
  obtain ⟨hother, hnodup⟩ := nodup_cons.mp hnodup
  refine ⟨⟨fun other hmem => ?_, hnodup, h.within⟩, hother⟩
  obtain ⟨hok, hof⟩ := h.legs other (mem_of_mem_eraseIdx hmem)
  exact ⟨hok, hof.filters, hof.cursor, hof.fromNow⟩

/-- A machine without a wait gets a new cursor. -/
theorem ok_setMachineCursor (h : session.Ok world logs bounds) (hfree : m ∉ session.pendingMachines)
    (more : Bool) (hnext : ∀ cursor, next = some cursor → cursor.durable ≤ (logs m).head) :
    (session.setCursor ((session.cursor.insertMore m more).setMachineCursor m next)).Ok
      world logs bounds := by
  refine ⟨fun other hmem => ?_, h.nodup, fun other cursor hcursor => ?_⟩
  · obtain ⟨hok, hof⟩ := h.legs other hmem
    refine ⟨hok, hof.filters, ?_, hof.fromNow⟩
    have hne : other.machineId ≠ m := fun heq => hfree (heq ▸ mem_map_of_mem hmem)
    rw [hof.cursor]
    exact ((lookup_completed _ _ _ _ _).trans (if_neg hne)).symm
  · have hlookup := (lookup_completed session.cursor m other more next).symm.trans hcursor
    split at hlookup
    next heq =>
      subst heq
      rcases Option.or_eq_some_iff.mp hlookup with hsome | ⟨-, hsome⟩
      · exact hnext cursor hsome
      · exact h.within _ cursor hsome
    next => exact h.within other cursor hlookup

end Session

/-! ### Joining a wait -/

section Joining

variable {world : World} {bounds : String → Option ℕ} {call call' : Call}

/-- What a completion that does not end the call does to it: nothing, or it returns the first
events of the answer and takes the cursor that goes with them. -/
def Call.Completes (call : Call) (m : String) (result : Except WaitError Response)
    (call' : Call) : Prop :=
  call'.query = call.query ∧ call'.activeMachines = call.activeMachines ∧
    ((call'.session = call.session ∧ call'.events = call.events) ∨
      ∃ response n more next, result = .ok response ∧
        nextCursor (call.session.cursor.cursorsByMachine.lookup m)
          call.session.includeCurrentActivity response (response.events.take n) = .ok next ∧
        call'.session = call.session.setCursor
          ((call.session.cursor.insertMore m more).setMachineCursor m next) ∧
        call'.events = call.events ++ (response.events.take n).map (m, ·))

variable {result : Except WaitError Response}

theorem completes_apply {hadEvents : Bool}
    (h : call.applyAggregateCompletion m result = .ok (call', hadEvents)) :
    call.Completes m result call' := by
  cases result with
  | error error =>
    cases error with
    | cursorRejected => cases h
    | unavailable =>
      cases h
      exact ⟨rfl, rfl, .inl ⟨rfl, rfl⟩⟩
  | ok response =>
    rw [Call.applyAggregateCompletion] at h
    split at h
    next => cases h
    next next hnext =>
      cases h
      exact ⟨rfl, rfl, .inr ⟨response, _, _, next, rfl, hnext, rfl, rfl⟩⟩

theorem next_frame (call : Call) (timeLeft : Bool) :
    ∃ phase, call.next timeLeft = call.setPhase phase := by
  rw [Call.next]
  split
  next => exact ⟨_, rfl⟩
  next =>
  split
  next => exact ⟨_, rfl⟩
  next =>
  split <;> exact ⟨_, rfl⟩

theorem completes_join {k : ℕ} {timeLeft timeLeft' : Bool} {joined : Except String Call}
    (h : call.join k timeLeft timeLeft' = some joined) :
    ∃ leg result, call.session.pending[k]? = some leg ∧ leg.phase = .done result ∧
      ∀ call', joined = .ok call' →
        (call.setSession (call.session.setPending (call.session.pending.eraseIdx k))).Completes
          leg.machineId result call' := by
  rw [Call.join] at h
  split at h
  next => cases h
  next leg hleg =>
  split at h
  next result hresult =>
    cases h
    refine ⟨leg, result, hleg, hresult, fun call' hcall' => ?_⟩
    cases happlied : (call.setSession (call.session.setPending
        (call.session.pending.eraseIdx k))).applyAggregateCompletion leg.machineId result with
    | error =>
      rw [happlied] at hcall'
      cases hcall'
    | ok applied =>
      rw [happlied] at hcall'
      cases hcall'
      have hcompletes := completes_apply happlied
      obtain ⟨phase, hphase⟩ :=
        next_frame (applied.1.complete leg.machineId applied.2 timeLeft) timeLeft'
      dsimp only
      rw [hphase]
      exact hcompletes
  next => cases h

/-- A machine whose wait was joined: its cursor and its events are as they were, or it has the
events between the old cursor and the new one. -/
def Call.Advances (world : World) (log : Log) (bound : Option ℕ) (m : String)
    (call call' : Call) : Prop :=
  (durableCursor call'.session.cursor m = durableCursor call.session.cursor m ∧
      eventsOf m (durableEvents call'.events) = eventsOf m (durableEvents call.events)) ∨
    ∃ b b', (durableCursor call.session.cursor m = some b ∨
        durableCursor call.session.cursor m = none ∧
          (b = 0 ∨ call.session.fromNow = true ∧ ∀ n, bound = some n → b ≤ n)) ∧
      b ≤ b' ∧ b' ≤ log.head ∧ durableCursor call'.session.cursor m = some b' ∧
      eventsOf m (durableEvents call'.events) = eventsOf m (durableEvents call.events) ++
        log.between (world.keeps m call.session.filters) b b'

/-- The base of a wait of a session. -/
theorem Leg.base_of {session : Session} {leg : Leg} {bound : Option ℕ} {b : ℕ}
    (hof : leg.Of session)
    (hbase : leg.base = some b ∨ leg.base = none ∧ ∀ n, bound = some n → b ≤ n) :
    durableCursor session.cursor leg.machineId = some b ∨
      durableCursor session.cursor leg.machineId = none ∧
        (b = 0 ∨ session.fromNow = true ∧ ∀ n, bound = some n → b ≤ n) := by
  rw [durableCursor, ← hof.cursor, ← hof.fromNow]
  rw [Leg.base] at hbase
  cases hcursor : leg.cursor with
  | some cursor =>
    rw [hcursor] at hbase
    rcases hbase with hbase | hbase
    · exact .inl hbase
    · cases hbase.1
  | none =>
    rw [hcursor] at hbase
    refine .inr ⟨rfl, ?_⟩
    cases hnow : leg.fromNow with
    | true =>
      rw [hnow] at hbase
      rcases hbase with hbase | hbase
      · cases hbase
      · exact .inr ⟨rfl, hbase.2⟩
    | false =>
      rw [hnow] at hbase
      rcases hbase with hbase | hbase
      · cases hbase
        exact .inl rfl
      · cases hbase.1

theorem completion (h : call.session.Ok world logs bounds) {k : ℕ} {leg : Leg}
    (hleg : call.session.pending[k]? = some leg) (hresult : leg.phase = .done result)
    (hcompletes : (call.setSession
      (call.session.setPending (call.session.pending.eraseIdx k))).Completes leg.machineId result
        call') : call'.session.Ok world logs bounds ∧ call'.session.filters = call.session.filters ∧
      call'.session.fromNow = call.session.fromNow ∧
      ∀ m, call.Advances world (logs m) (bounds m) m call' := by
  obtain ⟨herased, hfree⟩ := Session.ok_eraseIdx h hleg
  obtain ⟨-, -, ⟨hsession, hevents⟩ | ⟨response, n, more, next, rfl, hnext, hsession, hevents⟩⟩ :=
    hcompletes
  · rw [hsession]
    refine ⟨herased, rfl, rfl, fun m => .inl ⟨?_, ?_⟩⟩
    · rw [hsession]
      rfl
    · rw [hevents]
      rfl
  · obtain ⟨⟨base, hbase, -, hstands⟩, hof⟩ := h.legs leg (mem_of_getElem? hleg)
    rw [hresult] at hstands
    have hdurables := nextCursor_durables hstands hnext
    have hcursor : ∀ m, durableCursor call'.session.cursor m =
        if m = leg.machineId then
          (next.map MachineCursor.durable).or (durableCursor call.session.cursor leg.machineId)
        else durableCursor call.session.cursor m := by
      intro m
      rw [hsession]
      exact Session.durableCursor_completed _ _ _ _ _
    have hevents' : ∀ m, eventsOf m (durableEvents call'.events) =
        eventsOf m (durableEvents call.events) ++
          if m = leg.machineId then durables (response.events.take n) else [] := by
      intro m
      rw [hevents, durableEvents, filterMap_append, ← durableEvents, ← durableEvents,
        eventsOf_append, eventsOf_emitted]
      rfl
    rw [hsession]
    refine ⟨Session.ok_setMachineCursor herased hfree more fun cursor heq => ?_, rfl, rfl,
      fun m => ?_⟩
    · rcases hdurables with ⟨hnone, -⟩ | ⟨cursor', hsome, -, hhead, -⟩
      · cases hnone.symm.trans heq
      · cases hsome.symm.trans heq
        exact hhead
    · rw [Call.Advances, hcursor, hevents']
      by_cases heq : m = leg.machineId
      · subst heq
        rw [if_pos rfl, if_pos rfl]
        rcases hdurables with ⟨rfl, hnil⟩ | ⟨cursor, rfl, hle, hhead, hbetween⟩
        · rw [hnil, append_nil]
          exact .inl ⟨rfl, rfl⟩
        · refine .inr ⟨base, cursor.durable, Leg.base_of hof hbase, hle, hhead, rfl, ?_⟩
          rw [hbetween, hof.filters]
      · rw [if_neg heq, if_neg heq, append_nil]
        exact .inl ⟨rfl, rfl⟩

end Joining

end Kanna.TaskEvents
