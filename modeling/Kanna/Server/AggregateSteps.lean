import Kanna.Server.AggregateSessions

/-!
# What the steps of aggregate waits can do

For one machine, all that matters of a state is its `View`: the log, the cursor and the events
that were returned, and those of the call in progress. `steps_step` says what a step does to it,
and that sessions stay in order.
-/

namespace Kanna.TaskEvents

open Durable

/-! ### States -/

/-- The cursor is within the logs, the registered session is at the cursor, and the session of the
call has the filters that the call asked for. -/
structure State.Ok (world : World) (bounds : String → Option ℕ) (s : State) : Prop where
  cursor : ∀ cursor, s.cursor = some cursor → cursor.Within s.logs
  stored : ∀ session, s.stored = some session →
    session.Ok world s.logs bounds ∧ s.cursor = some session.cursor
  call : ∀ call, s.call = some call → call.session.Ok world s.logs bounds ∧
    call.session.filters = call.query.filters ∧ call.activeMachines.Nodup

theorem AggregateCursor.Within.le_head {logs : String → Log} {cursor : AggregateCursor}
    (h : cursor.Within logs) (m : String) : (durableCursor cursor m).getD 0 ≤ (logs m).head := by
  rw [durableCursor]
  cases hcursor : cursor.cursorsByMachine.lookup m with
  | none => exact Nat.zero_le _
  | some machineCursor => exact h m machineCursor hcursor

/-- A cursor of a machine, and events of it that were returned up to there. -/
structure Entry where
  cursor : Option ℕ
  events : List TaskEvent

/-- The entry that a call in progress would leave, with the filters that it asked for. -/
structure CallEntry : Type extends Entry where
  filters : TaskEventFilters

/-- What matters of a state for one machine. -/
structure View where
  log : Log
  /-- the cursor and the events that were returned -/
  stored : Entry
  call : Option CallEntry

/-- The entry of a machine when the call returns as it stands. -/
def Call.entry (returned : List (String × TaskEvent)) (m : String) (call : Call) : CallEntry :=
  ⟨⟨durableCursor call.session.cursor m, eventsOf m (returned ++ durableEvents call.events)⟩,
    call.query.filters⟩

/-- The state as one machine sees it. -/
def State.view (s : State) (m : String) : View :=
  ⟨s.logs m, ⟨s.cursor.bind (durableCursor · m), eventsOf m s.returned⟩,
    s.call.map (Call.entry s.returned m)⟩

/-- A session that is registered, or that a call has. -/
def State.Has (s : State) (session : Session) : Prop :=
  s.stored = some session ∨ ∃ call, s.call = some call ∧ call.session = session

/-- The session of the call was made with `from=now`. -/
def State.AsksNow (s : State) : Prop := ∃ call, s.call = some call ∧ call.session.fromNow = true

/-- What a step can do for one machine; `asked` is the query of a call that begins with it. A
completion goes on from the cursor that the call has for the machine, from the beginning of the log
if it has none, or with `from=now` from anywhere up to the bound. -/
inductive Effect (world : World) (bound : Option ℕ) (m : String) (asked : Option Query)
    (now : Prop) (v : View) : View → Prop where
  | same : Effect world bound m asked now v v
  | append (event : TaskEvent) (h : v.log.head < event.seq) :
    Effect world bound m asked now v { v with log := v.log.append event h }
  | begin (query : Query) (hasked : asked = some query) :
    Effect world bound m asked now v { v with call := some ⟨v.stored, query.filters⟩ }
  | drop : Effect world bound m asked now v { v with call := none }
  | complete (entry : CallEntry) (b b' : ℕ) (hcall : v.call = some entry)
    (hbase : entry.cursor = some b ∨
      entry.cursor = none ∧ (b = 0 ∨ now ∧ ∀ n, bound = some n → b ≤ n))
    (hle : b ≤ b') (hhead : b' ≤ v.log.head) :
    Effect world bound m asked now v { v with
      call := some ⟨⟨some b', entry.events ++ v.log.between (world.keeps m entry.filters) b b'⟩,
        entry.filters⟩ }
  | finish (entry : CallEntry) (hcall : v.call = some entry) :
    Effect world bound m asked now v { v with
      stored := entry.toEntry, call := none }

/-- What holds of the entries of a machine. -/
structure View.All (P : Log → Entry → Prop) (v : View) : Prop where
  stored : P v.log v.stored
  call : ∀ entry, v.call = some entry → P v.log entry.toEntry

section Effect

variable {P : Log → Entry → Prop} {world : World} {bound : Option ℕ} {m : String}
  {asked : Option Query} {now : Prop} {v v' : View} (heffect : Effect world bound m asked now v v')

include heffect

/-- What new events and completions keep holds after every step. -/
theorem View.All.effect
    (happend : ∀ entry event (hevent : v.log.head < event.seq), P v.log entry →
      P (v.log.append event hevent) entry)
    (hcomplete : ∀ entry : CallEntry, v.call = some entry → ∀ b b', P v.log entry.toEntry →
      (entry.cursor = some b ∨ entry.cursor = none ∧ (b = 0 ∨ now ∧ ∀ n, bound = some n → b ≤ n)) →
      b ≤ b' → b' ≤ v.log.head →
      P v.log ⟨some b', entry.events ++ v.log.between (world.keeps m entry.filters) b b'⟩)
    (h : v.All P) : v'.All P := by
  cases heffect with
  | same => exact h
  | append event hevent =>
    exact ⟨happend _ event hevent h.stored,
      fun entry hcall => happend _ event hevent (h.call entry hcall)⟩
  | begin =>
    refine ⟨h.stored, fun entry hcall => ?_⟩
    cases hcall
    exact h.stored
  | drop => exact ⟨h.stored, nofun⟩
  | complete entry b b' hcall hbase hle hhead =>
    refine ⟨h.stored, fun _ hcall' => ?_⟩
    cases hcall'
    exact hcomplete entry hcall b b' (h.call entry hcall) hbase hle hhead
  | finish entry hcall => exact ⟨h.call entry hcall, fun _ hcall' => (by cases hcall')⟩

/-- The filters of a call are those that it began with. -/
theorem Effect.filters (entry' : CallEntry) (hcall' : v'.call = some entry') :
    (∃ entry, v.call = some entry ∧ entry.filters = entry'.filters) ∨
      ∃ query, asked = some query ∧ query.filters = entry'.filters := by
  cases heffect with
  | same => exact .inl ⟨entry', hcall', rfl⟩
  | append => exact .inl ⟨entry', hcall', rfl⟩
  | begin query hasked =>
    cases hcall'
    exact .inr ⟨query, hasked, rfl⟩
  | drop => cases hcall'
  | complete entry b b' hcall =>
    cases hcall'
    exact .inl ⟨entry, hcall, rfl⟩
  | finish => cases hcall'

/-- The log stays, or an event is appended. -/
theorem Effect.log : v'.log = v.log ∨
    ∃ event, ∃ hevent : v.log.head < event.seq, v'.log = v.log.append event hevent := by
  cases heffect with
  | append event hevent => exact .inr ⟨event, hevent, rfl⟩
  | _ => exact .inl rfl

end Effect

section Steps

variable {world : World} {bounds : String → Option ℕ} {localMachineId unreachable : String}
  {s s' : State} {call call' : Call}

variable {k : ℕ}

theorem modifyLeg_eq_some {f : Leg → Option Leg} (h : s.modifyLeg k f = some s') :
    ∃ leg leg', s.pending[k]? = some leg ∧ f leg = some leg' ∧
      s' = s.setPending (s.pending.set k leg') := by
  obtain ⟨leg', hleg', rfl⟩ := Option.map_eq_some_iff.mp h
  obtain ⟨leg, hleg, hf⟩ := Option.bind_eq_some_iff.mp hleg'
  exact ⟨leg, leg', hleg, hf, rfl⟩

theorem call_of_phase {phase : CallPhase} {f : Call → Option State}
    (h : (s.call.bind fun call => if call.phase = phase then f call else none) = some s') :
    ∃ call, s.call = some call ∧ f call = some s' := by
  obtain ⟨call, hcall, hphase⟩ := Option.bind_eq_some_iff.mp h
  exact ⟨call, hcall, (Option.ite_none_right_eq_some.mp hphase).2⟩

/-! ### Beginning a call -/

open State

/-- The session that a call takes: the stored one, or a new one at the cursor of the watcher. -/
theorem takeSession_spec (localMachineId : String) (h : s.Ok world bounds) (query : Query) :
    (s.takeSession localMachineId query).Ok world s.logs bounds ∧
      (∀ cursor, s.cursor = some cursor →
        (s.takeSession localMachineId query).cursor = cursor) ∧
      (∀ m, durableCursor (s.takeSession localMachineId query).cursor m =
        s.cursor.bind (durableCursor · m)) ∧
      ((∃ session, s.stored = some session ∧
        session.fromNow = (s.takeSession localMachineId query).fromNow) ∨
        s.stored = none ∧ query.fromNow = (s.takeSession localMachineId query).fromNow) := by
  rw [takeSession]
  cases hstored : s.stored with
  | some session =>
    obtain ⟨hok, hcursor⟩ := h.stored session hstored
    rw [hcursor]
    exact ⟨hok, fun _ heq => Option.some.inj heq, fun _ => rfl, .inl ⟨session, rfl, rfl⟩⟩
  | none =>
    cases hcursor : s.cursor with
    | none =>
      exact ⟨Session.ok_new (fun _ _ hlookup => by cases hlookup) query, by rintro _ ⟨⟩,
        fun _ => rfl, .inr ⟨rfl, rfl⟩⟩
    | some cursor =>
      exact ⟨Session.ok_new (h.cursor cursor hcursor) query, fun _ heq => Option.some.inj heq,
        fun _ => rfl, .inr ⟨rfl, rfl⟩⟩

/-! ### Every step -/

/-- No call returns. -/
def State.SameCalls (s s' : State) : Prop :=
  s'.calls = s.calls ∧ s'.cursor = s.cursor ∧ s'.returned = s.returned

/-- What a step can do; `asked` is the query of a call that begins with it. -/
structure Steps (world : World) (bounds : String → Option ℕ) (asked : Option Query)
    (s s' : State) : Prop where
  ok : s'.Ok world bounds
  /-- a call is recorded when it finishes -/
  calls : s.SameCalls s' ∨ ∃ call, s.call = some call ∧ s' = s.finish call
  first : s'.first = s.first ∨
    s.first = none ∧ ∃ reached, s'.first = some ⟨fun m => (s'.logs m).head, reached⟩
  fromNow : ∀ session, s'.Has session →
    (∃ other, s.Has other ∧ other.fromNow = session.fromNow) ∨
      s.stored = none ∧ ∃ query, asked = some query ∧ query.fromNow = session.fromNow
  /-- what it does to each machine -/
  effect : ∀ m, Effect world (bounds m) m asked s.AsksNow (s.view m) (s'.view m)

variable {asked : Option Query}

/-- No call returns, and none begins. -/
theorem steps_frame (hok : s'.Ok world bounds) (hcalls : s.SameCalls s')
    (hfirst : s'.first = s.first)
    (hhas : ∀ session, s'.Has session → ∃ other, s.Has other ∧ other.fromNow = session.fromNow)
    (heffect : ∀ m, Effect world (bounds m) m asked s.AsksNow (s.view m) (s'.view m)) :
    Steps world bounds asked s s' :=
  ⟨hok, .inl hcalls, .inl hfirst, fun session hsession => .inl (hhas session hsession), heffect⟩

variable {m : String}

theorem effect_of_eq {bound : Option ℕ} {now : Prop} {v v' : View} (h : v' = v) :
    Effect world bound m asked now v v' :=
  h ▸ .same

/-- The sessions once the call has another one. -/
theorem has_setCall (hcall : s.call = some call)
    (hnow : call'.session.fromNow = call.session.fromNow) (session : Session)
    (hhas : (s.setCall (some call')).Has session) :
    ∃ other, s.Has other ∧ other.fromNow = session.fromNow := by
  rcases hhas with hstored | ⟨_, heq, hsession⟩
  · exact ⟨session, .inl hstored, rfl⟩
  · cases heq
    exact ⟨call.session, .inr ⟨call, hcall, rfl⟩, hsession ▸ hnow.symm⟩

theorem view_setCall (s : State) (call : Call) (m : String) :
    (s.setCall (some call)).view m =
      { s.view m with call := some (Call.entry s.returned m call) } := rfl

theorem view_call (hcall : s.call = some call) (m : String) :
    (s.view m).call = some (Call.entry s.returned m call) := by
  rw [view, hcall]
  rfl

/-- A call with the same entry. -/
theorem view_of_entry (hcall : s.call = some call)
    (hentry : Call.entry s.returned m call' = Call.entry s.returned m call) :
    (s.setCall (some call')).view m = s.view m := by
  rw [view_setCall, hentry, ← view_call hcall]

variable (h : s.Ok world bounds)

include h

theorem steps_append {event : TaskEvent} (hevent : (s.logs m).head < event.seq) :
    Steps world bounds asked s
      { s with logs := Function.update s.logs m ((s.logs m).append event hevent) } := by
  refine steps_frame ⟨fun cursor hcursor => ?_, fun session hstored => ?_, fun call hcall => ?_⟩
    ⟨rfl, rfl, rfl⟩ rfl (fun session hhas => ⟨session, hhas, rfl⟩) fun other => ?_
  · exact within_append (h.cursor cursor hcursor) hevent
  · obtain ⟨hok, heq⟩ := h.stored session hstored
    exact ⟨Session.ok_append hok hevent, heq⟩
  · obtain ⟨hok, hfilters, hnodup⟩ := h.call call hcall
    exact ⟨Session.ok_append hok hevent, hfilters, hnodup⟩
  · by_cases heq : other = m
    · subst heq
      have hview : view
          { s with logs := Function.update s.logs other ((s.logs other).append event hevent) }
            other = { s.view other with log := (s.logs other).append event hevent } :=
        congrArg (View.mk · _ _) (Function.update_self other _ s.logs)
      rw [hview]
      exact .append event hevent
    · exact effect_of_eq (congrArg (View.mk · _ _) (Function.update_of_ne heq _ s.logs))

theorem steps_begin (hidle : s.call = none) (query : Query) :
    Steps world bounds (some query) s (s.begin localMachineId unreachable query) := by
  rw [State.begin]
  split
  next =>
    refine ⟨⟨h.cursor, nofun, fun call hcall => ?_⟩,
      .inl ⟨rfl, rfl, rfl⟩, .inl rfl, ?_, fun _ => .same⟩
    · cases hidle.symm.trans hcall
    rintro session (hstored | ⟨call, hcall, -⟩)
    · cases hstored
    · cases hidle.symm.trans hcall
  next =>
    obtain ⟨hok, -, hcursor, hnow⟩ := takeSession_spec localMachineId h query
    obtain ⟨hcursor', hnow', hfilters⟩ :=
      Session.adopt_frame (s.takeSession localMachineId query) query
    refine ⟨⟨h.cursor, nofun, fun _ hcall => ?_⟩,
      .inl ⟨rfl, rfl, rfl⟩, .inl rfl, ?_, fun m => ?_⟩
    · cases hcall
      exact ⟨Session.ok_setMachineIds (Session.ok_adopt hok query) _, hfilters,
        List.nodup_dedup _⟩
    · rintro session (hstored | ⟨_, hcall, rfl⟩)
      · cases hstored
      · cases hcall
        rcases hnow with ⟨session, hstored, heq⟩ | ⟨hnone, heq⟩
        · exact .inl ⟨session, .inl hstored, heq.trans hnow'.symm⟩
        · exact .inr ⟨hnone, query, rfl, heq.trans hnow'.symm⟩
    · have hentry : (s.view m).stored =
          ⟨durableCursor ((s.takeSession localMachineId query).adopt query).cursor m,
            eventsOf m (s.returned ++ [])⟩ := by
        rw [hcursor', hcursor, List.append_nil]
        rfl
      exact (congrArg (fun entry => Effect world (bounds m) m (some query) s.AsksNow (s.view m)
        { s.view m with call := some ⟨entry, query.filters⟩ }) hentry).mp (.begin query rfl)

theorem steps_start (hcall : s.call = some call) :
    Steps world bounds asked s (s.setCall (some call.start)) := by
  obtain ⟨hok, hfilters, hnodup⟩ := h.call call hcall
  obtain ⟨hcursor, hsame, hnow⟩ :=
    Session.spawnAll_frame call.session call.query.eventLimit call.machinesToStart
  refine steps_frame ⟨h.cursor, h.stored, fun _ heq => ?_⟩ ⟨rfl, rfl, rfl⟩ rfl
    (has_setCall hcall hnow) fun m => effect_of_eq (view_of_entry hcall ?_)
  · cases heq
    refine ⟨?_, hsame.trans hfilters, hnodup⟩
    refine Session.ok_spawnAll _ _ (hnodup.filter _) hok fun m hm hpending => ?_
    have hnot := (List.mem_filter.mp hm).2
    simp [hpending] at hnot
  · exact congrArg (fun cursor => CallEntry.mk ⟨durableCursor cursor m, _⟩ _) hcursor

theorem steps_drop : Steps world bounds asked s (s.setCall none) := by
  refine steps_frame ⟨h.cursor, h.stored, nofun⟩ ⟨rfl, rfl, rfl⟩ rfl ?_ fun _ => .drop
  rintro session (hstored | ⟨_, heq, -⟩)
  · exact ⟨session, .inl hstored, rfl⟩
  · cases heq

theorem steps_finish (hcall : s.call = some call) : Steps world bounds asked s (s.finish call) := by
  obtain ⟨hok, -, -⟩ := h.call call hcall
  refine ⟨⟨fun _ heq => ?_, fun _ heq => ?_, nofun⟩, .inr ⟨call, hcall, rfl⟩, ?_, ?_,
    fun m => .finish _ (view_call hcall m)⟩
  · cases heq
    exact hok.within
  · cases heq
    exact ⟨hok, rfl⟩
  · cases hfirst : s.first with
    | none => exact .inr ⟨rfl, _, by rw [finish, hfirst]; rfl⟩
    | some first => exact .inl (by rw [finish, hfirst]; rfl)
  · rintro session (heq | ⟨_, heq, -⟩)
    · cases heq
      exact .inl ⟨call.session, .inr ⟨call, hcall, rfl⟩, rfl⟩
    · cases heq

theorem steps_join (hcall : s.call = some call)
    {timeLeft timeLeft' : Bool} (hjoin : call.join k timeLeft timeLeft' = some (.ok call')) :
    Steps world bounds asked s (s.setCall (some call')) := by
  obtain ⟨hok, hfilters, hnodup⟩ := h.call call hcall
  obtain ⟨leg, result, hleg, hresult, hcompletes⟩ := completes_join hjoin
  have hcompletes := hcompletes call' rfl
  obtain ⟨hok', hfilters', hnow, hadvances⟩ := completion hok hleg hresult hcompletes
  refine steps_frame ⟨h.cursor, h.stored, fun _ heq => ?_⟩ ⟨rfl, rfl, rfl⟩ rfl
    (has_setCall hcall hnow) fun m => ?_
  · cases heq
    rw [hcompletes.1, hcompletes.2.1]
    exact ⟨hok', hfilters'.trans hfilters, hnodup⟩
  · rcases hadvances m with ⟨hcursor, hevents⟩ | ⟨b, b', hbase, hle, hhead, hcursor, hevents⟩
    · refine effect_of_eq (view_of_entry hcall ?_)
      rw [Call.entry, Call.entry, hcursor, hcompletes.1, eventsOf_append, eventsOf_append, hevents]
      rfl
    · have hentry : Call.entry s.returned m call' =
          ⟨⟨some b', (Call.entry s.returned m call).events ++
            (s.logs m).between (world.keeps m call.query.filters) b b'⟩, call.query.filters⟩ := by
        rw [Call.entry, Call.entry, hcursor, hcompletes.1, eventsOf_append, eventsOf_append,
          hevents, hfilters, List.append_assoc]
        rfl
      rw [view_setCall, hentry]
      refine .complete _ b b' (view_call hcall m) ?_ hle hhead
      exact hbase.imp id fun hnone =>
        ⟨hnone.1, hnone.2.imp id fun hnow => ⟨⟨call, hcall, hnow.1⟩, hnow.2⟩⟩

/-- One of the waits takes a step. -/
theorem steps_setLeg {leg : Leg} (hleg : s.pending[k]? = some leg) {phase : LegPhase}
    (hphase : leg.Ok world (s.logs leg.machineId) (bounds leg.machineId) →
      (leg.setPhase phase).Ok world (s.logs leg.machineId) (bounds leg.machineId)) :
    Steps world bounds asked s (s.setPending (s.pending.set k (leg.setPhase phase))) := by
  have hset : ∀ session : Session, session.Ok world s.logs bounds → session.pending[k]? = some leg →
      (session.setPending (session.pending.set k (leg.setPhase phase))).Ok world s.logs bounds := by
    intro session hok hpending
    obtain ⟨hlegOk, hof⟩ := hok.legs leg (List.mem_of_getElem? hpending)
    exact Session.ok_set hok hpending (hphase hlegOk) { hof with } rfl
  -- the call has the session if there is one, and the registered session has the waits otherwise
  cases hcall : s.call with
  | some call =>
    rw [pending, hcall] at hleg
    rw [setPending, pending, hcall]
    obtain ⟨hok, hfilters, hnodup⟩ := h.call call hcall
    refine steps_frame ⟨h.cursor, h.stored, fun _ heq => ?_⟩ ⟨rfl, rfl, rfl⟩ rfl
      (has_setCall hcall rfl) fun m => effect_of_eq (view_of_entry hcall rfl)
    cases heq
    exact ⟨hset call.session hok hleg, hfilters, hnodup⟩
  | none =>
    rw [pending, hcall] at hleg
    rw [setPending, pending, hcall]
    cases hstored : s.stored with
    | none =>
      rw [hstored] at hleg
      cases hleg
    | some session =>
      rw [hstored] at hleg
      obtain ⟨hok, hcursor⟩ := h.stored session hstored
      refine steps_frame ⟨h.cursor, fun _ heq => ?_, h.call⟩ ⟨rfl, rfl, rfl⟩ rfl ?_ fun m => .same
      · cases heq
        exact ⟨hset session hok hleg, hcursor⟩
      · rintro _ (heq | hcalled)
        · cases heq
          exact ⟨session, .inl hstored, rfl⟩
        · exact ⟨_, .inr hcalled, rfl⟩

omit h

/-- The query of a call that begins. -/
def Move.query? : Move → Option Query
  | .begin query => some query
  | _ => none

/-- The wait that starts. -/
def Move.started? : Move → Option ℕ
  | .legStart k => some k
  | _ => none

/-- A wait that starts from the head of its log is within the bound. -/
def Move.Pins (bounds : String → Option ℕ) (s : State) (move : Move) : Prop :=
  ∀ k ∈ move.started?, ∀ leg ∈ s.pending[k]?, leg.base = none →
    ∀ n, bounds leg.machineId = some n → (s.logs leg.machineId).head ≤ n

/-- **What a step can do.** -/
theorem steps_step (h : s.Ok world bounds) {move : Move} (hpin : move.Pins bounds s)
    (hstep : step world localMachineId unreachable s move = some s') :
    Steps world bounds move.query? s s' := by
  cases move with
  | append m event =>
    obtain ⟨hevent, heq⟩ := Option.dite_none_right_eq_some.mp hstep
    cases heq
    exact steps_append h hevent
  | begin query =>
    rw [step] at hstep
    split at hstep <;> cases hstep
    next hidle => exact steps_begin h hidle query
  | start =>
    obtain ⟨call, hcall, heq⟩ := call_of_phase hstep
    cases heq
    exact steps_start h hcall
  | join =>
    obtain ⟨call, hcall, heq⟩ := call_of_phase hstep
    obtain ⟨_ | call', hjoin, rfl⟩ := Option.map_eq_some_iff.mp heq
    · exact steps_drop h
    · exact steps_join h hcall hjoin
  | giveUp =>
    obtain ⟨call, hcall, heq⟩ := call_of_phase hstep
    cases heq
    refine steps_frame ⟨h.cursor, h.stored, fun _ heq => ?_⟩ ⟨rfl, rfl, rfl⟩ rfl
      (has_setCall hcall rfl) fun m => effect_of_eq (view_of_entry hcall rfl)
    cases heq
    exact h.call call hcall
  | finish =>
    obtain ⟨call, hcall, heq⟩ := call_of_phase hstep
    cases heq
    exact steps_finish h hcall
  | fail =>
    obtain ⟨call, -, rfl⟩ := Option.map_eq_some_iff.mp hstep
    exact steps_drop h
  | evict =>
    cases hstep
    refine steps_frame ⟨h.cursor, nofun, h.call⟩ ⟨rfl, rfl, rfl⟩ rfl ?_ fun _ => .same
    rintro session (heq | hcalled)
    · cases heq
    · exact ⟨session, .inr hcalled, rfl⟩
  | legStart k =>
    obtain ⟨leg, leg', hleg, hf, rfl⟩ := modifyLeg_eq_some hstep
    split at hf <;> cases hf
    exact steps_setLeg h hleg fun hok => Leg.ok_start hok (hpin k rfl leg hleg)
  | legRead k rows timeIsUp =>
    obtain ⟨leg, leg', hleg, hf, rfl⟩ := modifyLeg_eq_some hstep
    split at hf <;> cases hf
    next cursor progress hphase =>
      obtain ⟨phase, heq⟩ := Leg.read_phase world leg (s.logs leg.machineId) cursor progress rows
        timeIsUp
      rw [heq]
      exact steps_setLeg h hleg fun hok => heq ▸ Leg.ok_read hphase hok rows timeIsUp
  | legFail k error =>
    obtain ⟨leg, leg', hleg, hf, rfl⟩ := modifyLeg_eq_some hstep
    split at hf <;> cases hf
    refine steps_setLeg h hleg fun hok => ?_
    exact Leg.ok_setPhase hok fun _ _ => trivial

theorem ok_state_new (logs : String → Log) : (new logs).Ok world bounds := ⟨nofun, nofun, nofun⟩

end Steps

end Kanna.TaskEvents
