import Kanna.Server.AggregateSteps

/-!
# A later call gets the next events

A call without `from=now` that lists a machine and whose wait on it is answered returns the next
events of interest and moves the checkpoint (`again_advances`). A new session has the checkpoint
from the cursor, or starts at the beginning of the log, so nothing depends on the sessions before.
The call is not refused for the number of machines, because the machine is already in the cursor
(`State.Lists`).
-/

namespace Kanna.TaskEvents

open Durable

/-! ### The machines of a cursor -/

open List

section Lists

variable {world : World} {bounds : String → Option ℕ} {localMachineId unreachable : String}
  {s s' : State} {call call' : Call} {move : Move}

/-- The local machine is among the machines, and there are not too many. -/
structure AggregateCursor.Lists (localMachineId : String) (cursor : AggregateCursor) : Prop where
  nodup : cursor.machineIds.Nodup
  /-- no more than a call may ask -/
  le : cursor.machineIds.length ≤ maxAggregateMachines
  self : localMachineId ∈ cursor.machineIds

/-- The cursors have the machines that the first call reached. -/
structure State.Lists (localMachineId : String) (s : State) : Prop where
  first : ∀ first, s.first = some first → ∃ cursor, s.cursor = some cursor
  cursor : ∀ cursor, s.cursor = some cursor → cursor.Lists localMachineId ∧
    ∀ first, s.first = some first → first.reached ⊆ cursor.machineIds
  call : ∀ call, s.call = some call → call.session.cursor.Lists localMachineId ∧
    call.activeMachines ⊆ call.session.cursor.machineIds ∧
    ∀ first, s.first = some first → first.reached ⊆ call.session.cursor.machineIds

/-- A call with the same machines. -/
theorem State.Lists.setCall (h : s.Lists localMachineId) (hcall : s.call = some call)
    (hmachines : call'.session.cursor.machineIds = call.session.cursor.machineIds)
    (hactive : call'.activeMachines = call.activeMachines) :
    (s.setCall (some call')).Lists localMachineId := by
  refine ⟨h.first, h.cursor, fun _ heq => ?_⟩
  cases heq
  obtain ⟨⟨hnodup, hle, hself⟩, hsubset, hreached⟩ := h.call call hcall
  rw [← hmachines] at hnodup hle hself hsubset hreached
  exact ⟨⟨hnodup, hle, hself⟩, hactive ▸ hsubset, hreached⟩

theorem State.Lists.drop (h : s.Lists localMachineId) : (s.setCall none).Lists localMachineId :=
  ⟨h.first, h.cursor, nofun⟩

variable (h : s.Lists localMachineId)

include h

theorem State.Lists.join (hcall : s.call = some call) {k : ℕ}
    {timeLeft timeLeft' : Bool} (hjoin : call.join k timeLeft timeLeft' = some (.ok call')) :
    (s.setCall (some call')).Lists localMachineId := by
  obtain ⟨leg, result, -, -, hcompletes⟩ := completes_join hjoin
  obtain ⟨-, hactive, ⟨hsession, -⟩ | ⟨response, n, more, next, -, -, hsession, -⟩⟩ :=
    hcompletes call' rfl
  · exact h.setCall hcall (by rw [hsession]; rfl) hactive
  · refine h.setCall hcall ?_ hactive
    rw [hsession]
    cases next <;> rfl

theorem State.Lists.finish (hcall : s.call = some call) : (s.finish call).Lists localMachineId := by
  obtain ⟨hlists, hsubset, hreached⟩ := h.call call hcall
  refine ⟨fun _ _ => ⟨_, rfl⟩, fun _ heq => ?_, nofun⟩
  cases heq
  refine ⟨hlists, fun first hfirst => ?_⟩
  rcases Option.or_eq_some_iff.mp hfirst with hfirst | ⟨-, heq⟩
  · exact hreached first hfirst
  · cases heq
    exact fun m hm => hsubset (mem_of_mem_filter hm)

theorem State.Lists.setPending (pending : List Leg) :
    (s.setPending pending).Lists localMachineId := by
  rw [State.setPending]
  split
  next call hcall => exact h.setCall hcall rfl rfl
  next => exact { h with }

theorem State.Lists.begin (hok : s.Ok world bounds) (query : Query) :
    (s.begin localMachineId unreachable query).Lists localMachineId := by
  have hmachines : ∀ first, s.first = some first →
      first.reached ⊆ (s.takeSession localMachineId query).cursor.machineIds := by
    intro first hfirst
    obtain ⟨cursor, hcursor⟩ := h.first first hfirst
    rw [(takeSession_spec localMachineId hok query).2.1 cursor hcursor]
    exact (h.cursor cursor hcursor).2 first hfirst
  rw [State.begin]
  split
  next => exact { h with }
  next hle =>
    refine ⟨h.first, h.cursor, fun _ heq => ?_⟩
    cases heq
    refine ⟨⟨nodup_dedup _, Nat.not_lt.mp hle, ?_⟩, fun m hm => ?_, fun first hfirst m hm => ?_⟩
    · exact mem_dedup.mpr (mem_append_right _ (mem_dedup.mpr mem_cons_self))
    · exact mem_dedup.mpr (mem_append_right _ hm)
    · refine mem_dedup.mpr (mem_append_left _ ?_)
      rw [(Session.adopt_frame _ _).1]
      exact hmachines first hfirst hm

theorem State.Lists.step (hok : s.Ok world bounds)
    (hstep : step world localMachineId unreachable s move = some s') : s'.Lists localMachineId := by
  cases move with
  | append =>
    obtain ⟨_, heq⟩ := Option.dite_none_right_eq_some.mp hstep
    cases heq
    exact { h with }
  | begin query =>
    rw [TaskEvents.step] at hstep
    split at hstep <;> cases hstep
    exact h.begin hok query
  | start =>
    obtain ⟨call, hcall, heq⟩ := call_of_phase hstep
    cases heq
    refine h.setCall hcall ?_ rfl
    exact congrArg AggregateCursor.machineIds
      (Session.spawnAll_frame call.session call.query.eventLimit call.machinesToStart).1
  | join =>
    obtain ⟨call, hcall, heq⟩ := call_of_phase hstep
    obtain ⟨_ | call', hjoin, rfl⟩ := Option.map_eq_some_iff.mp heq
    · exact h.drop
    · exact h.join hcall hjoin
  | giveUp =>
    obtain ⟨call, hcall, heq⟩ := call_of_phase hstep
    cases heq
    exact h.setCall hcall rfl rfl
  | finish =>
    obtain ⟨call, hcall, heq⟩ := call_of_phase hstep
    cases heq
    exact h.finish hcall
  | fail =>
    obtain ⟨call, -, rfl⟩ := Option.map_eq_some_iff.mp hstep
    exact h.drop
  | evict =>
    cases hstep
    exact { h with }
  | legStart | legRead | legFail =>
    obtain ⟨_, _, -, -, rfl⟩ := modifyLeg_eq_some hstep
    exact h.setPending _

omit h

theorem lists_new (logs : String → Log) : (State.new logs).Lists localMachineId :=
  ⟨nofun, nofun, nofun⟩

end Lists

/-! ### A call on one machine -/

section Again

variable {world : World} {localMachineId unreachable : String} {s : State} {call : Call}
  {cursor : AggregateCursor} {query : Query} {k : ℕ} {leg leg' : Leg} {m : String}

theorem Query.eventLimit_pos (query : Query) : 0 < query.eventLimit := by
  rw [eventLimit]
  omega

/-- A wait that has something to return. -/
theorem Leg.read_page (world : World) (leg : Leg) {log : Log} {position : ℕ}
    (hactivity : leg.includeCurrentActivity = false) (hle : position ≤ log.head)
    (hsome : (log.page (world.keeps leg.machineId leg.filters) position leg.limit).records ≠ [])
    (progress : CurrentActivityProgress) (rows : List String) (timeIsUp : Bool) :
    ∃ response, leg.read world log position progress rows timeIsUp =
        leg.setPhase (.done (.ok response)) ∧
      response.cursor.durable =
        (log.page (world.keeps leg.machineId leg.filters) position leg.limit).cursor ∧
      response.events = map .durable
        (log.page (world.keeps leg.machineId leg.filters) position leg.limit).records := by
  rw [Leg.read, if_neg (Nat.not_lt.mpr hle), Leg.batch, hactivity]
  refine ⟨_, if_pos ?_, rfl, rfl⟩
  simpa [readSequenceBatch] using .inl (.inl hsome)

/-- A call that begins with a new session. -/
def Call.begun (cursor : AggregateCursor) (query : Query) (machineIds active : List String)
    (machineErrors : List (String × String)) (hasMore : Bool) : Call :=
  ⟨(Session.new cursor query).setMachineIds machineIds, query, active, [], machineErrors, [], [],
    hasMore, .starting⟩

theorem begin_eq_begun (unreachable : String) (query : Query)
    (hcursor : s.cursor = some cursor) (hstored : s.stored = none)
    (hlists : cursor.Lists localMachineId)
    (hlisted : ∀ m ∈ query.listed.getD [], m ∈ cursor.machineIds) :
    ∃ machineIds machineErrors hasMore, s.begin localMachineId unreachable query =
      { s with
        stored := none
        call := some (.begun cursor query machineIds (localMachineId :: query.listed.getD []).dedup
          machineErrors hasMore) } := by
  have hsession : (s.takeSession localMachineId query).adopt query = .new cursor query := by
    rw [State.takeSession, hcursor, hstored]
    exact if_neg (by simp [Session.new])
  have hle : (cursor.machineIds ++ (localMachineId :: query.listed.getD []).dedup).dedup.length ≤
      maxAggregateMachines := by
    refine Nat.le_trans (List.Nodup.length_le_of_subset (nodup_dedup _) ?_) hlists.le
    intro m hm
    rcases mem_append.mp (mem_dedup.mp hm) with hm | hm
    · exact hm
    · rcases mem_cons.mp (mem_dedup.mp hm) with rfl | hm
      · exact hlists.self
      · exact hlisted m hm
  rw [State.begin, hsession]
  exact ⟨_, _, _, if_neg (Nat.not_lt.mpr hle)⟩

theorem Session.pending_spawnAll (session : Session) (limit : ℕ) (machines : List String) :
    (machines.foldl (spawnAggregateWait · limit) session).pending =
      session.pending ++ machines.map fun m => ⟨m, session.cursor.cursorsByMachine.lookup m,
        session.filters, session.includeCurrentActivity, session.fromNow, limit, .starting⟩ := by
  induction machines generalizing session with
  | nil => exact (append_nil _).symm
  | cons m machines ih =>
    rw [foldl_cons, ih, map_cons, append_cons]
    rfl

/-- The machine gets a wait that starts from the cursor. -/
theorem Call.start_begun (cursor : AggregateCursor) (query : Query) (machineIds : List String)
    {active : List String} (machineErrors : List (String × String)) (hasMore : Bool)
    (hm : m ∈ active) : ∃ k : ℕ,
    (begun cursor query machineIds active machineErrors hasMore).start.session.pending[k]? =
      some ⟨m, cursor.cursorsByMachine.lookup m, query.filters, query.includeCurrentActivity,
        query.fromNow, query.eventLimit, .starting⟩ := by
  refine mem_iff_getElem?.mp ?_
  rw [show (begun cursor query machineIds active machineErrors hasMore).start.session.pending = _
    from Session.pending_spawnAll _ _ _]
  exact mem_map.mpr ⟨m, mem_filter.mpr ⟨hm, rfl⟩, rfl⟩

/-- A wait of the call is replaced. -/
def Call.setLeg (call : Call) (k : ℕ) (leg : Leg) : Call :=
  call.setSession (call.session.setPending (call.session.pending.set k leg))

theorem Call.pending_setLeg (leg' : Leg) (hleg : call.session.pending[k]? = some leg) :
    (call.setLeg k leg').session.pending[k]? = some leg' := by
  change (call.session.pending.set k leg')[k]? = _
  rw [getElem?_set_self', hleg]
  rfl

theorem modifyLeg_call (hcall : s.call = some call) (hleg : call.session.pending[k]? = some leg)
    {f : Leg → Option Leg} (hf : f leg = some leg') :
    s.modifyLeg k f = some (s.setCall (some (call.setLeg k leg'))) := by
  simp only [State.modifyLeg, State.setPending, State.pending, hcall, hleg, Option.bind_some, hf,
    Option.map_some]
  rfl

/-- There is room for all of an answer. -/
theorem Call.apply_all (call : Call) {response : Response} (m : String) (hevents : call.events = [])
    (hlimit : response.events.length ≤ call.query.eventLimit) :
    ∃ call' hadEvents more, call.applyAggregateCompletion m (.ok response) =
        .ok (call', hadEvents) ∧
      call'.query = call.query ∧ call'.events = response.events.map (m, ·) ∧
      call'.session = call.session.setCursor
        ((call.session.cursor.insertMore m more).setMachineCursor m (some response.cursor)) := by
  have htake : response.events.take (call.query.eventLimit - call.events.length) =
      response.events := by
    rw [hevents]
    exact take_of_length_le hlimit
  have hnext : ∀ previous activity,
      nextCursor previous activity response response.events = .ok (some response.cursor) :=
    fun _ _ => if_pos rfl
  rw [applyAggregateCompletion]
  rw [htake, hnext]
  exact ⟨_, _, _, rfl, rfl, by rw [hevents]; rfl, rfl⟩

/-- All of an answer is returned. -/
theorem Call.join_all {response : Response} (hleg : call.session.pending[k]? = some leg)
    (hphase : leg.phase = .done (.ok response)) (hevents : call.events = [])
    (hsome : response.events ≠ []) (hlimit : response.events.length ≤ call.query.eventLimit)
    (timeLeft timeLeft' : Bool) :
    ∃ call', call.join k timeLeft timeLeft' = some (.ok call') ∧ call'.phase = .ending ∧
      call'.query = call.query ∧
      durableCursor call'.session.cursor leg.machineId = some response.cursor.durable := by
  obtain ⟨applied, hadEvents, more, happly, hquery, hreturned, hsession⟩ :=
    Call.apply_all (call.setSession (call.session.setPending (call.session.pending.eraseIdx k)))
      leg.machineId hevents hlimit
  have hending : (applied.complete leg.machineId hadEvents timeLeft).next timeLeft' =
      (applied.complete leg.machineId hadEvents timeLeft).setPhase .ending := by
    refine if_pos ?_
    have hne : (applied.complete leg.machineId hadEvents timeLeft).events ≠ [] := by
      intro hnil
      exact hsome (map_eq_nil_iff.mp (hreturned.symm.trans hnil))
    simp [hne]
  refine ⟨(applied.complete leg.machineId hadEvents timeLeft).setPhase .ending, ?_, rfl, hquery,
    ?_⟩
  · rw [Call.join, hleg]
    dsimp only
    rw [hphase]
    dsimp only
    rw [happly]
    exact congrArg (some ∘ Except.ok) hending
  · change durableCursor applied.session.cursor leg.machineId = _
    rw [hsession]
    exact (Session.durableCursor_completed _ _ _ _ _).trans (if_pos rfl)

/-- A guard on the waits that start without a checkpoint. -/
def Allows (G : State → Move → Prop) : Prop :=
  ∀ s move, (∀ k ∈ move.started?, ∀ leg ∈ s.pending[k]?, leg.base ≠ none) → G s move

variable {G : State → Move → Prop}

theorem Allows.other (hG : Allows G) {move : Move} (hmove : move.started? = none) : G s move :=
  hG s move fun k hk => (by cases hmove.symm.trans hk)

theorem Leg.start_of_base {base : ℕ} (hbase : leg.base = some base) (log : Log) :
    ∃ progress, leg.start log = leg.setPhase (.reading base progress) := by
  rw [Leg.base] at hbase
  rw [Leg.start]
  cases hcursor : leg.cursor with
  | some cursor =>
    rw [hcursor] at hbase
    cases hbase
    exact ⟨_, rfl⟩
  | none =>
    rw [hcursor] at hbase
    obtain ⟨hnow, hzero⟩ := Option.ite_none_left_eq_some.mp hbase
    cases hzero
    dsimp only
    rw [if_neg hnow]
    exact ⟨_, rfl⟩

/-- A wait starts from its base, reads a page and is joined, and the call returns. -/
theorem wait_advances (world : World) (localMachineId unreachable : String)
    (hG : Allows G) (hcall : s.call = some call)
    (hphase : call.phase = .joining) (hevents : call.events = [])
    (hleg : call.session.pending[k]? = some leg) (hstarting : leg.phase = .starting)
    {base : ℕ} (hbase : leg.base = some base)
    (hactivity : leg.includeCurrentActivity = false) (hlimit : leg.limit = call.query.eventLimit)
    (hpos : 0 < leg.limit) (hle : base ≤ (s.logs leg.machineId).head)
    {event : TaskEvent}
    (hevent : event ∈ (s.logs leg.machineId).between (world.keeps leg.machineId leg.filters)
      base (s.logs leg.machineId).head) :
    ∃ call', Reaches (step world localMachineId unreachable) G s (s.finish call') ∧
      call'.query = call.query ∧
      base < (durableCursor call'.session.cursor leg.machineId).getD 0 := by
  obtain ⟨hrecords, hadvances⟩ := CursorLog.page_advances hpos hevent
  obtain ⟨progress, hstart⟩ := Leg.start_of_base hbase (s.logs leg.machineId)
  obtain ⟨response, hread, hresponse, hreturned⟩ := Leg.read_page world
    (leg.setPhase (.reading base progress)) hactivity hle hrecords progress [] false
  have hreading := Call.pending_setLeg (leg.setPhase (.reading base progress)) hleg
  have hdone := Call.pending_setLeg ((leg.setPhase (.reading base progress)).setPhase
    (.done (.ok response))) hreading
  have hlength : response.events.length ≤ call.query.eventLimit := by
    rw [hreturned, length_map, ← hlimit]
    exact CursorLog.length_page _ _ _
  obtain ⟨call', hjoin, hending, hquery, hcursor'⟩ := Call.join_all hdone rfl hevents
    (fun hnil => hrecords (map_eq_nil_iff.mp (hreturned.symm.trans hnil))) hlength true true
  refine ⟨call', .head (.legStart k) (hG _ _ fun _ heq other hother => ?_)
      (modifyLeg_call hcall hleg (by rw [hstarting, hstart]))
    (.head (.legRead k [] false) (hG.other rfl) (modifyLeg_call rfl hreading (congrArg some hread))
    (.head (.join k true true) (hG.other rfl) (by
      exact (if_pos hphase).trans (congrArg (Option.map _) hjoin))
    (.head .finish (hG.other rfl) (by exact if_pos hending) (.refl _)))), hquery, ?_⟩
  · cases heq
    rw [State.pending, hcall] at hother
    cases hleg.symm.trans hother
    rw [hbase]
    exact Option.some_ne_none _
  · have hcheckpoint : durableCursor call'.session.cursor leg.machineId =
        some response.cursor.durable := hcursor'
    rw [hcheckpoint, Option.getD_some, hresponse]
    exact hadvances

/-- A call for the events of one machine. -/
def again (filters : TaskEventFilters) (m : String) : Query :=
  ⟨filters, false, false, none, true, some [m]⟩

theorem base_of_durableCursor (cursor : AggregateCursor) (m : String) (f : TaskEventFilters)
    (activity : Bool) (limit : ℕ) (phase : LegPhase) :
    Leg.base ⟨m, cursor.cursorsByMachine.lookup m, f, activity, false, limit, phase⟩ =
      some ((durableCursor cursor m).getD 0) := by
  rw [Leg.base, durableCursor]
  cases cursor.cursorsByMachine.lookup m <;> rfl

/-- **The next events.** With an event of interest after the checkpoint, a call moves the
checkpoint. -/
theorem again_advances (localMachineId unreachable : String)
    (hG : Allows G) (hidle : s.call = none) {first : FirstReturn} (hfirst : s.first = some first)
    (hcursor : s.cursor = some cursor) (hlists : cursor.Lists localMachineId)
    (hm : m ∈ cursor.machineIds) (hle : (durableCursor cursor m).getD 0 ≤ (s.logs m).head)
    {f : TaskEventFilters} {event : TaskEvent}
    (hevent : event ∈ (s.logs m).between (world.keeps m f) ((durableCursor cursor m).getD 0)
      (s.logs m).head) :
    ∃ s' after, Reaches (step world localMachineId unreachable) G s s' ∧ s'.call = none ∧
      s'.logs = s.logs ∧ s'.first = some first ∧ s'.cursor = some after ∧
      s'.calls = ⟨f, some cursor, after⟩ :: s.calls ∧
      (durableCursor cursor m).getD 0 < (durableCursor after m).getD 0 := by
  obtain ⟨machineIds, machineErrors, hasMore, hbegin⟩ := begin_eq_begun unreachable (again f m)
    (s := s.setStored none) hcursor rfl hlists
    fun other hother => mem_singleton.mp hother ▸ hm
  obtain ⟨k, hstarted⟩ := Call.start_begun cursor (again f m) machineIds
    machineErrors hasMore (mem_dedup.mpr (mem_cons_of_mem localMachineId (mem_singleton_self m)))
  obtain ⟨call', hreaches, hquery, hadvances⟩ :=
    wait_advances world localMachineId unreachable hG (s := (s.setStored none).setCall (some _))
      rfl rfl rfl hstarted rfl (base_of_durableCursor ..) rfl rfl (again f m).eventLimit_pos hle
      hevent
  have hidle : (s.setStored none).call = none := hidle
  have hbegins : step world localMachineId unreachable (s.setStored none) (.begin (again f m)) =
      some (State.begin localMachineId unreachable (s.setStored none) (again f m)) := by
    rw [step, hidle]
  refine ⟨_, call'.session.cursor, .head .evict (hG.other rfl) rfl (.head _ (hG.other rfl)
    (hbegins.trans (congrArg some hbegin)) (.head .start (hG.other rfl) rfl hreaches)), rfl, rfl,
    ?_, rfl, ?_, hadvances⟩
  · exact (congrArg (Option.or · _) hfirst).trans rfl
  · have hfilters : call'.query.filters = f := congrArg Query.filters hquery
    rw [← hfilters, ← hcursor]
    rfl

end Again

end Kanna.TaskEvents
