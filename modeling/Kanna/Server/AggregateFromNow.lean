import Kanna.Server.AggregateExactlyOnce
import Kanna.Server.AggregateProgress

/-!
# Aggregate waits that start now

A watcher that starts with `from=now` gets the events that come after its first call has returned:
on the machines that the first call reached, a call that passes an event in scope returns it, unless
its own filters exclude it, and an event that no call has passed can still be returned, as long as
no wait on such a machine takes the head of its log later.

That happens if a machine has not answered when the first call returns, and its wait is lost: it is
aborted because the next call has other filters, or its session is evicted, or it is still on its
way. The session keeps `from=now`, so the next wait without a checkpoint starts at the head of
that moment.
-/

namespace Kanna.TaskEvents

/-- The heads of the logs when the first call returned, for the machines that it reached. -/
def State.bounds (s : State) (m : String) : Option ℕ :=
  s.first.bind fun first => if m ∈ first.reached then some (first.heads m) else none

/-- No wait on a machine that the first call reached takes the head of its log after that call. -/
def KeepsStart (s : State) (move : Move) : Prop :=
  ∀ k ∈ move.started?, ∀ leg ∈ s.pending[k]?, leg.base = none → ∀ first ∈ s.first,
    leg.machineId ∉ first.reached

instance (s : State) (move : Move) : Decidable (KeepsStart s move) :=
  inferInstanceAs (Decidable (∀ k ∈ move.started?, _))

/-- An event in scope that came after the first call on a machine that it reached. -/
structure State.Awaits (world : World) (s : State) (m : String) (event : TaskEvent) : Prop where
  /-- the first call reached the machine and has returned before -/
  first : ∃ first, s.first = some first ∧ m ∈ first.reached ∧ first.heads m < event.seq
  appended : event ∈ (s.logs m).records
  inScope : world.inScope m event = true

/-- The cursor of the machine went past the number in the call. -/
def Finished.Passes (record : Finished) (m : String) (seq : ℕ) : Prop :=
  (record.before.bind (durableCursor · m)).getD 0 < seq ∧
    seq ≤ (durableCursor record.after m).getD 0

/-- A call that passes an event returns it, unless the filters that the call asked for exclude it;
and the checkpoint is past an event only if a call passed it. -/
def State.NoneOmitted (world : World) (s : State) : Prop :=
  ∀ m event, s.Awaits world m event →
    (∀ record ∈ s.calls, record.Passes m event.seq →
      event ∈ eventsOf m s.returned ∨ world.excludes m record.filters event = true) ∧
    (event.seq ≤ s.checkpoint m → ∃ record ∈ s.calls, record.Passes m event.seq)

/-- Later calls with any filters that do not exclude an event return it, if the checkpoint is not
past it. -/
def State.ReturnsLater (world : World) (localMachineId unreachable : String) (s : State) : Prop :=
  ∀ m event f, s.Awaits world m event → s.checkpoint m < event.seq →
    world.excludes m f event = false →
    ∃ s', Reaches (step world localMachineId unreachable) KeepsStart s s' ∧
      event ∈ eventsOf m s'.returned

/-! ### One machine -/

variable {event : TaskEvent}

section Passed

variable {world : World} {m : String} {n b b' : ℕ} {asked : Option Query} {now : Prop} {log : Log}
  {f : TaskEventFilters} {events events' : List TaskEvent} {v v' : View}

theorem keeps_of_included (hscope : world.inScope m event = true)
    (hincluded : world.excludes m f event = false) : world.keeps m f event = true := by
  rw [World.keeps, hscope, hincluded]
  rfl

/-- The events in scope after `n` that are passed from `b` to `b'` were returned, or the filters
exclude them. -/
def Passed (world : World) (m : String) (n : ℕ) (f : TaskEventFilters) (log : Log) (b b' : ℕ)
    (events : List TaskEvent) : Prop :=
  ∀ event ∈ log.records, n < event.seq → world.inScope m event = true → b < event.seq →
    event.seq ≤ b' → event ∈ events ∨ world.excludes m f event = true

/-- Nothing after `n` is passed yet. -/
theorem passed_of_le (hle : b' ≤ n) : Passed world m n f log b b' events :=
  fun _ _ hn _ _ hb' => absurd hn (Nat.not_lt.mpr (Nat.le_trans hb' hle))

theorem Passed.mono (h : Passed world m n f log b b' events) (hsubset : events ⊆ events') :
    Passed world m n f log b b' events' :=
  fun event hevent hn hscope hb hb' => (h event hevent hn hscope hb hb').imp (hsubset ·) id

/-- A new event is not passed yet. -/
theorem Passed.effect {bound : Option ℕ} (heffect : Effect world bound m asked now v v')
    (hle : b' ≤ v.log.head) (h : Passed world m n f v.log b b' events) :
    Passed world m n f v'.log b b' events := by
  rcases heffect.log with heq | ⟨event, hevent, heq⟩
  · exact heq ▸ h
  · rw [heq]
    intro other hother hn hscope hb hb'
    rcases List.mem_append.mp hother with hother | hother
    · exact h other hother hn hscope hb hb'
    · rw [List.mem_singleton.mp hother] at hb'
      exact absurd hevent (Nat.not_lt.mpr (Nat.le_trans hb' hle))

/-- The call goes on from its cursor, or from somewhere up to `n`. -/
theorem Passed.extend {entry : CallEntry}
    (h : Passed world m n entry.filters log b (entry.cursor.getD 0) entry.events) {start : ℕ}
    (hstart : start ≤ entry.cursor.getD 0 ∨ start ≤ n) : Passed world m n entry.filters log b b'
      (entry.events ++ log.between (world.keeps m entry.filters) start b') := by
  intro event hevent hn hscope hb hb'
  by_cases hold : event.seq ≤ entry.cursor.getD 0
  · exact (h event hevent hn hscope hb hold).imp (List.mem_append_left _) id
  · cases hexcludes : world.excludes m entry.filters event with
    | true => exact .inr rfl
    | false =>
      refine .inl (List.mem_append_right _ (CursorLog.mem_between.mpr ⟨hevent, ?_, ?_, hb'⟩))
      · exact keeps_of_included hscope hexcludes
      · omega

/-- The call in progress has what it passed since the last one. -/
def View.Covers (world : World) (m : String) (n : ℕ) (v : View) : Prop :=
  ∀ entry, v.call = some entry → Passed world m n entry.filters v.log (v.stored.cursor.getD 0)
    (entry.cursor.getD 0) entry.events

theorem View.Covers.effect (heffect : Effect world (some n) m asked now v v')
    (hwithin : v.All fun log entry => entry.cursor.getD 0 ≤ log.head) (h : v.Covers world m n) :
    v'.Covers world m n := by
  have hgrows := heffect
  cases heffect with
  | same => exact h
  | append event hevent =>
    exact fun entry hcall => (h entry hcall).effect hgrows (hwithin.call entry hcall)
  | begin query hasked =>
    intro entry hcall
    cases hcall
    exact fun event _ _ _ hb hb' => absurd hb (Nat.not_lt.mpr hb')
  | drop => exact nofun
  | complete entry b b' hcall hbase hle hhead =>
    intro _ hcall'
    cases hcall'
    refine (h entry hcall).extend ?_
    rcases hbase with hcursor | ⟨-, rfl | ⟨-, hbound⟩⟩
    · rw [hcursor]
      exact .inl (Nat.le_refl b)
    · exact .inl (Nat.zero_le _)
    · exact .inr (hbound n rfl)
  | finish => exact nofun

end Passed

/-! ### All machines -/

section FromNow

variable {world : World} {bounds : String → Option ℕ} {localMachineId unreachable : String}
  {s s' : State} {move : Move}

theorem State.Ok.within (h : s.Ok world bounds) (m : String) :
    (s.view m).All fun log entry => entry.cursor.getD 0 ≤ log.head := by
  refine ⟨?_, fun entry hentry => ?_⟩
  · change (s.cursor.bind (durableCursor · m)).getD 0 ≤ (s.logs m).head
    cases hcursor : s.cursor with
    | none => exact Nat.zero_le _
    | some cursor => exact (h.cursor cursor hcursor).le_head m
  · obtain ⟨call, hcall, rfl⟩ := Option.map_eq_some_iff.mp hentry
    exact (h.call call hcall).1.within.le_head m

variable {bounds' : String → Option ℕ}

theorem Session.Ok.mono {logs : String → Log} {session : Session} (h : session.Ok world logs bounds)
    (hbounds : ∀ m base, base ≤ (logs m).head → (∀ n, bounds m = some n → base ≤ n) →
      ∀ n, bounds' m = some n → base ≤ n) : session.Ok world logs bounds' := by
  refine ⟨fun leg hleg => ?_, h.nodup, h.within⟩
  obtain ⟨⟨base, hbase, hle, hstands⟩, hrest⟩ := h.legs leg hleg
  refine ⟨⟨base, hbase.imp id fun hnone => ⟨hnone.1, ?_⟩, hle, hstands⟩, hrest⟩
  exact hbounds leg.machineId base hle hnone.2

theorem State.Ok.mono (h : s.Ok world bounds)
    (hbounds : ∀ m base, base ≤ (s.logs m).head → (∀ n, bounds m = some n → base ≤ n) →
      ∀ n, bounds' m = some n → base ≤ n) : s.Ok world bounds' :=
  ⟨h.cursor, fun session hstored => ⟨(h.stored session hstored).1.mono hbounds,
      (h.stored session hstored).2⟩,
    fun call hcall => ⟨(h.call call hcall).1.mono hbounds, (h.call call hcall).2⟩⟩

/-- The calls that have returned led from the beginning to the cursor, within the logs. -/
structure State.Recorded (s : State) : Prop where
  within : ∀ record ∈ s.calls, ∀ m, (durableCursor record.after m).getD 0 ≤ (s.logs m).head
  chained : ∀ m seq, 0 < seq → seq ≤ s.checkpoint m → ∃ record ∈ s.calls, record.Passes m seq

/-- The calls that have returned, and the one in progress, have what they passed after the first
call returned. -/
structure State.Covered (world : World) (s : State) : Prop where
  ok : s.Ok world s.bounds
  recorded : s.Recorded
  call : ∀ m n, s.bounds m = some n → (s.view m).Covers world m n
  calls : ∀ record ∈ s.calls, ∀ m n, s.bounds m = some n →
    Passed world m n record.filters (s.logs m) ((record.before.bind (durableCursor · m)).getD 0)
      ((durableCursor record.after m).getD 0) (eventsOf m s.returned)

variable {m : String}

theorem bounds_of_first {first : FirstReturn} (hfirst : s.first = some first) {n : ℕ}
    (hbound : s.bounds m = some n) : m ∈ first.reached ∧ n = first.heads m := by
  rw [State.bounds, hfirst] at hbound
  obtain ⟨hmem, heq⟩ := Option.ite_none_right_eq_some.mp hbound
  exact ⟨hmem, (Option.some.inj heq).symm⟩

theorem KeepsStart.pins (h : KeepsStart s move) : move.Pins s.bounds s := by
  intro k hk leg hleg hbase n hbound
  obtain ⟨first, hfirst, -⟩ := Option.bind_eq_some_iff.mp hbound
  exact absurd (bounds_of_first hfirst hbound).1 (h k hk leg hleg hbase first hfirst)

variable {asked : Option Query}

/-- The call that returns goes on from the cursor. -/
theorem State.Recorded.steps (h : s.Recorded) (hsteps : Steps world bounds asked s s') :
    s'.Recorded := by
  have hgrows : ∀ m, (s.logs m).head ≤ (s'.logs m).head := by
    intro m
    rcases (hsteps.effect m).log with heq | ⟨event, hevent, heq⟩
    · exact Nat.le_of_eq (congrArg CursorLog.head heq.symm)
    · exact Nat.le_trans (Nat.le_of_lt hevent) (Nat.le_of_eq (congrArg CursorLog.head heq.symm))
  rcases hsteps.calls with ⟨hcalls, hcursor, -⟩ | ⟨call, hcall, rfl⟩
  · refine ⟨fun record hrecord m => ?_, fun m seq hpos hseq => ?_⟩
    · exact Nat.le_trans (h.within record (hcalls ▸ hrecord) m) (hgrows m)
    · rw [hcalls]
      rw [checkpoint, hcursor] at hseq
      exact h.chained m seq hpos hseq
  · refine ⟨fun record hrecord m => ?_, fun m seq hpos hseq => ?_⟩
    · rcases List.mem_cons.mp hrecord with rfl | hrecord
      · exact (hsteps.ok.cursor _ rfl).le_head m
      · exact h.within record hrecord m
    · by_cases hbefore : seq ≤ s.checkpoint m
      · obtain ⟨record, hrecord, hpasses⟩ := h.chained m seq hpos hbefore
        exact ⟨record, List.mem_cons_of_mem _ hrecord, hpasses⟩
      · exact ⟨_, List.mem_cons_self, Nat.not_le.mp hbefore, hseq⟩

/-- After the first call has returned. -/
theorem State.Covered.steps (h : s.Covered world) (hsteps : Steps world s.bounds asked s s')
    (hsame : s'.first = s.first) : s'.Covered world := by
  have hbounds : s'.bounds = s.bounds := by
    funext m
    rw [State.bounds, State.bounds, hsame]
  refine ⟨hbounds ▸ hsteps.ok, h.recorded.steps hsteps, fun m n hbound => ?_,
    fun record hrecord m n hbound => ?_⟩
  all_goals
    rw [hbounds] at hbound
    have heffect := hsteps.effect m
    rw [hbound] at heffect
  · exact (h.call m n hbound).effect heffect (h.ok.within m)
  · have hold : record ∈ s.calls → _ := fun hmem =>
      (h.calls record hmem m n hbound).effect heffect (h.recorded.within record hmem m)
    rcases hsteps.calls with ⟨hcalls, -, hreturned⟩ | ⟨call, hcall, rfl⟩
    · rw [hreturned]
      exact hold (hcalls ▸ hrecord)
    · rcases List.mem_cons.mp hrecord with rfl | hmem
      · exact h.call m n hbound _ (view_call hcall m)
      · refine (hold hmem).mono ?_
        rw [State.finish, eventsOf_append]
        exact List.subset_append_left ..

theorem State.Covered.step (hkeeps : KeepsStart s move)
    (hstep : step world localMachineId unreachable s move = some s') (h : s.Covered world) :
    s'.Covered world := by
  have hsteps := steps_step h.ok hkeeps.pins hstep
  rcases hsteps.first with hsame | ⟨-, reached, hreturned⟩
  · exact h.steps hsteps hsame
  · -- the first call returns: nothing is to be covered yet
    have hhead : ∀ m n, s'.bounds m = some n → n = (s'.logs m).head :=
      fun m n hbound => (bounds_of_first hreturned hbound).2
    have hrecorded := h.recorded.steps hsteps
    refine ⟨hsteps.ok.mono fun m base hle _ n hbound => hhead m n hbound ▸ hle, hrecorded,
      fun m n hbound entry hcall => ?_, fun record hrecord m n hbound => ?_⟩
    · rw [hhead m n hbound]
      exact passed_of_le ((hsteps.ok.within m).call entry hcall)
    · rw [hhead m n hbound]
      exact passed_of_le (hrecorded.within record hrecord m)

theorem covered_new (logs : String → Log) : (State.new logs).Covered world :=
  ⟨ok_state_new logs, ⟨nofun, fun _ _ hpos hseq => absurd hpos (Nat.not_lt.mpr hseq)⟩, nofun, nofun⟩

theorem State.Covered.noneOmitted (h : s.Covered world) : s.NoneOmitted world := by
  intro m event hawaits
  obtain ⟨first, hfirst, hm, hlt⟩ := hawaits.first
  have hbound : s.bounds m = some (first.heads m) := by
    rw [State.bounds, hfirst]
    exact if_pos hm
  refine ⟨fun record hrecord hpasses => ?_, h.recorded.chained m _ (Nat.zero_lt_of_lt hlt)⟩
  exact h.calls record hrecord m _ hbound event hawaits.appended hlt hawaits.inScope hpasses.1
    hpasses.2

/-! ### Later calls -/

theorem allows_keepsStart : Allows KeepsStart :=
  fun _ _ hbase k hk leg hleg hnone => absurd hnone (hbase k hk leg hleg)

/-- The cursor covers what was returned, and the next call can go on from it. -/
structure State.Resumable (world : World) (localMachineId : String) (s : State) : Prop where
  covered : s.Covered world
  lists : s.Lists localMachineId

theorem State.Resumable.step (h : s.Resumable world localMachineId) (hkeeps : KeepsStart s move)
    (hstep : step world localMachineId unreachable s move = some s') :
    s'.Resumable world localMachineId :=
  ⟨h.covered.step hkeeps hstep, h.lists.step h.covered.ok hstep⟩

variable {f : TaskEventFilters}

/-- Call after call, until the checkpoint is past the event. -/
theorem returned_of_idle (unreachable : String) (n : ℕ) (hs : s.Resumable world localMachineId)
    (hidle : s.call = none) (hawaits : s.Awaits world m event)
    (hincluded : world.excludes m f event = false) (hahead : s.checkpoint m < event.seq)
    (hn : event.seq - s.checkpoint m ≤ n) :
    ∃ s', Reaches (TaskEvents.step world localMachineId unreachable) KeepsStart s s' ∧
      event ∈ eventsOf m s'.returned := by
  induction n generalizing s with
  | zero => omega
  | succ n ih =>
    obtain ⟨first, hfirst, hm, hlt⟩ := hawaits.first
    obtain ⟨cursor, hcursor⟩ := hs.lists.first first hfirst
    obtain ⟨hlists, hreached⟩ := hs.lists.cursor cursor hcursor
    have hcheckpoint : s.checkpoint m = (durableCursor cursor m).getD 0 := by
      rw [State.checkpoint, hcursor]
      rfl
    rw [hcheckpoint] at hahead hn
    obtain ⟨s', after, hreaches, hidle', hlogs, hfirst', hcursor', hcalls, hlater⟩ :=
      again_advances localMachineId unreachable allows_keepsStart hidle hfirst hcursor hlists
        (hreached first hfirst hm) ((hs.covered.ok.cursor cursor hcursor).le_head m)
        (CursorLog.mem_between.mpr ⟨hawaits.appended, keeps_of_included hawaits.inScope hincluded,
          hahead, ((s.logs m).bounded event hawaits.appended).2⟩)
    have hs' := hreaches.invariant .step hs
    have hawaits' : s'.Awaits world m event :=
      ⟨⟨first, hfirst', hm, hlt⟩, hlogs ▸ hawaits.appended, hawaits.inScope⟩
    by_cases hpast : event.seq ≤ (durableCursor after m).getD 0
    · -- the call passed the event, and its filters do not exclude it
      have hrecord : (⟨f, some cursor, after⟩ : Finished) ∈ s'.calls :=
        hcalls ▸ List.mem_cons_self
      refine ⟨s', hreaches, ?_⟩
      refine ((hs'.covered.noneOmitted m event hawaits').1 _ hrecord ⟨hahead, hpast⟩).resolve_right
        fun hexcluded => ?_
      rw [hincluded] at hexcluded
      cases hexcluded
    · have hcheckpoint' : s'.checkpoint m = (durableCursor after m).getD 0 := by
        rw [State.checkpoint, hcursor']
        rfl
      obtain ⟨t, hreaches', hreturned⟩ := ih hs' hidle' hawaits' (by omega) (by omega)
      exact ⟨t, hreaches.trans hreaches', hreturned⟩

theorem State.Resumable.returnsLater (hs : s.Resumable world localMachineId) :
    s.ReturnsLater world localMachineId unreachable := by
  intro m event f hawaits hahead hincluded
  cases hcall : s.call with
  | none => exact returned_of_idle unreachable _ hs hcall hawaits hincluded hahead (Nat.le_refl _)
  | some call =>
    -- the call in progress may be given up first: the cursor is what matters
    have hfail : Reaches (TaskEvents.step world localMachineId unreachable) KeepsStart s
        (s.setCall none) :=
      .head .fail (allows_keepsStart.other rfl) (by rw [TaskEvents.step, hcall]; rfl) (.refl _)
    obtain ⟨t, hreaches, hreturned⟩ := returned_of_idle unreachable (s := s.setCall none)
      _ (hfail.invariant .step hs) rfl { hawaits with } hincluded hahead (Nat.le_refl _)
    exact ⟨t, hfail.trans hreaches, hreturned⟩

end FromNow

/-- **No event is left out.** In every run in which no wait on a machine that the first call reached
takes the head of its log after that call, a call that passes an event on such a machine returns it
or excludes it by its own filters, and later calls can always return what no call has passed. -/
theorem aggregate_waits_none_omitted (world : World) (localMachineId unreachable : String)
    (logs : String → Log) (moves : List Move)
    (h : Meets (step world localMachineId unreachable) KeepsStart (State.new logs) moves) :
    Always (step world localMachineId unreachable)
      (fun s => s.NoneOmitted world ∧ s.ReturnsLater world localMachineId unreachable)
      (State.new logs) moves :=
  always_of_meets (fun hs => ⟨hs.covered.noneOmitted, hs.returnsLater⟩)
    (fun hs hkeeps hstep => State.Resumable.step hs hkeeps hstep)
    ⟨covered_new logs, lists_new logs⟩ h

/-- A machine has not answered when the first call returns; the second call inherits its wait. -/
def inheritedWatch : List Move :=
  let query : Query := ⟨⟨[], []⟩, false, true, none, true, some ["b"]⟩
  [.append "b" ⟨1, "t", "run.started", ""⟩, .begin query, .start, .legStart 1, .giveUp, .finish,
    .append "b" ⟨2, "t", "run.finished", ""⟩, .begin query, .start, .legRead 1 [] false,
    .join 1 true true, .finish]

theorem aggregate_waits_none_omitted_inherited :
    (run (step everything "a" "") (State.new fun _ => .empty) inheritedWatch).map
        (fun s => (eventsOf "b" s.returned).map TaskEvent.seq) = some [2] ∧
      Always (step everything "a" "")
        (fun s => s.NoneOmitted everything ∧ s.ReturnsLater everything "a" "")
        (State.new fun _ => .empty) inheritedWatch :=
  ⟨by decide, aggregate_waits_none_omitted _ "a" "" _ inheritedWatch (by decide)⟩

/-! ### An event that is left out -/

section Omits

variable {world : World} {bound : Option ℕ} {localMachineId unreachable : String} {s s' : State}
  {move : Move} {m : String} {asked : Option Query} {now : Prop} {event : TaskEvent}
  {v v' : View}

/-- The cursor is past the event, which was not returned. -/
def Entry.Omits (event : TaskEvent) (entry : Entry) : Prop :=
  (∃ cursor, entry.cursor = some cursor ∧ event.seq ≤ cursor) ∧ event ∉ entry.events

theorem omits_effect (heffect : Effect world bound m asked now v v')
    (h : v.All fun _ => Entry.Omits event) : v'.All fun _ => Entry.Omits event := by
  refine h.effect heffect (fun _ _ _ homits => homits)
    fun entry _ b b' homits hbase hle hhead => ?_
  obtain ⟨⟨cursor, hcursor, hpast⟩, hnot⟩ := homits
  rcases hbase with hsome | ⟨hnone, -⟩
  · cases hcursor.symm.trans hsome
    refine ⟨⟨b', rfl, Nat.le_trans hpast hle⟩, fun hmem => ?_⟩
    rcases List.mem_append.mp hmem with hmem | hmem
    · exact hnot hmem
    · exact absurd (CursorLog.mem_between.mp hmem).2.2.1 (Nat.not_lt.mpr hpast)
  · cases hcursor.symm.trans hnone

/-- An event that the cursor is past is not returned any more, whatever happens. -/
theorem omitted_forever (hok : s.Ok world fun _ => none)
    (homits : (s.view m).All fun _ => Entry.Omits event)
    (hreaches : Reaches (step world localMachineId unreachable) (fun _ _ => True) s s') :
    event ∉ eventsOf m s'.returned := by
  have hinv := hreaches.invariant
    (I := fun s => (s.Ok world fun _ => none) ∧ (s.view m).All fun _ => Entry.Omits event)
    (fun hI _ hstep => by
      have hsteps := steps_step hI.1 (pins_none _ _) hstep
      exact ⟨hsteps.ok, omits_effect (hsteps.effect m) hI.2⟩) ⟨hok, homits⟩
  exact hinv.2.stored.2

end Omits

/-- A machine has not answered when the first call returns, and the second call has other
filters. -/
def abortedWatch : List Move :=
  let query : Query := ⟨⟨[], []⟩, false, true, none, true, some ["b"]⟩
  [.begin query, .start, .legStart 1, .giveUp, .finish,
    .append "b" ⟨1, "t", "run.finished", ""⟩,
    .begin { query with filters := ⟨[], ["task.activity_changed"]⟩, fromNow := false },
    .start, .legStart 1, .legRead 1 [] true, .join 1 true false, .finish]

/-- The wait is aborted, and the one in its place starts after the event, which no call returns. -/
theorem aborted_wait_omits_event :
    ∃ s first, run (step everything "a" "") (State.new fun _ => .empty) abortedWatch = some s ∧
      s.first = some first ∧ "b" ∈ first.reached ∧ first.heads "b" = 0 ∧
      (s.logs "b").records = [⟨1, "t", "run.finished", ""⟩] ∧
      (∀ record ∈ s.calls,
        everything.excludes "b" record.filters ⟨1, "t", "run.finished", ""⟩ = false) ∧
      ∀ s', Reaches (step everything "a" "") (fun _ _ => True) s s' →
        ⟨1, "t", "run.finished", ""⟩ ∉ eventsOf "b" s'.returned := by
  refine ⟨_, _, rfl, rfl, by decide, rfl, rfl, by decide, fun s' hreaches => ?_⟩
  have hok : Always (step everything "a" "") (State.Ok everything fun _ => none) _ abortedWatch :=
    always_of_invariant (fun hok hstep => (steps_step hok (pins_none _ _) hstep).ok) _
      (ok_state_new fun _ => .empty)
  refine omitted_forever (hok.last rfl) ⟨⟨⟨1, rfl, ?_⟩, ?_⟩, ?_⟩ hreaches
  · decide
  · decide
  · exact nofun

end Kanna.TaskEvents
