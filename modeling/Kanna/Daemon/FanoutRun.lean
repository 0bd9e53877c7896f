import Kanna.Lib.Run
import Kanna.Daemon.Fanout

/-!
# Runs of the fanout

`FanoutRun` is a fanout with everything that goes on around it: the registry, the
registrations that left it while their writer tasks still run, and what reached
the sockets. Registry operations and the steps of the writer tasks interleave
freely (`FanoutRun.step`); a socket is written by one task at a time.

Statements about all subscribers are carried along a step by the rules
`holds_remove`, `holds_register`, `holds_enqueue`, `holds_resyncDrained`,
`holds_deliverFinal` and `holds_put`, one for each way the lists change.
-/

namespace Kanna

universe u

variable {E : Type u}

/-- A line that reached a socket. -/
structure Delivery (E : Type u) : Type u where
  /-- the writer task that wrote it -/
  task : ℕ
  /-- the socket -/
  writerId : ℕ
  /-- the kind of the registration -/
  kind : SubscriberKind
  /-- the line -/
  line : EventLine E
  deriving DecidableEq

/-- The registry, the writer tasks it no longer knows, and the sockets. -/
structure FanoutRun (E : Type u) : Type u where
  /-- the registry -/
  state : FanoutState E
  /-- registrations that left; their writer tasks may still run -/
  detached : List (Subscriber E)
  /-- the next writer task -/
  nextTask : ℕ
  /-- lines on the sockets, oldest first -/
  log : List (Delivery E)
  deriving DecidableEq

/-- Everything that can happen to a fanout. -/
inductive FanoutAction (E : Type u) : Type u where
  /-- `register` -/
  | register (kind : SubscriberKind) (writerId : ℕ) (initialEvents : List E)
  /-- `enqueue` at time `now` -/
  | enqueue (line : EventLine E) (now : ℕ)
  /-- `resync_drained` -/
  | resyncDrained (events : List E)
  /-- `deliver_final` -/
  | deliverFinal (event : E)
  /-- `remove` -/
  | remove (kind : SubscriberKind) (writerId : ℕ)
  /-- `remove_writer_everywhere` -/
  | removeWriterEverywhere (writerId : ℕ)
  /-- a step of a writer task -/
  | writer (task : ℕ) (move : Subscriber.WriterMove)

namespace FanoutRun

/-- An empty registry. -/
def new (budget : ℕ) : FanoutRun E where
  state := ⟨budget, [], []⟩
  detached := []
  nextTask := 0
  log := []

variable (w : FanoutRun E)

/-- Every registration whose writer task may run. -/
def all : List (Subscriber E) :=
  w.state.attached ++ w.state.observers ++ w.detached

/-- The registry changed and some registrations left it. -/
def advance (next : FanoutState E × List (Subscriber E)) : FanoutRun E :=
  { w with state := next.1, detached := w.detached ++ next.2 }

/-- Replace the registration of a writer task, wherever it is. -/
def put (s' : Subscriber E) : FanoutRun E :=
  let update := List.map fun s : Subscriber E => if s.task = s'.task then s' else s
  { w with
    state := { w.state with
      attached := update w.state.attached
      observers := update w.state.observers }
    detached := update w.detached }

/-- No writer task holds this socket. -/
def socketFree (writerId : ℕ) : Bool :=
  w.all.all fun s => !(s.writerId == writerId && s.isWriting)

/-- The interleaving semantics. -/
def step (json : E → Option ℕ) (w : FanoutRun E) : FanoutAction E → Option (FanoutRun E)
  | .register kind writerId events =>
    some { w.advance (w.state.register json w.nextTask kind writerId events) with
      nextTask := w.nextTask + 1 }
  | .enqueue line now =>
    let (state, gone, _) := w.state.enqueue line now
    some (w.advance (state, gone))
  | .resyncDrained events => some (w.advance (w.state.resyncDrained json events, []))
  | .deliverFinal event => some (w.advance (w.state.deliverFinal json event))
  | .remove kind writerId => some (w.advance (w.state.remove kind writerId))
  | .removeWriterEverywhere writerId =>
    some (w.advance (w.state.removeWriterEverywhere writerId))
  | .writer task move =>
    match w.all.find? fun s => s.task = task with
    | none => none
    | some s =>
      if move = .startWrite ∧ w.socketFree s.writerId = false then none
      else (s.writerStep move).map fun s' =>
        { w.put s' with
          log := w.log ++ (s.delivers move).map fun line => ⟨task, s.writerId, s.kind, line⟩ }

/-! ## Who is where after a step

A property of subscribers is stated separately for the two lists and for those
that left: `Holds R D`. Each rule below says what one operation asks of it. -/

/-- `R` holds in the lists of the registry and `D` of those that left. -/
structure Holds (R : SubscriberKind → Subscriber E → Prop) (D : Subscriber E → Prop)
    (w : FanoutRun E) : Prop where
  /-- the registered ones -/
  registered : ∀ kind, ∀ s ∈ w.state.list kind, R kind s
  /-- the others -/
  left : ∀ s ∈ w.detached, D s

variable {R R' : SubscriberKind → Subscriber E → Prop} {D D' : Subscriber E → Prop}
  {w : FanoutRun E}

theorem list_setList (st : FanoutState E) (kind kind' : SubscriberKind) (l : List (Subscriber E)) :
    (st.setList kind l).list kind' = if kind' = kind then l else st.list kind' := by
  cases kind <;> cases kind' <;> rfl

variable {s : Subscriber E}

open List

theorem mem_all : s ∈ w.all ↔ (∃ kind, s ∈ w.state.list kind) ∨ s ∈ w.detached := by
  rw [all, mem_append, mem_append]
  refine or_congr ⟨fun h => ?_, fun h => ?_⟩ Iff.rfl
  · exact h.elim (fun h => ⟨.attached, h⟩) (fun h => ⟨.observer, h⟩)
  · obtain ⟨kind, h⟩ := h
    cases kind with
    | attached => exact .inl h
    | observer => exact .inr h

theorem Holds.with_mem (h : w.Holds R D) :
    w.Holds (fun kind s => R kind s ∧ s ∈ w.all) (fun s => D s ∧ s ∈ w.all) :=
  ⟨fun kind s hs => ⟨h.registered kind s hs, mem_all.mpr (.inl ⟨kind, hs⟩)⟩,
    fun s hs => ⟨h.left s hs, mem_all.mpr (.inr hs)⟩⟩

open FanoutState

section Gone

variable {kind : SubscriberKind} {writerId : ℕ} (h : w.Holds R D)
  (hstay : ∀ k s, R k s → (k = kind → s.writerId ≠ writerId) → R' k s)
  (hgo : ∀ s, R kind s → s.writerId = writerId → D' s.cancel) (hleft : ∀ s, D s → D' s)

include h hstay hgo hleft

theorem holds_remove : (w.advance (w.state.remove kind writerId)).Holds R' D' := by
  refine ⟨fun k s hs => ?_, fun s hs => ?_⟩
  · simp only [advance, remove, cancelAndRemove, list_setList] at hs
    by_cases hk : k = kind
    · subst hk
      rw [if_pos rfl, mem_filter, decide_eq_true_eq] at hs
      exact hstay k s (h.registered k s hs.1) (fun _ => hs.2)
    · rw [if_neg hk] at hs
      exact hstay k s (h.registered k s hs) (fun hk' => absurd hk' hk)
  · simp only [advance, remove, cancelAndRemove, mem_append, mem_map,
      mem_filter, decide_eq_true_eq] at hs
    obtain hs | ⟨s, ⟨hs, hw⟩, rfl⟩ := hs
    · exact hleft s (h.left s hs)
    · exact hgo s (h.registered kind s hs) hw

theorem holds_register {json : E → Option ℕ} {events : List E}
    (hnew : R' kind (registration json w.nextTask writerId kind events)) :
    (w.advance (w.state.register json w.nextTask kind writerId events)).Holds R' D' := by
  have hrem : (w.advance (w.state.remove kind writerId)).Holds R' D' :=
    holds_remove h hstay hgo hleft
  refine ⟨fun k s hs => ?_, hrem.left⟩
  simp only [advance, register, list_setList] at hs
  by_cases hk : k = kind
  · subst hk
    rw [if_pos rfl, mem_append, mem_singleton] at hs
    obtain hs | rfl := hs
    · exact hrem.registered k s hs
    · exact hnew
  · rw [if_neg hk] at hs
    exact hrem.registered k s hs

end Gone

variable {json : E → Option ℕ}

theorem holds_enqueue (h : w.Holds R D) {line : EventLine E} {now : ℕ}
    (hstay : ∀ k s s', R k s → (s.offer w.state.budget now line).1 = some s' → R' k s')
    (hgo : ∀ k s, R k s → (s.offer w.state.budget now line).1 = none → D' s)
    (hleft : ∀ s, D s → D' s) :
    (w.advance ((w.state.enqueue line now).1, (w.state.enqueue line now).2.1)).Holds R' D' := by
  refine ⟨fun k s hs => ?_, fun s hs => ?_⟩
  · cases k with
    | attached =>
      obtain ⟨s₀, hs₀, hoff⟩ := mem_filterMap.mp hs
      exact hstay .attached s₀ s (h.registered .attached s₀ hs₀) hoff
    | observer =>
      obtain ⟨s₀, hs₀, hoff⟩ := mem_filterMap.mp hs
      exact hstay .observer s₀ s (h.registered .observer s₀ hs₀) hoff
  · simp only [advance, enqueue, enqueueToList, mem_append, mem_filter,
      Option.isNone_iff_eq_none] at hs
    obtain hs | ⟨hs, hoff⟩ | ⟨hs, hoff⟩ := hs
    · exact hleft s (h.left s hs)
    · exact hgo .attached s (h.registered .attached s hs) hoff
    · exact hgo .observer s (h.registered .observer s hs) hoff

theorem holds_resyncDrained (h : w.Holds R D) {events : List E} (hsame : ∀ k s, R k s → R' k s)
    (hsync : ∀ k s lines, lines ≠ [] → events.mapM (EventLine.serialize json) = some lines →
      R k s → R' k (s.resync lines)) (hleft : ∀ s, D s → D' s) :
    (w.advance (w.state.resyncDrained json events, [])).Holds R' D' := by
  refine ⟨fun k s hs => ?_, fun s hs => ?_⟩
  · simp only [advance, resyncDrained] at hs
    split at hs
    next => exact hsame k s (h.registered k s hs)
    next => exact hsame k s (h.registered k s hs)
    next line lines hlines =>
      have hmap : s ∈ (w.state.list k).map (Subscriber.resync (line :: lines)) := by
        cases k <;> exact hs
      obtain ⟨s₀, hs₀, rfl⟩ := mem_map.mp hmap
      exact hsync k s₀ _ (cons_ne_nil _ _) hlines (h.registered k s₀ hs₀)
  · rw [advance, append_nil] at hs
    exact hleft s (h.left s hs)

theorem holds_deliverFinal (h : w.Holds R D) {event : E}
    (hsame : EventLine.serialize json event = none → ∀ k s, R k s → R' k s)
    (hgo : ∀ k s line, s ∈ w.state.list k → EventLine.serialize json event = some line →
      R k s → D' (s.takeFinal line)) (hleft : ∀ s, D s → D' s) :
    (w.advance (w.state.deliverFinal json event)).Holds R' D' := by
  rcases hl : EventLine.serialize json event with _ | line
  · have heq : w.state.deliverFinal json event = (w.state, []) := by
      rw [deliverFinal, hl]
    rw [heq]
    refine ⟨fun k s hs => hsame hl k s (h.registered k s hs), fun s hs => ?_⟩
    rw [advance, append_nil] at hs
    exact hleft s (h.left s hs)
  · have heq : w.state.deliverFinal json event = ({ w.state with attached := [], observers := [] },
        (w.state.attached ++ w.state.observers).map (Subscriber.takeFinal line)) := by
      rw [deliverFinal, hl]
    rw [heq]
    refine ⟨fun k s hs => ?_, fun s hs => ?_⟩
    · cases k <;> exact absurd hs not_mem_nil
    · simp only [advance, mem_append, mem_map] at hs
      obtain hs | ⟨s, hs | hs, rfl⟩ := hs
      · exact hleft s (h.left s hs)
      · exact hgo .attached s line hs hl (h.registered .attached s hs)
      · exact hgo .observer s line hs hl (h.registered .observer s hs)

theorem advance_removeWriterEverywhere (w : FanoutRun E) (writerId : ℕ) :
    w.advance (w.state.removeWriterEverywhere writerId) =
      let w₁ := w.advance (w.state.remove .attached writerId)
      w₁.advance (w₁.state.remove .observer writerId) := by
  simp [advance, removeWriterEverywhere, append_assoc]

/-! ## Writer tasks are told apart -/

/-- How many of the registrations belong to a task. -/
def taskCount (task : ℕ) (l : List (Subscriber E)) : ℕ := l.countP fun s => s.task = task

/-- Every task has one registration at most, and none before it is spawned. -/
def Distinct (w : FanoutRun E) : Prop :=
  ∀ task, taskCount task w.all ≤ if task < w.nextTask then 1 else 0

variable (task : ℕ)

theorem taskCount_append (l m : List (Subscriber E)) :
    taskCount task (l ++ m) = taskCount task l + taskCount task m :=
  countP_append

theorem taskCount_singleton (s : Subscriber E) :
    taskCount task [s] = if s.task = task then 1 else 0 := by
  simp [taskCount, countP_singleton]

theorem taskCount_map {f : Subscriber E → Subscriber E}
    (hf : ∀ s, (f s).task = s.task) (l : List (Subscriber E)) :
    taskCount task (l.map f) = taskCount task l := by
  rw [taskCount, countP_map]
  congr 1
  funext s
  simp [hf]

theorem taskCount_cancelAndRemove (l : List (Subscriber E)) (writerId : ℕ) :
    taskCount task (cancelAndRemove l writerId).1 + taskCount task (cancelAndRemove l writerId).2 =
      taskCount task l := by
  have hsplit := countP_eq_countP_filter_add l (fun s => s.task = task)
    (fun s => s.writerId ≠ writerId)
  simp only [ne_eq, decide_not, Bool.not_not] at hsplit
  simp only [cancelAndRemove, ne_eq, decide_not,
    taskCount_map task (f := Subscriber.cancel) fun _ => rfl]
  exact hsplit.symm

theorem task_offer {budget now : ℕ} {line : EventLine E} {s' : Subscriber E}
    (h : (s.offer budget now line).1 = some s') : s'.task = s.task := by
  obtain ⟨-, ⟨-, rfl⟩ | ⟨-, rfl⟩ | ⟨-, -, rfl⟩⟩ := Subscriber.offer_eq_some h <;> rfl

theorem taskCount_enqueueToList (task budget now : ℕ) (line : EventLine E)
    (l : List (Subscriber E)) :
    taskCount task (enqueueToList budget now line l).1 +
      taskCount task (enqueueToList budget now line l).2.1 = taskCount task l := by
  induction l with
  | nil => rfl
  | cons s l ih =>
    simp only [enqueueToList, taskCount] at ih ⊢
    rcases hs : (s.offer budget now line).1 with _ | s'
    · simp [hs, countP_cons]
      omega
    · simp only [filterMap_cons, filter_cons, hs, Option.isNone_some, if_false,
        Bool.false_eq_true, countP_cons, task_offer hs]
      omega

theorem Distinct.eq_of_task (h : w.Distinct) {t : Subscriber E} (hs : s ∈ w.all)
    (ht : t ∈ w.all) (heq : s.task = t.task) : s = t := by
  have hle : taskCount t.task w.all ≤ 1 := by
    have := h t.task
    split at this <;> omega
  by_contra hne
  obtain ⟨l, m, hl⟩ := append_of_mem hs
  have hcount : taskCount t.task w.all = taskCount t.task l + (1 + taskCount t.task m) := by
    rw [hl, taskCount_append, taskCount, taskCount, countP_cons]
    simp [heq, taskCount, Nat.add_comm]
  have hmem : t ∈ l ++ m := by
    rw [hl] at ht
    simp only [mem_append, mem_cons] at ht ⊢
    obtain ht | ht | ht := ht
    · exact .inl ht
    · exact absurd ht.symm hne
    · exact .inr ht
  have hpos : 0 < taskCount t.task (l ++ m) := countP_pos_iff.mpr ⟨t, hmem, by simp⟩
  rw [taskCount_append] at hpos
  omega

theorem taskCount_all (w : FanoutRun E) :
    taskCount task w.all = taskCount task w.state.attached + taskCount task w.state.observers +
      taskCount task w.detached := by
  rw [all, taskCount_append, taskCount_append]

theorem taskCount_remove (w : FanoutRun E) (kind : SubscriberKind) (writerId : ℕ) :
    taskCount task (w.advance (w.state.remove kind writerId)).all = taskCount task w.all := by
  have hsplit := taskCount_cancelAndRemove task (w.state.list kind) writerId
  rw [taskCount_all, taskCount_all]
  cases kind <;>
    simp only [advance, remove, setList, list, taskCount_append] at hsplit ⊢ <;> omega

theorem taskCount_register (json : E → Option ℕ) (w : FanoutRun E) (kind : SubscriberKind)
    (writerId : ℕ) (events : List E) :
    taskCount task (w.advance (w.state.register json w.nextTask kind writerId events)).all =
      taskCount task w.all + (if w.nextTask = task then 1 else 0) := by
  have hrem := taskCount_remove task w kind writerId
  rw [taskCount_all] at hrem ⊢
  cases kind <;>
    simp only [advance, register, setList, list,
      taskCount_append, taskCount_singleton, registration_eq,
      Subscriber.acceptBatch, Subscriber.acceptAll, Subscriber.fresh] at hrem ⊢ <;>
    omega

theorem taskCount_enqueue (w : FanoutRun E) (now : ℕ) (line : EventLine E) :
    taskCount task (w.advance ((w.state.enqueue line now).1, (w.state.enqueue line now).2.1)).all =
      taskCount task w.all := by
  have ha := taskCount_enqueueToList task w.state.budget now line w.state.attached
  have ho := taskCount_enqueueToList task w.state.budget now line w.state.observers
  rw [taskCount_all, taskCount_all]
  simp only [advance, enqueue, enqueueToList, taskCount_append] at ha ho ⊢
  omega

theorem taskCount_resyncDrained (json : E → Option ℕ) (w : FanoutRun E) (events : List E) :
    taskCount task (w.advance (w.state.resyncDrained json events, [])).all =
      taskCount task w.all := by
  rw [taskCount_all, taskCount_all]
  simp only [advance, resyncDrained, append_nil]
  split
  next => rfl
  next => rfl
  next line lines _ =>
    have hkeep : ∀ s : Subscriber E, (s.resync (line :: lines)).task = s.task := by
      intro s
      obtain hs | ⟨-, -, -, hs⟩ := s.resync_cases (cons_ne_nil line lines)
      · rw [hs]
      · rw [hs]
        rfl
    simp only [taskCount_map task hkeep]

theorem taskCount_deliverFinal (json : E → Option ℕ) (w : FanoutRun E) (event : E) :
    taskCount task (w.advance (w.state.deliverFinal json event)).all = taskCount task w.all := by
  rw [taskCount_all, taskCount_all]
  simp only [advance, deliverFinal]
  split
  next => rw [append_nil]
  next line _ =>
    have hkeep : ∀ s : Subscriber E, (s.takeFinal line).task = s.task := by
      intro s
      obtain hs | ⟨-, -, hs⟩ := s.takeFinal_cases line <;> rw [hs] <;> rfl
    simp only [taskCount_append, taskCount_map task hkeep]
    simp [taskCount]
    omega

theorem taskCount_put (w : FanoutRun E) (s' : Subscriber E) :
    taskCount task (w.put s').all = taskCount task w.all := by
  have hkeep : ∀ s : Subscriber E, (if s.task = s'.task then s' else s).task = s.task := by
    intro s
    split_ifs with h
    · exact h.symm
    · rfl
  rw [taskCount_all, taskCount_all]
  simp only [put, taskCount_map task hkeep]

theorem distinct_new (budget : ℕ) : (new budget : FanoutRun E).Distinct := fun _ => Nat.zero_le _

/-- Inversion for the steps of writer tasks. -/
theorem writer_eq_some {w w' : FanoutRun E} {task : ℕ}
    {move : Subscriber.WriterMove} (h : step json w (.writer task move) = some w') :
    ∃ s s', s ∈ w.all ∧ s.task = task ∧ s.Writes move s' ∧
      (move = .startWrite → w.socketFree s.writerId = true) ∧
      w' = { w.put s' with
        log := w.log ++ (s.delivers move).map fun line => ⟨task, s.writerId, s.kind, line⟩ } := by
  simp only [step] at h
  split at h
  next => cases h
  next s hfind =>
    have htask : s.task = task := by simpa using find?_some hfind
    obtain ⟨hfree, h⟩ := of_exit h
    obtain ⟨s', hs', rfl⟩ := Option.map_eq_some_iff.mp h
    refine ⟨s, s', mem_of_find?_eq_some hfind, htask,
      Subscriber.writes_of_writerStep hs', fun hm => ?_, rfl⟩
    exact Bool.not_eq_false _ ▸ fun hf => hfree ⟨hm, hf⟩

/-- No step but `register` changes how often a task occurs. -/
theorem distinct_step {w w' : FanoutRun E} {a : FanoutAction E}
    (h : w.Distinct) (hstep : step json w a = some w') : w'.Distinct := by
  have hsame : ∀ w₁ : FanoutRun E, w₁.nextTask = w.nextTask →
      (∀ task, taskCount task w₁.all = taskCount task w.all) → w₁.Distinct := by
    intro w₁ hnext hcount task
    rw [hcount, hnext]
    exact h task
  cases a with
  | register kind writerId events =>
    cases hstep
    intro task
    have hle := h task
    show taskCount task (w.advance (w.state.register json w.nextTask kind writerId events)).all ≤
        if task < w.nextTask + 1 then 1 else 0
    rw [taskCount_register]
    split at hle <;> split <;> split <;> omega
  | enqueue line now =>
    cases hstep
    exact hsame _ rfl fun task => taskCount_enqueue task w now line
  | resyncDrained events =>
    cases hstep
    exact hsame _ rfl fun task => taskCount_resyncDrained task json w events
  | deliverFinal event =>
    cases hstep
    exact hsame _ rfl fun task => taskCount_deliverFinal task json w event
  | remove kind writerId =>
    cases hstep
    exact hsame _ rfl fun task => taskCount_remove task w kind writerId
  | removeWriterEverywhere writerId =>
    cases hstep
    rw [advance_removeWriterEverywhere]
    exact hsame _ rfl fun task => by
      rw [taskCount_remove, taskCount_remove]
  | writer task move =>
    obtain ⟨-, s', -, -, -, -, rfl⟩ := writer_eq_some hstep
    exact hsame _ rfl fun task => taskCount_put task w s'

/-- A step of one task changes that task's registration only. -/
theorem holds_put (hd : w.Distinct) (h : w.Holds R D) {s' : Subscriber E} (hs : s ∈ w.all)
    (htask : s'.task = s.task) (hreg : ∀ k, R k s → R' k s') (hdet : D s → D' s')
    (hother : ∀ k t, R k t → t.task ≠ s.task → R' k t)
    (hleft : ∀ t, D t → t.task ≠ s.task → D' t) : (w.put s').Holds R' D' := by
  have hput : ∀ {P P' : Subscriber E → Prop} {t}, (P s → P' s') → (P t → t.task ≠ s.task → P' t) →
      t ∈ w.all → P t → P' (if t.task = s'.task then s' else t) := by
    intro P P' t hself hne ht hP
    rw [htask]
    split_ifs with heq
    · cases hd.eq_of_task ht hs heq
      exact hself hP
    · exact hne hP heq
  refine ⟨fun k x hx => ?_, fun x hx => ?_⟩
  · have hmap : x ∈ (w.state.list k).map fun t => if t.task = s'.task then s' else t := by
      cases k <;> exact hx
    obtain ⟨t, ht, rfl⟩ := mem_map.mp hmap
    exact hput (hreg k) (hother k t) (mem_all.mpr (.inl ⟨k, ht⟩)) (h.registered k t ht)
  · obtain ⟨t, ht, rfl⟩ := mem_map.mp hx
    exact hput hdet (hleft t) (mem_all.mpr (.inr ht)) (h.left t ht)

end FanoutRun

end Kanna
