import Kanna.Recovery.Manager

/-!
# Respawning the recovery worker

The invariant of the recovery manager. A worker that is installed was sent `StartSession` for
every tracked session, and a respawn is followed from its copy of the tracked sessions to the
installation: whatever is tracked is still to be replayed or was written to the new worker
(`TaskOk.copy`). Nobody else installs a worker meanwhile, since the respawn holds the guard.

`ensure_sender` keeps the invariant with no condition; so does every step that changes neither the
state under the lock nor the guard (`Same`).
-/

namespace Kanna.RecoveryManager

open Durable

/-! ### Phases -/

/-- What comes after the wait needs the restart guard. -/
def After.holdsGuard : After → Bool
  | .respawn .. | .recordFailure | .discard | .invalidated _ => true
  | .flushed => false

/-- The call holds the restart guard. -/
def Phase.holdsGuard : Phase → Bool
  | .guarded | .spawn _ | .replay .. | .replaying .. | .recordFailure | .clear .. => true
  | .cancel _ after | .wait _ after => after.holdsGuard
  | _ => false

/-- A respawn that has copied the tracked sessions: what it has still to replay, and the worker
it replays to. -/
def Phase.copy : Phase → Option (List String × Option ℕ)
  | .cancel _ (.respawn copy _) | .wait _ (.respawn copy _) | .spawn copy =>
    some (copy.map Prod.fst, none)
  | .replay w copy => some (copy.map Prod.fst, some w)
  | .replaying request sessionId copy => some (sessionId :: copy.map Prod.fst, some request.worker)
  | _ => none

/-- `flush_and_shutdown` after its first section. -/
def Phase.flushes : Phase → Bool
  | .flush _ | .flushing _ | .clearAll | .cancel _ .flushed | .wait _ .flushed => true
  | _ => false

/-- The call has returned. -/
def Phase.isReturned : Phase → Bool
  | .returned _ => true
  | _ => false

/-- The requests of a worker are addressed to it. -/
def RecoveryWorker.Addressed (worker : RecoveryWorker) (w : ℕ) : Prop :=
  ∀ request, .request request ∈ worker.queue ∨ worker.current = some (.request request) →
    request.worker = w

namespace Manager

variable (s : Manager)

/-- Every worker knows its own number. -/
def Addressed : Prop :=
  ∀ (w : ℕ) (worker : RecoveryWorker), s.workers[w]? = some worker → worker.Addressed w

/-- The session is tracked. -/
def Tracked (sessionId : String) : Prop :=
  (s.trackedSessions.lookup sessionId).isSome = true

/-- The worker was sent `StartSession` for the session. -/
def Recorded (w : ℕ) (sessionId : String) : Prop :=
  ∃ cols rows resumeFromDisk, .startSession sessionId cols rows resumeFromDisk ∈ s.commands w

/-- What a call relies on when it takes its reply, or has taken it. -/
def Sound (call : Call) : Phase → Prop
  | .replaying request sessionId _ =>
    ∃ cols rows resumeFromDisk,
      request.command = .startSession sessionId cols rows resumeFromDisk
  | .await request => request.command = call.command
  | .started w => ∃ sessionId geometry resumeFromDisk,
    call = .startSession sessionId geometry resumeFromDisk ∧ s.Recorded w sessionId
  | _ => True

/-- What holds of a call at each point. -/
structure TaskOk (s : Manager) (i : ℕ) (task : Task) : Prop where
  /-- it holds the restart guard while it restarts -/
  guard : task.phase.holdsGuard = true → s.restartGuard = some i
  /-- what is tracked was replayed to the new worker or is about to be -/
  copy : ∀ pending w, task.phase.copy = some (pending, w) → s.sender = none ∧
    ∀ sessionId, s.Tracked sessionId →
      sessionId ∈ pending ∨ ∃ v, w = some v ∧ s.Recorded v sessionId
  sound : s.Sound task.call task.phase
  down : task.phase.flushes = true → s.shutdownRequested = true

/-- What holds of the state under the lock and of the replies. -/
structure Base (s : Manager) : Prop where
  /-- the tracked sessions are those that were started -/
  tracked : s.shutdownRequested = false →
    ∀ sessionId, s.Tracked sessionId ↔ sessionId ∈ s.started
  /-- a shutdown leaves no worker in use -/
  down : s.shutdownRequested = true → s.sender = none
  /-- the worker in use knows every tracked session -/
  recorded : ∀ w, s.sender = some w → ∀ sessionId, s.Tracked sessionId → s.Recorded w sessionId
  /-- what was answered had been written -/
  replies : ∀ request response, (request, .ok response) ∈ s.replies →
    request.command ∈ s.commands request.worker
  addressed : s.Addressed

/-- What every move keeps. -/
structure Inv (s : Manager) : Prop extends Base s where
  calls : ∀ i task, s.calls[i]? = some task → s.TaskOk i task

variable {s s' : Manager} {i : ℕ} {task task' : Task}

/-! ### Workers only get more commands -/

/-- No worker loses a command, new replies are to commands that were written, a shutdown is not
taken back, and requests stay with their workers. -/
structure Grows (s s' : Manager) : Prop where
  commands : ∀ w, s.commands w ⊆ s'.commands w
  replies : ∀ request response, (request, .ok response) ∈ s'.replies →
    (request, .ok response) ∈ s.replies ∨ request.command ∈ s'.commands request.worker
  down : s.shutdownRequested = true → s'.shutdownRequested = true
  addressed : s.Addressed → s'.Addressed

theorem Grows.of_eq (hworkers : s'.workers = s.workers) (hreplies : s'.replies = s.replies)
    (hdown : s.shutdownRequested = true → s'.shutdownRequested = true) : Grows s s' := by
  refine ⟨fun w => ?_, fun _ _ hmem => .inl (hreplies ▸ hmem), hdown, fun h => ?_⟩
  · rw [Manager.commands, Manager.commands, hworkers]
    exact fun _ => id
  · rw [Addressed, hworkers]
    exact h

theorem Grows.refl (s : Manager) : Grows s s := .of_eq rfl rfl id

variable {w : ℕ} {sessionId : String}

theorem Grows.recorded (h : Grows s s')
    (hrecorded : s.Recorded w sessionId) : s'.Recorded w sessionId := by
  obtain ⟨cols, rows, resumeFromDisk, hmem⟩ := hrecorded
  exact ⟨cols, rows, resumeFromDisk, h.commands w hmem⟩

variable {phase : Phase}

theorem Grows.sound (h : Grows s s') {call : Call}
    (hsound : s.Sound call phase) : s'.Sound call phase := by
  cases phase with
  | started w =>
    obtain ⟨sessionId, geometry, resumeFromDisk, hcall, hrecorded⟩ := hsound
    exact ⟨sessionId, geometry, resumeFromDisk, hcall, h.recorded hrecorded⟩
  | _ => exact hsound

variable {f : RecoveryWorker → RecoveryWorker}

open List

theorem commands_modify (w v : ℕ) (hf : ∀ worker, worker.commands ⊆ (f worker).commands) :
    s.commands v ⊆ (s.modify w f).commands v := by
  intro command hmem
  rw [commands, modify, setWorkers, getElem?_modify]
  rw [commands] at hmem
  cases hworker : s.workers[v]? with
  | none =>
    rw [hworker] at hmem
    cases hmem
  | some worker =>
    rw [hworker] at hmem
    split
    next => exact hf worker hmem
    next => exact hmem

theorem addressed_modify
    (hf : ∀ worker, worker.Addressed w → (f worker).Addressed w) (h : s.Addressed) :
    (s.modify w f).Addressed := by
  intro v worker hworker
  rw [modify, setWorkers, getElem?_modify] at hworker
  obtain ⟨old, hold, rfl⟩ := Option.map_eq_some_iff.mp hworker
  split
  next heq =>
    subst heq
    exact hf old (h w old hold)
  next => exact h v old hold

theorem grows_modify (hf : ∀ worker, worker.commands ⊆ (f worker).commands)
    (haddressed : ∀ worker, worker.Addressed w → (f worker).Addressed w) : Grows s (s.modify w f) :=
  ⟨fun v => commands_modify w v hf, fun _ _ => .inl, id, addressed_modify haddressed⟩

theorem grows_spawned : Grows s (s.setWorkers (s.workers ++ [.spawned])) := by
  refine ⟨fun w command hmem => ?_, fun _ _ => .inl, id, fun h w worker hworker => ?_⟩
  · rw [commands] at hmem ⊢
    cases hworker : s.workers[w]? with
    | none =>
      rw [hworker] at hmem
      cases hmem
    | some worker =>
      have hlt := (List.getElem?_eq_some_iff.mp hworker).1
      rw [setWorkers, getElem?_append_left hlt]
      exact hmem
  · rw [setWorkers, getElem?_append] at hworker
    split at hworker
    next => exact h w worker hworker
    next =>
      have hnew := mem_singleton.mp (mem_of_getElem? hworker)
      subst hnew
      rintro request (hmem | hcurrent)
      · cases hmem
      · cases hcurrent

theorem addressed_push {worker : RecoveryWorker} {message : WorkerMessage} (h : worker.Addressed w)
    (hmessage : ∀ request, message = .request request → request.worker = w) :
    (worker.push message).Addressed w := by
  rintro request (hmem | hcurrent)
  · rcases mem_append.mp hmem with hmem | hlast
    · exact h request (.inl hmem)
    · exact hmessage request (mem_singleton.mp hlast).symm
  · exact h request (.inr hcurrent)

theorem grows_sendRequest (request : Request) : Grows s (s.sendRequest request) := by
  have h : Grows s (s.modify request.worker (RecoveryWorker.push (.request request))) :=
    grows_modify (fun _ _ => id) fun _ haddressed => addressed_push haddressed fun other heq => by
      cases heq
      rfl
  exact { h with }

theorem written_of_outcome (h : s.Base) {request : Request} {dropped : String}
    {response : RecoveryResponse} (houtcome : s.outcome request dropped = some (.ok response)) :
    request.command ∈ s.commands request.worker := by
  rw [outcome] at houtcome
  split at houtcome
  next result hlookup =>
    cases houtcome
    refine h.replies request response ?_
    obtain ⟨before, after, heq, -⟩ := lookup_eq_some_iff.mp hlookup
    rw [heq]
    exact mem_append_right before mem_cons_self
  next =>
    split at houtcome <;> cases houtcome

/-! ### Steps that leave the state under the lock as it is -/

/-- Neither the state under the lock nor the guard changes. -/
structure Same (s s' : Manager) : Prop extends Grows s s' where
  sender : s'.sender = s.sender
  shutdownRequested : s'.shutdownRequested = s.shutdownRequested
  trackedSessions : s'.trackedSessions = s.trackedSessions
  started : s'.started = s.started
  restartGuard : s'.restartGuard = s.restartGuard
  calls : s'.calls = s.calls

theorem Same.refl (s : Manager) : Same s s := ⟨.refl s, rfl, rfl, rfl, rfl, rfl, rfl⟩

theorem same_modify (hf : ∀ worker, worker.commands ⊆ (f worker).commands)
    (haddressed : ∀ worker, worker.Addressed w → (f worker).Addressed w) : Same s (s.modify w f) :=
  ⟨grows_modify hf haddressed, rfl, rfl, rfl, rfl, rfl, rfl⟩

theorem same_cancel (w : ℕ) : Same s (s.modify w RecoveryWorker.cancel) :=
  same_modify (fun _ _ => id) fun _ => id

theorem same_sendRequest (request : Request) : Same s (s.sendRequest request) :=
  ⟨grows_sendRequest request, rfl, rfl, rfl, rfl, rfl, rfl⟩

theorem Same.tracked (h : Same s s') : s'.Tracked sessionId ↔ s.Tracked sessionId := by
  rw [Tracked, Tracked, h.trackedSessions]

theorem Same.base (h : Same s s') (hbase : s.Base) : s'.Base where
  tracked hdown sessionId := by
    rw [h.tracked, h.started]
    exact hbase.tracked (h.shutdownRequested ▸ hdown) sessionId
  down hdown := by
    rw [h.sender]
    exact hbase.down (h.shutdownRequested ▸ hdown)
  recorded w hw sessionId htracked :=
    h.toGrows.recorded (hbase.recorded w (h.sender ▸ hw) sessionId (h.tracked.mp htracked))
  replies request response hmem := by
    rcases h.replies request response hmem with hmem | hmem
    · exact h.commands _ (hbase.replies request response hmem)
    · exact hmem
  addressed := h.toGrows.addressed hbase.addressed

/-- What a step of another call does not change for a task. -/
theorem TaskOk.frame (hok : s.TaskOk i task) (hgrows : Grows s s')
    (hguard : task.phase.holdsGuard = true → s'.restartGuard = s.restartGuard)
    (hcopy : task.phase.copy ≠ none → s'.sender = s.sender ∧
      ∀ sessionId, s'.Tracked sessionId → s.Tracked sessionId) : s'.TaskOk i task := by
  refine ⟨fun hholds => ?_, fun pending w heq => ?_, hgrows.sound hok.sound,
    fun hflushes => hgrows.down (hok.down hflushes)⟩
  · rw [hguard hholds]
    exact hok.guard hholds
  · obtain ⟨hsender, htracked⟩ := hcopy (heq ▸ Option.some_ne_none _)
    obtain ⟨hnone, hcovered⟩ := hok.copy pending w heq
    rw [hsender]
    refine ⟨hnone, fun sessionId hsession => ?_⟩
    rcases hcovered sessionId (htracked sessionId hsession) with hmem | ⟨v, hv, hrecorded⟩
    · exact .inl hmem
    · exact .inr ⟨v, hv, hgrows.recorded hrecorded⟩

theorem Same.taskOk (h : Same s s') (hok : s.TaskOk i task) : s'.TaskOk i task :=
  hok.frame h.toGrows (fun _ => h.restartGuard) fun _ => ⟨h.sender, fun _ => h.tracked.mp⟩

theorem inv_same (h : s.Inv) (hsame : Same s s') : s'.Inv := by
  refine ⟨hsame.base h.toBase, fun i task htask => ?_⟩
  rw [hsame.calls] at htask
  exact hsame.taskOk (h.calls i task htask)

/-- One call goes on and the others are as they were. -/
theorem inv_set (hbase : s'.Base) (hcalls : s'.calls = s.calls)
    (hothers : ∀ j other, j ≠ i → s.calls[j]? = some other → s'.TaskOk j other)
    (hself : s'.TaskOk i task') : (s'.setTask i task').Inv := by
  have hsame : ∀ {j other}, s'.TaskOk j other → (s'.setTask i task').TaskOk j other :=
    fun hok => hok.frame (.of_eq rfl rfl id) (fun _ => rfl) fun _ => ⟨rfl, fun _ => id⟩
  refine ⟨{ hbase with }, fun j other hother => ?_⟩
  rw [setTask, hcalls] at hother
  by_cases heq : i = j
  · subst heq
    rw [getElem?_set_self'] at hother
    cases hcall : s.calls[i]? with
    | none =>
      rw [hcall] at hother
      cases hother
    | some task =>
      rw [hcall] at hother
      cases hother
      exact hsame hself
  · rw [getElem?_set_ne heq] at hother
    exact hsame (hothers j other (Ne.symm heq) hother)

theorem Inv.setSame (h : s.Inv) (hsame : Same s s') (hself : s'.TaskOk i task') :
    (s'.setTask i task').Inv :=
  inv_set (hsame.base h.toBase) hsame.calls
    (fun j other _ hother => hsame.taskOk (h.calls j other hother)) hself

/-! ### Where a task goes on -/

/-- A phase without the guard and without a copy. -/
structure Free (phase : Phase) : Prop where
  guard : phase.holdsGuard = false
  copy : phase.copy = none

theorem Free.taskOk (h : Free task.phase) (hsound : s.Sound task.call task.phase)
    (hdown : task.phase.flushes = true → s.shutdownRequested = true) : s.TaskOk i task where
  guard hholds := by
    rw [h.guard] at hholds
    cases hholds
  copy _ _ heq := by
    rw [h.copy] at heq
    cases heq
  sound := hsound
  down := hdown

/-- A phase that relies on nothing. -/
structure Plain (phase : Phase) : Prop extends Free phase where
  sound : ∀ (s : Manager) (call : Call), s.Sound call phase
  flushes : phase.flushes = false

theorem Plain.taskOk (h : Plain task.phase) : s.TaskOk i task := by
  refine h.toFree.taskOk (h.sound s task.call) fun hflushes => ?_
  rw [h.flushes] at hflushes
  cases hflushes

theorem Inv.plain (h : s.Inv) (hplain : Plain task'.phase) : (s.setTask i task').Inv :=
  h.setSame (.refl s) hplain.taskOk

theorem plain_returned (result : Except Failure RecoveryResponse) : Plain (.returned result) :=
  ⟨⟨rfl, rfl⟩, fun _ _ => trivial, rfl⟩

theorem plain_ensured (task : Task) (worker : Option ℕ) : Plain (task.ensured worker).phase := by
  cases worker with
  | none => exact plain_returned _
  | some w => exact ⟨⟨rfl, rfl⟩, fun _ _ => trivial, rfl⟩

theorem plain_retry (task : Task) (message : String) : Plain (task.retry message).phase := by
  rw [Task.retry]
  split
  next => exact ⟨⟨rfl, rfl⟩, fun _ _ => trivial, rfl⟩
  next => exact plain_returned _

theorem plain_ite {c : Prop} [Decidable c] {task task' : Task} (h : Plain task.phase)
    (h' : Plain task'.phase) : Plain (if c then task else task').phase := by
  split
  next => exact h
  next => exact h'

theorem plain_begin (launcher : Bool) (call : Call) : Plain (Task.begin launcher call).phase := by
  have hensure : Plain .ensure := ⟨⟨rfl, rfl⟩, fun _ _ => trivial, rfl⟩
  have htracking : Plain .tracking := ⟨⟨rfl, rfl⟩, fun _ _ => trivial, rfl⟩
  cases call with
  | startSession =>
    exact plain_ite (plain_returned _) (plain_ite hensure (plain_ensured _ none))
  | resizeSession | endSession => exact plain_ite (plain_returned _) htracking
  | flushAndShutdown => exact ⟨⟨rfl, rfl⟩, fun _ _ => trivial, rfl⟩
  | _ => exact plain_ite (plain_returned _) (plain_ite hensure (plain_returned _))

theorem holdsGuard_of_copy (h : phase.copy ≠ none) :
    phase.holdsGuard = true ∧ phase.flushes = false := by
  cases phase with
  | cancel w after | wait w after =>
    cases after with
    | flushed => exact absurd rfl h
    | _ => exact ⟨rfl, rfl⟩
  | spawn | replay | replaying => exact ⟨rfl, rfl⟩
  | _ => exact absurd rfl h

section Holding

variable (hok : s.TaskOk i task) (hholds : task.phase.holdsGuard = true)

include hok hholds

/-- A task that holds the guard goes on. -/
theorem TaskOk.goOn (hsame : Same s s') (hflushes : phase.flushes = false)
    (hcopy : ∀ pending w, phase.copy = some (pending, w) → s'.sender = none ∧
      ∀ sessionId, s'.Tracked sessionId →
        sessionId ∈ pending ∨ ∃ v, w = some v ∧ s'.Recorded v sessionId)
    (hsound : s'.Sound task.call phase) : s'.TaskOk i (task.setPhase phase) where
  guard _ := by
    rw [hsame.restartGuard]
    exact hok.guard hholds
  copy := hcopy
  sound := hsound
  down heq := by
    rw [Task.setPhase, hflushes] at heq
    cases heq

/-- It has no copy. -/
theorem TaskOk.keep (hsame : Same s s') (hcopy : phase.copy = none)
    (hflushes : phase.flushes = false) (hsound : s'.Sound task.call phase) :
    s'.TaskOk i (task.setPhase phase) := by
  refine hok.goOn hholds hsame hflushes (fun _ _ heq => ?_) hsound
  rw [hcopy] at heq
  cases heq

theorem Inv.keep (h : s.Inv) (hcopy : phase.copy = none) (hflushes : phase.flushes = false)
    (hsound : s.Sound task.call phase) : (s.setTask i (task.setPhase phase)).Inv :=
  h.setSame (.refl s) (hok.keep hholds (.refl s) hcopy hflushes hsound)

/-- A respawn goes on with its copy. -/
theorem TaskOk.respawn (hsame : Same s s') {pending pending' : List String} {w w' : Option ℕ}
    (hcopy : task.phase.copy = some (pending, w)) (hcopy' : phase.copy = some (pending', w'))
    (hcovered : ∀ sessionId, sessionId ∈ pending ∨ (∃ v, w = some v ∧ s.Recorded v sessionId) →
      sessionId ∈ pending' ∨ ∃ v, w' = some v ∧ s'.Recorded v sessionId)
    (hsound : s'.Sound task.call phase) : s'.TaskOk i (task.setPhase phase) := by
  refine hok.goOn hholds hsame (holdsGuard_of_copy (hcopy' ▸ Option.some_ne_none _)).2
    (fun _ _ heq => ?_) hsound
  rw [hcopy'] at heq
  cases heq
  obtain ⟨hnone, hold⟩ := hok.copy pending w hcopy
  rw [hsame.sender]
  exact ⟨hnone, fun sessionId htracked => hcovered _ (hold sessionId (hsame.tracked.mp htracked))⟩

/-- No other call holds the guard. -/
theorem TaskOk.other_waits {j : ℕ} {other : Task} (hne : j ≠ i) (hother : s.TaskOk j other) :
    ¬ other.phase.holdsGuard = true := by
  intro hholds'
  have heq := (hother.guard hholds').symm.trans (hok.guard hholds)
  cases heq
  exact hne rfl

end Holding

/-! ### The guard -/

theorem inv_release (h : s.Inv) (hok : s.TaskOk i task) (hholds : task.phase.holdsGuard = true)
    (hplain : Plain task'.phase) : ((s.setGuard none).setTask i task').Inv := by
  refine inv_set { h with } rfl (fun j other hne hcall => ?_) hplain.taskOk
  have hother := h.calls j other hcall
  exact hother.frame (.of_eq rfl rfl id)
    (fun hholds' => absurd hholds' (hok.other_waits hholds hne hother)) fun _ => ⟨rfl, fun _ => id⟩

theorem inv_acquire (h : s.Inv) (hfree : s.restartGuard.isNone = true)
    (hcopy : phase.copy = none) (hflushes : phase.flushes = false)
    (hsound : ∀ (s : Manager) (call : Call), s.Sound call phase) :
    ((s.setGuard (some i)).setTask i (task.setPhase phase)).Inv := by
  refine inv_set { h with } rfl (fun j other hne hcall => ?_) ?_
  · have hother := h.calls j other hcall
    refine hother.frame (.of_eq rfl rfl id) (fun hholds => ?_) fun _ => ⟨rfl, fun _ => id⟩
    rw [hother.guard hholds] at hfree
    cases hfree
  · refine ⟨fun _ => rfl, fun _ _ heq => ?_, hsound _ _, fun heq => ?_⟩
    · rw [Task.setPhase, hcopy] at heq
      cases heq
    · rw [Task.setPhase, hflushes] at heq
      cases heq

/-! ### `ensure_sender` -/

theorem base_uninstalled (h : s.Base) : (s.setSender none).Base :=
  { h with down := fun _ => rfl, recorded := nofun }

theorem taskOk_uninstalled (h : s.TaskOk i task) : (s.setSender none).TaskOk i task := by
  refine h.frame (.of_eq rfl rfl id) (fun _ => rfl) fun hcopy => ⟨?_, fun _ => id⟩
  obtain ⟨⟨pending, w⟩, heq⟩ := Option.ne_none_iff_exists'.mp hcopy
  exact (h.copy pending w heq).1.symm

theorem inv_resume (h : s.Inv) (hok : s.TaskOk i task) {after : After}
    (hholds : after.holdsGuard = true → task.phase.holdsGuard = true)
    (hcopy : ∀ copy due, after = .respawn copy due → s.sender = none ∧
      ∀ sessionId, s.Tracked sessionId → sessionId ∈ copy.map Prod.fst)
    (hdown : after = .flushed → s.shutdownRequested = true) : (s.resume i task after).Inv := by
  cases after with
  | respawn copy due =>
    cases due with
    | true =>
      obtain ⟨hnone, hall⟩ := hcopy copy true rfl
      refine h.setSame (.refl s)
        ⟨fun _ => hok.guard (hholds rfl), fun _ _ heq => ?_, trivial, nofun⟩
      cases heq
      exact ⟨hnone, fun sessionId htracked => .inl (hall sessionId htracked)⟩
    | false => exact inv_release h hok (hholds rfl) (plain_ensured task none)
  | recordFailure => exact h.keep hok (hholds rfl) rfl rfl trivial
  | discard => exact inv_release h hok (hholds rfl) (plain_ensured task none)
  | invalidated message => exact inv_release h hok (hholds rfl) (plain_retry task message)
  | flushed =>
    exact h.setSame (.refl s) (Free.taskOk ⟨rfl, rfl⟩ trivial fun _ => hdown rfl)

/-- The copy has every tracked session. -/
theorem mem_copy (h : s.Tracked sessionId) :
    sessionId ∈ (s.trackedSessions.entries.map fun entry => (entry.1, entry.2)).map Prod.fst := by
  have hkey := AList.lookup_isSome.mp h
  rw [map_map]
  exact hkey

theorem inv_takeStale (h : s.Inv) (hok : s.TaskOk i task) (hphase : task.phase = .guarded)
    (now : ℕ) : (s.takeStale i task now).Inv := by
  have hholds : task.phase.holdsGuard = true := by rw [hphase]; rfl
  rw [takeStale]
  split
  next => exact inv_release h hok hholds (plain_ensured task none)
  next =>
  split
  next w _ => exact inv_release h hok hholds (plain_ensured task (some w))
  next =>
  split
  next w _ =>
    refine inv_set (base_uninstalled h.toBase) rfl
      (fun j other _ hcall => taskOk_uninstalled (h.calls j other hcall)) ?_
    refine ⟨fun _ => hok.guard hholds, fun _ _ heq => ?_, trivial, nofun⟩
    cases heq
    exact ⟨rfl, fun sessionId htracked => .inl (mem_copy htracked)⟩
  next hnone =>
    refine inv_resume h hok (fun _ => hholds) (fun copy due heq => ?_) nofun
    cases heq
    exact ⟨hnone, fun sessionId => mem_copy⟩

/-- The worker was sent what is tracked when it is installed. -/
theorem inv_install (h : s.Inv) (hok : s.TaskOk i task)
    (hphase : task.phase = .replay w []) (hdown : s.shutdownRequested = false)
    (retry : RestartRetry) (hplain : Plain task'.phase) :
    ((((s.setRetry retry).setSender (some w)).setGuard none).setTask i task').Inv := by
  have hholds : task.phase.holdsGuard = true := by rw [hphase]; rfl
  obtain ⟨-, hcovered⟩ := hok.copy [] (some w) (by rw [hphase]; rfl)
  refine inv_set
    { h with down := fun hdown' => ?_, recorded := fun v hv sessionId htracked => ?_ } rfl
    (fun j other hne hcall => ?_) hplain.taskOk
  · rw [show s.shutdownRequested = true from hdown'] at hdown
    cases hdown
  · cases hv
    rcases hcovered sessionId htracked with hmem | ⟨v, hv, hrecorded⟩
    · cases hmem
    · cases hv
      exact hrecorded
  · have hother := h.calls j other hcall
    have hwaits := hok.other_waits hholds hne hother
    exact hother.frame (.of_eq rfl rfl id) (fun hholds' => absurd hholds' hwaits)
      fun hcopy => absurd (holdsGuard_of_copy hcopy).1 hwaits

variable {copy : List (String × SessionGeometry)}

/-- A session of the copy is the one that is picked, or is left. -/
theorem mem_picked {k : ℕ} {picked : String × SessionGeometry} (hpick : copy[k]? = some picked)
    (hmem : sessionId ∈ copy.map Prod.fst) :
    sessionId ∈ picked.1 :: (copy.eraseIdx k).map Prod.fst := by
  obtain ⟨entry, hentry, rfl⟩ := mem_map.mp hmem
  obtain ⟨n, hn⟩ := mem_iff_getElem?.mp hentry
  by_cases heq : n = k
  · subst heq
    cases hpick.symm.trans hn
    exact mem_cons_self
  · refine mem_cons_of_mem _ (mem_map_of_mem ?_)
    exact mem_eraseIdx_iff_getElem?.mpr ⟨n, heq, hn⟩

theorem inv_replayNext (h : s.Inv) (hok : s.TaskOk i task)
    (hphase : task.phase = .replay w copy) {env : Env}
    (hstep : s.replayNext i task w copy env = some s') : s'.Inv := by
  have hholds : task.phase.holdsGuard = true := by rw [hphase]; rfl
  cases copy with
  | nil =>
    rw [replayNext] at hstep
    split at hstep
    next =>
      cases hstep
      exact h.keep hok hholds rfl rfl trivial
    next hdown =>
      cases hstep
      exact inv_install h hok hphase (Bool.eq_false_iff.mpr hdown) .new
        (plain_ensured task (some w))
  | cons first rest =>
    rw [replayNext] at hstep
    split at hstep
    next => cases hstep
    next sessionId geometry hpick =>
    split at hstep
    next =>
      cases hstep
      exact h.keep hok hholds rfl rfl trivial
    next =>
    obtain ⟨-, rfl⟩ := guard_eq_some hstep
    have hcopy : task.phase.copy = some ((first :: rest).map Prod.fst, some w) := by
      rw [hphase]
      rfl
    refine h.setSame (same_sendRequest _) (hok.respawn hholds (same_sendRequest _) hcopy rfl
      (fun other hcovered => ?_) ⟨_, _, _, rfl⟩)
    rcases hcovered with hmem | ⟨v, hv, hrecorded⟩
    · exact .inl (mem_picked hpick hmem)
    · exact .inr ⟨v, hv, (grows_sendRequest _).recorded hrecorded⟩

theorem inv_replaying (h : s.Inv) (hok : s.TaskOk i task) {request : Request}
    (hphase : task.phase = .replaying request sessionId copy)
    (hwritten : request.command ∈ s.commands request.worker) :
    (s.setTask i (task.setPhase (.replay request.worker copy))).Inv := by
  have hholds : task.phase.holdsGuard = true := by rw [hphase]; rfl
  have hcopy : task.phase.copy = some (sessionId :: copy.map Prod.fst, some request.worker) := by
    rw [hphase]
    rfl
  have hsound := hok.sound
  rw [hphase] at hsound
  obtain ⟨cols, rows, resumeFromDisk, hcommand⟩ := hsound
  refine h.setSame (.refl s) (hok.respawn hholds (.refl s) hcopy rfl (fun other hcovered => ?_)
    trivial)
  rcases hcovered with hmem | hrecorded
  · rcases mem_cons.mp hmem with heq | hmem
    · rw [heq]
      exact .inr ⟨_, rfl, cols, rows, resumeFromDisk, hcommand ▸ hwritten⟩
    · exact .inl hmem
  · exact .inr hrecorded

end Manager

end Kanna.RecoveryManager
