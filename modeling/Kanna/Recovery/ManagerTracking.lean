import Kanna.Recovery.ManagerRespawn

/-!
# The tracked sessions and the installed worker

The manager promises that its tracked sessions are the ones that were started and not ended, and
that the worker it has installed was told of each of them. Two sections can break the promise:
`resize_session` enters whatever session it is given, and `start_session` enters its session only
after the reply, when a respawn may already have copied the set.

* `tracked_sessions_mirrored` — the promise, where a resize names a tracked session and no respawn
  has copied the set between a worker's reply to `StartSession` and the section that enters the
  session (`Orderly`).
-/

namespace Kanna.RecoveryManager

open Durable RecoveryWorker

namespace Manager

variable {s s' : Manager} {i : ℕ} {task task' : Task}

/-! ### The other calls -/

variable {w : ℕ}

theorem inv_sendCommand (h : s.Inv) (hstep : s.sendCommand i task w = some s') : s'.Inv := by
  rw [sendCommand] at hstep
  split at hstep
  next =>
    cases hstep
    exact h.plain ⟨⟨rfl, rfl⟩, fun _ _ => trivial, rfl⟩
  next =>
  split at hstep
  next =>
    obtain ⟨-, rfl⟩ := guard_eq_some hstep
    exact h.setSame (same_sendRequest _) (Free.taskOk ⟨rfl, rfl⟩ rfl nofun)
  next =>
    split at hstep
    next =>
      cases hstep
      refine h.setSame (same_modify (fun _ _ => id) fun _ haddressed => ?_)
        (Plain.taskOk (plain_returned _))
      exact addressed_push haddressed nofun
    next =>
      cases hstep
      exact h.plain (plain_returned _)

/-! ### The sections of the calls -/

/-- A resize names a session that is tracked. A start enters its session while the worker that
acknowledged it is installed, or none is and no respawn has copied the set. -/
def OrderlyTask (s : Manager) (task : Task) : Prop :=
  match task.phase, task.call with
  | .tracking, .resizeSession sessionId _ => s.Tracked sessionId
  | .started w, _ =>
    s.sender = some w ∨ s.sender = none ∧ ∀ other ∈ s.calls, other.phase.copy = none
  | _, _ => True

instance (s : Manager) (task : Task) : Decidable (s.OrderlyTask task) := by
  unfold OrderlyTask Tracked
  split <;> infer_instance

/-- The move is not one of a call that is out of order. -/
def Orderly (s : Manager) : Move → Prop
  | .advance i _ => ∀ task ∈ s.calls[i]?, s.OrderlyTask task
  | _ => True

instance (s : Manager) (move : Move) : Decidable (s.Orderly move) := by
  unfold Orderly
  split <;> infer_instance

theorem tracked_insert {sessionId other : String} {geometry : SessionGeometry} :
    (s.setTracked (s.trackedSessions.insert sessionId geometry)).Tracked other ↔
      other = sessionId ∨ s.Tracked other := by
  rw [Tracked, setTracked, lookup_insert_eq, Tracked]
  by_cases heq : other = sessionId <;> simp [heq]

theorem tracked_erase {sessionId other : String} :
    (s.setTracked (s.trackedSessions.erase sessionId)).Tracked other ↔
      other ≠ sessionId ∧ s.Tracked other := by
  rw [Tracked, setTracked, lookup_erase_eq, Tracked]
  by_cases heq : other = sessionId <;> simp [heq]

variable {tracked : Records String SessionGeometry}

/-- A section after which no more is tracked. -/
theorem inv_shrink (started : List String) (h : s.Inv)
    (hle : ∀ sessionId, (s.setTracked tracked).Tracked sessionId → s.Tracked sessionId)
    (hstarted : s.shutdownRequested = false → ∀ sessionId,
      (s.setTracked tracked).Tracked sessionId ↔ sessionId ∈ started)
    (hplain : Plain task'.phase) :
    (({ s with started := started }.setTracked tracked).setTask i task').Inv := by
  refine inv_set ⟨hstarted, h.down, fun w hw sessionId htracked => ?_, h.replies, h.addressed⟩ rfl
    (fun j other _ hcall => ?_) hplain.taskOk
  · exact h.recorded w hw sessionId (hle sessionId htracked)
  · exact (h.calls j other hcall).frame (.of_eq rfl rfl id) (fun _ => rfl) fun _ => ⟨rfl, hle⟩

variable (h : s.Inv)

include h

theorem inv_track (hphase : task.phase = .tracking) (horderly : s.OrderlyTask task)
    (hstep : s.track i task = some s') : s'.Inv := by
  have hplain : Plain (if s.launcher then task.setPhase .ensure else task.ensured none).phase :=
    plain_ite ⟨⟨rfl, rfl⟩, fun _ _ => trivial, rfl⟩ (plain_ensured task none)
  rw [track] at hstep
  split at hstep
  next sessionId geometry hcall =>
    cases hstep
    rw [OrderlyTask, hphase, hcall] at horderly
    have hsame : ∀ other,
        (s.setTracked (s.trackedSessions.insert sessionId geometry)).Tracked other ↔
          s.Tracked other := by
      intro other
      rw [tracked_insert]
      exact or_iff_right_of_imp fun heq => heq ▸ horderly
    refine inv_shrink s.started h (fun other => (hsame other).mp) (fun hdown other => ?_) hplain
    rw [hsame]
    exact h.tracked hdown other
  next sessionId hcall =>
    cases hstep
    refine inv_shrink _ h (fun other htracked => (tracked_erase.mp htracked).2)
      (fun hdown other => ?_) hplain
    rw [tracked_erase, List.mem_filter, h.tracked hdown, decide_eq_true_iff, and_comm]
  next => cases hstep

theorem inv_trackStarted (hok : s.TaskOk i task)
    (hphase : task.phase = .started w) (horderly : s.OrderlyTask task)
    (hstep : s.trackStarted i task = some s') : s'.Inv := by
  have hsound := hok.sound
  rw [hphase] at hsound
  obtain ⟨sessionId, geometry, resumeFromDisk, hcall, hrecorded⟩ := hsound
  rw [OrderlyTask, hphase] at horderly
  rw [trackStarted, hcall] at hstep
  cases hstep
  refine inv_set
    ⟨fun hdown other => ?_, h.down, fun v hv other htracked => ?_, h.replies, h.addressed⟩ rfl
    (fun j other _ hother => ?_) (Plain.taskOk (plain_returned _))
  · refine Iff.trans tracked_insert ?_
    exact (or_congr_right (h.tracked hdown other)).trans List.mem_cons.symm
  · rcases horderly with hw | ⟨hnone, -⟩
    · cases hw.symm.trans hv
      rcases tracked_insert.mp htracked with heq | htracked
      · exact heq ▸ hrecorded
      · exact h.recorded w hw other htracked
    · cases hnone.symm.trans hv
  · have hotherOk := h.calls j other hother
    refine hotherOk.frame (.of_eq rfl rfl id) (fun _ => rfl) fun hcopy => ?_
    obtain ⟨⟨pending, v⟩, heq⟩ := Option.ne_none_iff_exists'.mp hcopy
    rcases horderly with hw | ⟨-, hnone⟩
    · cases hw.symm.trans (hotherOk.copy pending v heq).1
    · exact absurd (hnone other (List.mem_of_getElem? hother)) hcopy

theorem inv_shutdown (hfree : Free task'.phase)
    (hsound : ∀ (s : Manager) (call : Call), s.Sound call task'.phase) :
    (({ s with shutdownRequested := true }.setSender none).setTask i task').Inv := by
  refine inv_set ⟨nofun, fun _ => rfl, nofun, h.replies, h.addressed⟩
    rfl (fun j other _ hcall => ?_) (hfree.taskOk (hsound _ _) fun _ => rfl)
  exact (taskOk_uninstalled (h.calls j other hcall)).frame
    (.of_eq rfl rfl fun _ => rfl) (fun _ => rfl) fun _ => ⟨rfl, fun _ => id⟩

theorem inv_wait (hok : s.TaskOk i task) {after : After}
    (hphase : task.phase = .wait w after) : (s.resume i task after).Inv := by
  refine inv_resume h hok (fun hholds => ?_) (fun copy due heq => ?_) fun heq => ?_
  · rw [hphase]
    exact hholds
  · subst heq
    obtain ⟨hnone, hcovered⟩ := hok.copy (copy.map Prod.fst) none (by rw [hphase]; rfl)
    refine ⟨hnone, fun sessionId htracked => ?_⟩
    rcases hcovered sessionId htracked with hmem | ⟨_, hv, -⟩
    · exact hmem
    · cases hv
  · subst heq
    exact hok.down (by rw [hphase]; rfl)

theorem inv_spawn (hok : s.TaskOk i task) {copy : List (String × SessionGeometry)}
    (hphase : task.phase = .spawn copy) (w : ℕ) :
    ((s.setWorkers (s.workers ++ [.spawned])).setTask i (task.setPhase (.replay w copy))).Inv := by
  have hsame : Same s (s.setWorkers (s.workers ++ [.spawned])) :=
    ⟨grows_spawned, rfl, rfl, rfl, rfl, rfl, rfl⟩
  have hcopy : task.phase.copy = some (copy.map Prod.fst, none) := by rw [hphase]; rfl
  refine h.setSame hsame (hok.respawn (by rw [hphase]; rfl) hsame hcopy rfl
    (fun sessionId hcovered => ?_) trivial)
  rcases hcovered with hmem | ⟨_, hv, -⟩
  · exact .inl hmem
  · cases hv

variable {phase : Phase} (hok : s.TaskOk i task)

include hok

/-- A shutdown goes on. -/
theorem inv_down (hflushes : task.phase.flushes = true)
    (hfree : Free phase) (hsound : s.Sound task.call phase) :
    (s.setTask i (task.setPhase phase)).Inv :=
  h.setSame (.refl s) (hfree.taskOk hsound fun _ => hok.down hflushes)

/-! ### Every step -/

section Phases

variable {env : Env} (hstep : s.advance i task env = some s')

include hstep

omit hok in
theorem inv_ensure (hphase : task.phase = .ensure) : s'.Inv := by
  simp only [advance, hphase] at hstep
  split at hstep
  next =>
    cases hstep
    exact h.plain (plain_ensured task none)
  next =>
  split at hstep
  next w _ =>
    cases hstep
    exact h.plain (plain_ensured task (some w))
  next =>
    cases hstep
    exact h.plain ⟨⟨rfl, rfl⟩, fun _ _ => trivial, rfl⟩

theorem inv_cancel {after : After} (hphase : task.phase = .cancel w after) : s'.Inv := by
  simp only [advance, hphase] at hstep
  cases hstep
  obtain ⟨hguard, hcopy, -, hdown⟩ := (same_cancel w).taskOk hok
  rw [hphase] at hguard hcopy hdown
  refine h.setSame (same_cancel w) ?_
  cases after <;> exact ⟨hguard, hcopy, trivial, hdown⟩

theorem inv_replayed {request : Request} {sessionId : String}
    {copy : List (String × SessionGeometry)}
    (hphase : task.phase = .replaying request sessionId copy) : s'.Inv := by
  simp only [advance, hphase] at hstep
  split at hstep
  next => cases hstep
  next houtcome =>
    cases hstep
    exact inv_replaying h hok hphase (written_of_outcome h.toBase houtcome)
  next =>
    cases hstep
    exact h.keep hok (by rw [hphase]; rfl) rfl rfl trivial

theorem inv_recordFailure (hphase : task.phase = .recordFailure) : s'.Inv := by
  simp only [advance, hphase] at hstep
  cases hstep
  have hsame : Same s (s.setRetry (s.restartRetry.recordFailure env.now)) :=
    ⟨.of_eq rfl rfl id, rfl, rfl, rfl, rfl, rfl, rfl⟩
  exact inv_release (inv_same h hsame) (hsame.taskOk hok) (by rw [hphase]; rfl)
    (plain_ensured task none)

/-- The reply to `StartSession` says that the worker has recorded the session. -/
theorem inv_await {request : Request} (hphase : task.phase = .await request) : s'.Inv := by
  simp only [advance, hphase] at hstep
  split at hstep
  next => cases hstep
  next response houtcome =>
    cases hstep
    have hsound := hok.sound
    rw [hphase] at hsound
    have hwritten := written_of_outcome h.toBase houtcome
    refine h.setSame (.refl s) ?_
    unfold Task.answered
    split
    next sessionId geometry resumeFromDisk hcall =>
      split
      next =>
        rw [hsound, hcall] at hwritten
        exact Free.taskOk ⟨rfl, rfl⟩
          ⟨sessionId, geometry, resumeFromDisk, hcall, _, _, _, hwritten⟩ nofun
      next => exact Plain.taskOk (plain_returned _)
      next => exact Plain.taskOk (plain_returned _)
    next => exact Plain.taskOk (plain_returned _)
  next =>
    cases hstep
    exact h.plain ⟨⟨rfl, rfl⟩, fun _ _ => trivial, rfl⟩

theorem inv_clear {message : String} (hphase : task.phase = .clear w message) : s'.Inv := by
  simp only [advance, hphase] at hstep
  cases hstep
  have hself : s.TaskOk i (task.setPhase (.cancel w (.invalidated message))) :=
    hok.keep (by rw [hphase]; rfl) (.refl s) rfl rfl trivial
  split
  next =>
    exact inv_set (base_uninstalled h.toBase) rfl
      (fun j other _ hcall => taskOk_uninstalled (h.calls j other hcall))
      (taskOk_uninstalled hself)
  next => exact h.setSame (.refl s) hself

theorem inv_flush (hphase : task.phase = .flush w) : s'.Inv := by
  simp only [advance, hphase] at hstep
  split at hstep
  next =>
    cases hstep
    exact inv_down h hok (by rw [hphase]; rfl) ⟨rfl, rfl⟩ trivial
  next =>
  obtain ⟨-, rfl⟩ := guard_eq_some hstep
  have hdown := hok.down (by rw [hphase]; rfl)
  exact h.setSame (same_sendRequest _) (Free.taskOk ⟨rfl, rfl⟩ trivial fun _ => hdown)

theorem inv_flushing {request : Request} (hphase : task.phase = .flushing request) : s'.Inv := by
  simp only [advance, hphase] at hstep
  split at hstep
  next => cases hstep
  all_goals
    cases hstep
    exact inv_down h hok (by rw [hphase]; rfl) ⟨rfl, rfl⟩ trivial

theorem inv_advance (horderly : s.OrderlyTask task) : s'.Inv := by
  have hadvance := hstep
  cases hphase : task.phase
  all_goals
    rw [advance, hphase] at hadvance
    dsimp only at hadvance
  case tracking => exact inv_track h hphase horderly hadvance
  case ensure => exact inv_ensure h hstep hphase
  case restart =>
    obtain ⟨hfree, rfl⟩ := guard_eq_some hadvance
    exact inv_acquire h hfree rfl rfl fun _ _ => trivial
  case guarded =>
    cases hadvance
    exact inv_takeStale h hok hphase env.now
  case cancel w after => exact inv_cancel h hok hstep hphase
  case wait w after =>
    obtain ⟨-, rfl⟩ := guard_eq_some hadvance
    exact inv_wait h hok hphase
  case spawn copy =>
    split at hadvance
    next =>
      cases hadvance
      exact h.keep hok (by rw [hphase]; rfl) rfl rfl trivial
    next =>
      cases hadvance
      exact inv_spawn h hok hphase _
  case replay w copy => exact inv_replayNext h hok hphase hadvance
  case replaying => exact inv_replayed h hok hstep hphase
  case recordFailure => exact inv_recordFailure h hok hstep hphase
  case send w => exact inv_sendCommand h hadvance
  case await => exact inv_await h hok hstep hphase
  case invalidate w message =>
    cases hadvance
    exact h.setSame (same_cancel w) (Plain.taskOk ⟨⟨rfl, rfl⟩, fun _ _ => trivial, rfl⟩)
  case gate w message =>
    obtain ⟨hfree, rfl⟩ := guard_eq_some hadvance
    exact inv_acquire h hfree rfl rfl fun _ _ => trivial
  case clear => exact inv_clear h hok hstep hphase
  case started w => exact inv_trackStarted h hok hphase horderly hadvance
  case shutdown =>
    cases hadvance
    split <;> exact inv_shutdown h ⟨rfl, rfl⟩ fun _ _ => trivial
  case flush => exact inv_flush h hok hstep hphase
  case flushing => exact inv_flushing h hok hstep hphase
  case clearAll =>
    cases hadvance
    refine inv_shrink s.started h nofun (fun hup => ?_) (plain_returned _)
    cases hup.symm.trans (hok.down (by rw [hphase]; rfl))
  case returned => cases hadvance

end Phases

theorem inv_timeout (hstep : s.timeout i task = some s') : s'.Inv := by
  cases hphase : task.phase
  all_goals
    rw [timeout, hphase] at hstep
    cases hstep
  case replaying => exact h.keep hok (by rw [hphase]; rfl) rfl rfl trivial
  case await => exact h.plain ⟨⟨rfl, rfl⟩, fun _ _ => trivial, rfl⟩
  case flushing => exact inv_down h hok (by rw [hphase]; rfl) ⟨rfl, rfl⟩ trivial

omit hok

omit h

theorem same_receive (w : ℕ) : Same s (s.modify w receive) := by
  refine same_modify (fun worker => ?_) fun worker haddressed => ?_
  · rw [receive]
    split <;> exact fun _ => id
  · rw [receive]
    split
    next => exact haddressed
    next message rest hqueue =>
      rintro request (hmem | hcurrent)
      · exact haddressed request (.inl (hqueue ▸ List.mem_cons_of_mem _ hmem))
      · cases hcurrent
        exact haddressed request (.inl (hqueue ▸ List.mem_cons_self))

theorem same_close (w : ℕ) : Same s (s.modify w close) := by
  refine same_modify (fun _ _ => id) fun worker _ => ?_
  rintro request (hmem | hcurrent)
  · cases hmem
  · cases hcurrent

theorem same_served (w : ℕ) (command : RecoveryCommand) (written exiting : Bool) :
    Same s (s.modify w (·.served command written exiting)) := by
  refine same_modify (fun worker => ?_) fun worker haddressed => ?_
  · rw [served]
    split
    next => exact List.subset_append_left _ _
    next => exact fun _ => id
  · rintro request (hmem | hcurrent)
    · exact haddressed request (.inl hmem)
    · cases hcurrent

/-- A command that is answered was written. -/
theorem mem_commands_served {worker : RecoveryWorker}
    (hworker : s.workers[w]? = some worker) (command : RecoveryCommand) (exiting : Bool) :
    command ∈ (s.modify w (·.served command true exiting)).commands w := by
  rw [commands, modify, setWorkers, List.getElem?_modify, hworker]
  simp [served]

theorem inv_serve (h : s.Inv) {outcome : Outcome} (hstep : s.serve w outcome = some s') :
    s'.Inv := by
  rw [serve] at hstep
  split at hstep
  next => cases hstep
  next message hmessage =>
  obtain ⟨worker, hworker, hcurrent⟩ := Option.bind_eq_some_iff.mp hmessage
  split at hstep
  next =>
    cases hstep
    exact inv_same h (same_served w _ _ _)
  next request =>
    cases hstep
    have hsame := same_served (s := s) w request.command outcome.written
      (!outcome.result.isOk || request.command = .flushAndShutdown)
    refine inv_same h ⟨{ hsame with replies := fun other response hmem => ?_ },
      rfl, rfl, rfl, rfl, rfl, rfl⟩
    rcases List.mem_cons.mp hmem with heq | hmem
    · cases outcome with
      | answered answer =>
        cases heq
        rw [h.addressed w worker hworker request (.inr hcurrent)]
        exact .inr (mem_commands_served hworker _ _)
      | failed => cases heq
    · exact .inl hmem

theorem inv_begin (h : s.Inv) {task : Task} (hplain : Plain task.phase) :
    ({ s with calls := s.calls ++ [task] } : Manager).Inv := by
  refine ⟨{ h with }, fun i other hother => ?_⟩
  rw [List.getElem?_append] at hother
  split at hother
  next =>
    exact (h.calls i other hother).frame (.of_eq rfl rfl id) (fun _ => rfl)
      fun _ => ⟨rfl, fun _ => id⟩
  next =>
    have hnew := List.mem_singleton.mp (List.mem_of_getElem? hother)
    subst hnew
    exact hplain.taskOk

theorem inv_step {move : Move} (h : s.Inv) (horderly : s.Orderly move)
    (hstep : step s move = some s') : s'.Inv := by
  cases move with
  | begin call =>
    cases hstep
    exact inv_begin h (plain_begin s.launcher call)
  | advance i env =>
    obtain ⟨task, htask, hadvance⟩ := Option.bind_eq_some_iff.mp hstep
    exact inv_advance h (h.calls i task htask) hadvance (horderly task htask)
  | timeout i =>
    obtain ⟨task, htask, htimeout⟩ := Option.bind_eq_some_iff.mp hstep
    exact inv_timeout h (h.calls i task htask) htimeout
  | receive w =>
    rw [step] at hstep
    obtain ⟨-, rfl⟩ := guard_eq_some hstep
    exact inv_same h (same_receive w)
  | serve w outcome => exact inv_serve h hstep
  | close w =>
    cases hstep
    exact inv_same h (same_close w)
  | stop w =>
    rw [step] at hstep
    obtain ⟨-, rfl⟩ := guard_eq_some hstep
    exact inv_same h (same_modify (fun _ _ => id) fun _ => id)

theorem inv_new (launcher : Bool) : (new launcher).Inv := by
  refine ⟨⟨fun _ sessionId => ?_, fun _ => rfl, fun _ hw => ?_, fun _ _ hmem => ?_,
    fun _ _ hw => ?_⟩, fun _ _ htask => ?_⟩
  · simp [Tracked, new]
  · cases hw
  · cases hmem
  · cases hw
  · cases htask

/-- No call is in progress. -/
def Idle (s : Manager) : Prop := ∀ task ∈ s.calls, task.phase.isReturned = true

/-- With no call in progress and a live worker installed, the tracked sessions are those that were
started and not ended since, and the worker was sent `StartSession` for each of them. -/
def Mirrored (s : Manager) : Prop :=
  s.Idle → ∀ w, s.liveSender = some w →
    (∀ sessionId, s.Tracked sessionId ↔ sessionId ∈ s.started) ∧
      ∀ sessionId, s.Tracked sessionId → s.Recorded w sessionId

theorem Inv.mirrored (h : s.Inv) : s.Mirrored := by
  intro _ w hlive
  obtain ⟨hsender, -⟩ := Option.filter_eq_some_iff.mp hlive
  refine ⟨h.tracked ?_, h.recorded w hsender⟩
  cases hdown : s.shutdownRequested with
  | false => rfl
  | true => cases hsender.symm.trans (h.down hdown)

end Manager

/-! ### Main results -/

open Manager in
/-- **The installed worker mirrors what was started.** -/
theorem tracked_sessions_mirrored (launcher : Bool) (moves : List Move)
    (h : Meets step Orderly (.new launcher) moves) :
    Always step Mirrored (.new launcher) moves :=
  always_of_meets Inv.mirrored inv_step (inv_new launcher) h

/-- So many steps of a call, with a sidecar that can be started. -/
def steps (i n : ℕ) : List Move := List.replicate n (.advance i ⟨0, none, 0, fun _ => false⟩)

/-- The first call starts a session, up to the section that enters it. -/
def startSession : List Move :=
  .begin (.startSession "a" ⟨80, 24⟩ false) :: steps 0 6 ++
    [.receive 0, .serve 0 (.answered .ok)] ++ steps 0 1

/-- The sidecar is gone when output is written to it; the next call starts a second worker. -/
def respawn : List Move :=
  .begin (.writeOutput "b" [] 1) :: steps 1 2 ++
    [.receive 0, .serve 0 (.failed false "broken pipe"), .close 0, .stop 0] ++
    .begin (.writeOutput "b" [] 2) :: steps 2 6

/-- The session is entered before the worker fails, and replayed to the second one. -/
def startedBeforeRespawn : List Move :=
  startSession ++ steps 0 1 ++ respawn ++ steps 2 1 ++ [.receive 1, .serve 1 (.answered .ok)] ++
    steps 2 3

theorem tracked_sessions_mirrored_respawned :
    Meets step Manager.Orderly (.new true) startedBeforeRespawn ∧
      Always step Manager.Mirrored (.new true) startedBeforeRespawn :=
  have hmeets : Meets step Manager.Orderly (.new true) startedBeforeRespawn := by decide
  ⟨hmeets, tracked_sessions_mirrored true startedBeforeRespawn hmeets⟩

example : ((run step (.new true) startedBeforeRespawn).map fun s => (s.liveSender, s.commands 1)) =
    some (some 1, [.startSession "a" 80 24 false]) := by
  decide

/-- **Two runs that the manager gets wrong.** A resize that comes after the end of its session
tracks it again. And a session whose worker fails between its reply and the section is tracked
while the installed worker was never sent anything. -/
theorem unmirrored_sessions :
    ((run step (.new true)
        (startSession ++ steps 0 1 ++ [.begin (.endSession "a")] ++ steps 1 3 ++
          [.begin (.resizeSession "a" ⟨100, 30⟩)] ++ steps 2 3)).map fun s =>
      (s.calls.all (·.phase.isReturned), s.liveSender, s.trackedSessions.keys, s.started)) =
      some (true, some 0, ["a"], []) ∧
    ((run step (.new true) (startSession ++ respawn ++ steps 2 2 ++ steps 0 1)).map fun s =>
      (s.calls.all (·.phase.isReturned), s.liveSender, s.trackedSessions.keys, s.commands 1)) =
      some (true, some 1, ["a"], []) := by
  decide

end Kanna.RecoveryManager
