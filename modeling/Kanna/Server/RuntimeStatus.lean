import Kanna.Lib.Run

/-!
# What managers are told about the session of a task

`db/task_events.rs` records the runtime state of a task, and the flush of
`db/pipeline_items.rs` publishes it. Entering `busy` is published at once; any other state is
held back and published by the first flush that finds it ten seconds old. The column
`runtime_event_baseline` is meant to be the state managers were last told about.

It is not always that. The first state of a task is held back with no baseline, and the next
change then takes the state it replaces for the baseline, although no manager has heard of
it (`COALESCE(runtime_event_baseline, previous)`).
-/

namespace Kanna.RuntimeStatus

/-! ### The columns and the three writers -/

/-- The events of the runtime dimension. -/
inductive Event where
  /-- `task.runtime_changed` -/
  | runtimeChanged (previousRuntimeState : Option String) (runtimeState : String)
      (latestRunFinishedWithoutCompletion : Bool)
  /-- `task.runtime_settled`, the deprecated alias -/
  | runtimeSettled (previousRuntimeState : Option String) (runtimeState : String)
  /-- `task.awaiting_input` -/
  | awaitingInput (prompt : Option String)

/-- The columns of a task's row that the writers read, and the events appended for it. Times
are those of `datetime('now')`, in seconds. -/
structure Task where
  closedAt : Option Int
  runtimeStatus : Option String
  /-- the state that counts as announced -/
  runtimeEventBaseline : Option String
  /-- since when a state is held back -/
  runtimeEventPendingAt : Option Int
  events : List Event

/-- A newly created open task. -/
def Task.new : Task := ⟨none, none, none, none, []⟩

/-- `MANAGER_ACTIVITY_DEBOUNCE_SECONDS`. -/
def managerActivityDebounceSeconds : Int := 10

/-- The `busy` branch of the update: published at once, and a pending candidate is dropped. -/
def enterBusy (task : Task) : Task :=
  { task with
    runtimeStatus := some "busy"
    runtimeEventBaseline := some "busy"
    runtimeEventPendingAt := none
    events := task.events ++
      if task.runtimeEventBaseline ≠ some "busy" then
        [.runtimeChanged task.runtimeEventBaseline "busy" false]
      else [] }

/-- The other branch: the state is held back, and a missing baseline is filled from the state
it replaces. -/
def holdBack (now : Int) (runtimeStatus : String) (task : Task) : Task :=
  { task with
    runtimeStatus := some runtimeStatus
    runtimeEventBaseline := task.runtimeEventBaseline <|> task.runtimeStatus
    runtimeEventPendingAt := some now }

/-- Crossing into `waiting` asks for input, once for each block. -/
def askForInput (runtimeStatus : String) (waitingPrompt : Option String) (task : Task) : Task :=
  if runtimeStatus = "waiting" then
    { task with events := task.events ++ [.awaitingInput waitingPrompt] }
  else task

/-- `update_pipeline_item_runtime_status`, with whether the stored status changed. -/
def updatePipelineItemRuntimeStatus (now : Int) (runtimeStatus : String)
    (waitingPrompt : Option String) (task : Task) : Task × Bool :=
  if task.closedAt.isSome then (task, false)
  else if task.runtimeStatus = some runtimeStatus then (task, false)
  else
    (askForInput runtimeStatus waitingPrompt
      (if runtimeStatus = "busy" then enterBusy task else holdBack now runtimeStatus task), true)

/-- `clear_exited_runtime_status`, with whether anything was cleared. The baseline stays. -/
def clearExitedRuntimeStatus (task : Task) : Task × Bool :=
  if task.runtimeStatus = some "exited" then
    ({ task with runtimeStatus := none, runtimeEventPendingAt := none }, true)
  else (task, false)

/-- What the flush does to a row it has selected. -/
def publish (runtimeState : String) (latestRunStatus : Option String) (task : Task) : Task :=
  { task with
    runtimeEventBaseline := some runtimeState
    runtimeEventPendingAt := none
    events := task.events ++
      if task.runtimeEventBaseline = some runtimeState then []
      else
        .runtimeChanged task.runtimeEventBaseline runtimeState
            (decide (runtimeState ∈ ["idle", "exited"] ∧ latestRunStatus = some "running")) ::
          if task.runtimeEventBaseline = some "busy" ∧
              runtimeState ∈ ["idle", "waiting", "exited"] then
            [.runtimeSettled task.runtimeEventBaseline runtimeState]
          else [] }

/-- The runtime part of `flush_debounced_activity_events`, for one row and the status of its
latest run. -/
def flushDebouncedActivityEvents (now : Int) (latestRunStatus : Option String) (task : Task) :
    Task :=
  match task.closedAt, task.runtimeStatus, task.runtimeEventPendingAt with
  | none, some runtimeState, some pendingAt =>
    if pendingAt ≤ now - managerActivityDebounceSeconds then
      publish runtimeState latestRunStatus task
    else task
  | _, _, _ => task

/-! ### Runs -/

/-- A call of one of the writers. -/
inductive Call where
  | update (now : Int) (runtimeStatus : String) (waitingPrompt : Option String)
  | clearExited
  | flush (now : Int) (latestRunStatus : Option String)

/-- One call. -/
def step (task : Task) : Call → Option Task
  | .update now runtimeStatus waitingPrompt =>
    some (updatePipelineItemRuntimeStatus now runtimeStatus waitingPrompt task).1
  | .clearExited => some (clearExitedRuntimeStatus task).1
  | .flush now latestRunStatus => some (flushDebouncedActivityEvents now latestRunStatus task)

/-- One published transition. -/
structure Change where
  previous : Option String
  state : String

/-- The change that an event announces. -/
def Event.change : Event → Option Change
  | .runtimeChanged previous state _ => some ⟨previous, state⟩
  | _ => none

/-- The `task.runtime_changed` events of a task, oldest first. -/
def Task.changes (task : Task) : List Change := task.events.filterMap Event.change

/-- Each transition starts where the one before it ended, the first one at `last`, and ends
somewhere else. -/
def Chained : Option String → List Change → Prop
  | _, [] => True
  | last, change :: changes =>
    change.previous = last ∧ change.previous ≠ some change.state ∧
      Chained (some change.state) changes

/-- The state the last transition ended in. -/
def published : Option String → List Change → Option String
  | last, [] => last
  | _, change :: changes => published (some change.state) changes

/-- What managers were told is a chain from nothing, and it is up to date when nothing is
pending. -/
def Truthful (task : Task) : Prop :=
  Chained none task.changes ∧
    (task.runtimeEventPendingAt = none → ∀ state, task.runtimeStatus = some state →
      published none task.changes = some state)

/-- The call does not take a state that was never published for the baseline: a state other
than `busy` replaces another one only when there is a baseline. -/
def KeepsBaseline (task : Task) : Call → Prop
  | .update _ runtimeStatus _ =>
    runtimeStatus = "busy" ∨ task.runtimeEventBaseline ≠ none ∨ task.runtimeStatus = none ∨
      task.runtimeStatus = some runtimeStatus
  | _ => True

instance (task : Task) (call : Call) : Decidable (KeepsBaseline task call) :=
  match call with
  | .update _ runtimeStatus _ =>
    inferInstanceAs (Decidable (runtimeStatus = "busy" ∨ task.runtimeEventBaseline ≠ none ∨
      task.runtimeStatus = none ∨ task.runtimeStatus = some runtimeStatus))
  | .clearExited => .isTrue trivial
  | .flush _ _ => .isTrue trivial

/-! ### Appending a transition -/

theorem chained_append {last : Option String} {changes : List Change} {change : Change}
    (h : Chained last changes) (hprevious : change.previous = published last changes)
    (hne : change.previous ≠ some change.state) : Chained last (changes ++ [change]) := by
  induction changes generalizing last with
  | nil => exact ⟨hprevious, hne, trivial⟩
  | cons first rest ih =>
    obtain ⟨hfirst, hmove, hrest⟩ := h
    exact ⟨hfirst, hmove, ih hrest hprevious⟩

theorem published_append (last : Option String) (changes : List Change) (change : Change) :
    published last (changes ++ [change]) = some change.state := by
  induction changes generalizing last with
  | nil => rfl
  | cons first rest ih => exact ih (some first.state)

/-! ### What the writers keep -/

/-- What holds of a task as long as the baseline is only ever set by a publication. -/
structure Valid (task : Task) : Prop where
  opened : task.closedAt = none
  /-- each change starts from the state of the one before -/
  chained : Chained none task.changes
  /-- it is the state announced last -/
  baseline : task.runtimeEventBaseline = published none task.changes
  /-- with nothing held back the stored state was announced -/
  level : task.runtimeEventPendingAt = none → ∀ state, task.runtimeStatus = some state →
    task.runtimeEventBaseline = some state

theorem valid_new : Valid Task.new := ⟨rfl, trivial, rfl, nofun⟩

variable {task task' : Task}

theorem Valid.truthful (h : Valid task) : Truthful task :=
  ⟨h.chained, fun hpending state hstate => h.baseline ▸ h.level hpending state hstate⟩

section Publish

variable {state : String} (h : Valid task) (hopened : task'.closedAt = none)
  (hbaseline : task'.runtimeEventBaseline = some state)
  (hstatus : task'.runtimeStatus = some state)

include h hopened hbaseline hstatus

/-- Publishing a state the baseline differs from extends the chain by it. -/
theorem Valid.publishes (hne : task.runtimeEventBaseline ≠ some state)
    (hchanges : task'.changes = task.changes ++ [⟨task.runtimeEventBaseline, state⟩]) :
    Valid task' := by
  refine ⟨hopened, ?_, ?_, fun _ current hcurrent => ?_⟩
  · rw [hchanges]
    exact chained_append h.chained h.baseline hne
  · rw [hchanges, published_append, hbaseline]
  · rw [hbaseline, ← hstatus, hcurrent]

/-- Publishing the state of the baseline publishes nothing. -/
theorem Valid.republishes (heq : task.runtimeEventBaseline = some state)
    (hchanges : task'.changes = task.changes) : Valid task' := by
  refine ⟨hopened, hchanges ▸ h.chained, ?_, fun _ current hcurrent => ?_⟩
  · rw [hchanges, hbaseline, ← heq, h.baseline]
  · rw [hbaseline, ← hstatus, hcurrent]

end Publish

theorem Valid.enterBusy (h : Valid task) : Valid (enterBusy task) := by
  by_cases hbusy : task.runtimeEventBaseline = some "busy"
  · refine h.republishes h.opened rfl rfl hbusy ?_
    simp [RuntimeStatus.enterBusy, Task.changes, hbusy]
  · refine h.publishes h.opened rfl rfl hbusy ?_
    simp [RuntimeStatus.enterBusy, Task.changes, hbusy, Event.change]

variable {now : Int} {runtimeStatus : String}

/-- A state is held back without touching the chain, unless it fills the baseline. -/
theorem Valid.holdBack (h : Valid task)
    (hkeeps : task.runtimeEventBaseline ≠ none ∨ task.runtimeStatus = none) :
    Valid (holdBack now runtimeStatus task) := by
  have hbaseline : (RuntimeStatus.holdBack now runtimeStatus task).runtimeEventBaseline =
      task.runtimeEventBaseline := by
    rcases hkeeps with hsome | hnone
    · obtain ⟨state, hstate⟩ := Option.ne_none_iff_exists'.mp hsome
      rw [RuntimeStatus.holdBack, hstate]
      rfl
    · rw [RuntimeStatus.holdBack, hnone]
      cases task.runtimeEventBaseline <;> rfl
  refine ⟨h.opened, h.chained, hbaseline.trans h.baseline, fun hpending => ?_⟩
  cases hpending

theorem changes_askForInput (runtimeStatus : String) (waitingPrompt : Option String)
    (task : Task) : (askForInput runtimeStatus waitingPrompt task).changes = task.changes := by
  rw [askForInput]
  split
  · simp [Task.changes, Event.change]
  · rfl

variable (h : Valid task)

include h

variable {waitingPrompt : Option String}

theorem Valid.askForInput : Valid (askForInput runtimeStatus waitingPrompt task) := by
  have hcolumns : (RuntimeStatus.askForInput runtimeStatus waitingPrompt task).closedAt =
        task.closedAt ∧
      (RuntimeStatus.askForInput runtimeStatus waitingPrompt task).runtimeEventBaseline =
        task.runtimeEventBaseline ∧
      (RuntimeStatus.askForInput runtimeStatus waitingPrompt task).runtimeEventPendingAt =
        task.runtimeEventPendingAt ∧
      (RuntimeStatus.askForInput runtimeStatus waitingPrompt task).runtimeStatus =
        task.runtimeStatus := by
    rw [RuntimeStatus.askForInput]
    split <;> exact ⟨rfl, rfl, rfl, rfl⟩
  obtain ⟨hclosed, hbaseline, hpending, hstatus⟩ := hcolumns
  refine ⟨hclosed.trans h.opened, ?_, ?_, ?_⟩
  · rw [changes_askForInput]
    exact h.chained
  · rw [hbaseline, changes_askForInput, h.baseline]
  · rw [hbaseline, hpending, hstatus]
    exact h.level

theorem Valid.update (hkeeps : KeepsBaseline task (.update now runtimeStatus waitingPrompt)) :
    Valid (updatePipelineItemRuntimeStatus now runtimeStatus waitingPrompt task).1 := by
  rw [updatePipelineItemRuntimeStatus, h.opened]
  split
  next hclosed => cases hclosed
  next =>
  split
  next => exact h
  next hchanged =>
  refine Valid.askForInput ?_
  split
  next => exact h.enterBusy
  next hbusy =>
    rcases hkeeps with heq | hsome | hnone | heq
    · exact absurd heq hbusy
    · exact h.holdBack (.inl hsome)
    · exact h.holdBack (.inr hnone)
    · exact absurd heq hchanged

theorem Valid.clearExited : Valid (clearExitedRuntimeStatus task).1 := by
  rw [clearExitedRuntimeStatus]
  split
  · exact { h with level := fun _ _ hstate => by cases hstate }
  · exact h

variable {latestRunStatus : Option String}

theorem Valid.publish {runtimeState : String} (hstatus : task.runtimeStatus = some runtimeState) :
    Valid (publish runtimeState latestRunStatus task) := by
  by_cases heq : task.runtimeEventBaseline = some runtimeState
  · refine h.republishes h.opened rfl hstatus heq ?_
    simp [RuntimeStatus.publish, Task.changes, heq]
  · refine h.publishes h.opened rfl hstatus heq ?_
    -- the alias that may follow is no transition
    have halias : ∀ settled : Prop, [Decidable settled] → (if settled then
        [Event.runtimeSettled task.runtimeEventBaseline runtimeState] else []).filterMap
          Event.change = [] := by
      intro settled _
      split <;> rfl
    simp [RuntimeStatus.publish, Task.changes, heq, Event.change, halias]

theorem Valid.flush : Valid (flushDebouncedActivityEvents now latestRunStatus task) := by
  rw [flushDebouncedActivityEvents]
  split
  next runtimeState pendingAt _ hstatus _ =>
    split
    · exact h.publish hstatus
    · exact h
  next => exact h

omit h

theorem Valid.step {call : Call} (h : Valid task)
    (hkeeps : KeepsBaseline task call) (hstep : step task call = some task') : Valid task' := by
  cases call with
  | update now runtimeStatus waitingPrompt =>
    cases hstep
    exact h.update hkeeps
  | clearExited =>
    cases hstep
    exact h.clearExited
  | flush now latestRunStatus =>
    cases hstep
    exact h.flush

/-- **The published states of a session form a chain.** Along every timed sequence of calls
on a new task that never takes an unpublished state for the baseline, the
`task.runtime_changed` events start from nothing, each one where the last one ended and none
where it starts, and whenever nothing is pending the last published state is the stored
one. -/
theorem runtime_changed_events_chain (calls : List Call)
    (hkeeps : Meets step KeepsBaseline Task.new calls) :
    Always step Truthful Task.new calls :=
  always_of_meets Valid.truthful Valid.step valid_new hkeeps

/-- A session that parks, works, asks and exits. -/
theorem runtime_changed_events_chain_session :
    Always step Truthful Task.new
      [.update 0 "idle" none, .flush 10 (some "running"), .update 11 "busy" none,
        .update 12 "waiting" (some "proceed?"), .flush 15 none, .update 16 "exited" none,
        .flush 26 none, .clearExited, .update 30 "busy" none] :=
  runtime_changed_events_chain _ (by decide)

/-- **A state no manager was told about becomes the baseline.** A task that is idle and then
waiting within the window is announced as having been idle, and one that flickers back is
never announced at all. -/
theorem unpublished_state_becomes_baseline :
    (∃ task, run step Task.new
        [.update 0 "idle" none, .update 1 "waiting" none, .flush 20 none] = some task ∧
      task.changes = [⟨some "idle", "waiting"⟩] ∧ ¬ Truthful task) ∧
    ∃ task, run step Task.new
        [.update 0 "idle" none, .update 1 "waiting" none, .update 2 "idle" none,
          .flush 20 none] = some task ∧
      task.runtimeEventPendingAt = none ∧ task.runtimeStatus = some "idle" ∧
        task.changes = [] ∧ ¬ Truthful task := by
  refine ⟨⟨_, rfl, rfl, ?_⟩, _, rfl, rfl, rfl, rfl, ?_⟩
  · rintro ⟨⟨hfirst, -⟩, -⟩
    cases hfirst
  · rintro ⟨-, hlevel⟩
    have hpublished := hlevel rfl "idle" rfl
    cases hpublished

end Kanna.RuntimeStatus
