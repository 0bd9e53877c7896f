import Kanna.Lib.Run
import Kanna.Lib.Text

/-!
# Stage completion

An agent reports the verdict on its stage run to `complete_stage`, which commits it and then
prepares the transition that the completion calls for and hands it to the executor
(`task_actions.rs`). The database and the requests are those of one task, serialised by its
mutation guard; what the executor, dispatched posts and revisions do to the runs in between is
arbitrary.
-/

namespace Kanna.StageCompletion

/-- The agent's run of a stage, or the one after it. -/
inductive RunKind where
  | main
  | post
  deriving DecidableEq

/-- The `status` column of a run. -/
inductive RunStatus where
  | running
  | succeeded
  | failed
  | other (name : String)
  deriving DecidableEq

/-- A row of `stage_run`. -/
structure StageRun where
  id : String
  kind : RunKind
  status : RunStatus
  result : Option String
  completionTransition : Option String
  deriving DecidableEq

/-- What the workflow says of a stage: its policy, and whether it has a post and a successor. -/
structure Stage where
  auto : Bool
  hasPost : Bool
  hasSuccessor : Bool

/-- `StagePosition` of the task's stage; a legacy task may be parked at the name of a post. -/
inductive StagePosition where
  | post
  | stage (stage : Stage)

/-- The task's rows, in the order of their row ids: its runs, and the runs and verdicts that
context-less attempt keys have recorded. -/
structure Db where
  closed : Bool
  position : Option StagePosition
  runs : List StageRun
  /-- key, run and verdict of each -/
  attempts : List (String × String × String) := []

/-- `CompleteStageRequest`; `result` is the text of its status, summary and metadata. -/
structure Request where
  runId : Option String
  completionAttemptKey : Option String
  status : String
  result : String

/-- Why a verdict is refused, with what the message names. -/
inductive Refusal where
  | invalidStatus
  | blankRunId
  | ambiguous (running : List String) (received : Option String)
  | noRun
  | attemptKeyReused (runId : String)
  | stale (runId current : String)
  | notCompletable (runId : String) (status : RunStatus)
  deriving DecidableEq

variable (db : Db)

/-- The run with this id. -/
def Db.run (runId : String) : Option StageRun :=
  db.runs.find? fun run => run.id = runId

/-- `contextless_completion_attempt`. -/
def Db.attempt (key : String) : Option (String × String) :=
  (db.attempts.find? fun row => row.1 = key).map Prod.snd

/-- `record_contextless_completion_attempt`, if the request has a context-less key. -/
def Db.recordAttempt (key : Option String) (runId result : String) : Db :=
  { db with attempts := db.attempts ++ (key.map fun key => (key, runId, result)).toList }

/-- `finish_stage_run`. -/
def Db.finish (runId : String) (status : RunStatus) (result : String) : Db :=
  { db with
    runs := db.runs.map fun run =>
      if run.id = runId then { run with status, result := some result } else run }

/-- The status that the verdict gives the run. -/
def Request.runStatus (request : Request) : RunStatus :=
  if request.status = "success" then .succeeded else .failed

/-- The attempt key, which counts only without a run id. -/
def Request.contextlessKey (request : Request) : Option String :=
  if request.runId.isNone then request.completionAttemptKey else none

/-- The run holds exactly this verdict. -/
def StageRun.holds (run : StageRun) (request : Request) : Bool :=
  run.status = request.runStatus ∧ run.result = some request.result

/-- The run that a verdict is about: the running one, or the last one if none is running. -/
def resolveActionRun (requested : Option String) : Except Refusal (Option StageRun) :=
  if requested.any fun id => trim id = "" then .error .blankRunId
  else
    match db.runs.filter fun run => run.status = .running with
    | [] => .ok db.runs.getLast?
    | [run] => .ok (some run)
    | running =>
      match running.find? fun run => some run.id = requested with
      | some run => .ok (some run)
      | none => .error (.ambiguous (running.map StageRun.id) requested)

/-- What the first transaction of `complete_stage` has come to. -/
inductive Recorded where
  | closed
  | replayed (runId : String)
  | finished (run : StageRun)

/-- The record of the verdict on the current run. -/
def recordCurrent (request : Request) (current : StageRun) : Except Refusal (Recorded × Db) :=
  if current.holds request then
    .ok (.replayed current.id, db.recordAttempt request.contextlessKey current.id request.result)
  else
    match current.status with
    | .other name => .error (.notCompletable current.id (.other name))
    | _ =>
      .ok (.finished current, (db.finish current.id request.runStatus request.result).recordAttempt
        request.contextlessKey current.id request.result)

/-- The verdict names another run than the current one. -/
def recordLate (request : Request) (current : StageRun) (runId : String) :
    Except Refusal (Recorded × Db) :=
  if (db.run runId).any fun run => run.holds request then
    .ok (.replayed runId, db.recordAttempt request.contextlessKey runId request.result)
  else .error (.stale runId current.id)

/-- The record of a verdict no context-less key has recorded. `legacy` is what
`resolve_legacy_completion_retry_run` finds. -/
def recordVerdict (request : Request) (legacy : Option String) : Except Refusal (Recorded × Db) :=
  if db.closed then .ok (.closed, db)
  else
    match resolveActionRun db request.runId with
    | .error refusal => .error refusal
    | .ok none => .error .noRun
    | .ok (some current) =>
      let runId := legacy.getD (request.runId.getD current.id)
      if current.id = runId then recordCurrent db request current
      else recordLate db request current runId

/-- The status is one of the two that are accepted. -/
def Request.valid (request : Request) : Bool :=
  request.status = "success" ∨ request.status = "failure"

/-- The verdict is checked and recorded; a repeated attempt is answered as before. -/
def recordCompletion (request : Request) (legacy : Option String) :
    Except Refusal (Recorded × Db) :=
  if request.valid = false then .error .invalidStatus
  else
    match request.contextlessKey.bind db.attempt with
    | some (runId, result) =>
      if result ≠ request.result then .error (.attemptKeyReused runId)
      else .ok (.replayed runId, db)
    | none => recordVerdict db request legacy

/-- The transition policy that holds for a run, if its stored one is valid. -/
def StageRun.auto (run : StageRun) (stage : Stage) : Option Bool :=
  match run.completionTransition with
  | some "manual" => some false
  | some "auto" => some true
  | some _ => none
  | none => some stage.auto

/-- `prepare_stage_completion_for_api_with_trigger`: whether there is a transition, or `none` for
an error of its own. -/
def prepareStageCompletion (run : StageRun) : Option Bool :=
  if db.closed then some false
  else
    match db.position with
    | none => none
    | some .post => some true
    | some (.stage stage) =>
      if run.kind = .post then some true
      else (run.auto stage).map fun auto => auto && (stage.hasPost || stage.hasSuccessor)

/-- What becomes of the request between the record of its verdict and the handover. -/
inductive Preparation where
  /-- the preparation runs -/
  | runs
  /-- the request ends with an error: the PR of the verdict cannot be written, a definition cannot
  be loaded, or the worktree cannot be prepared -/
  | fails
  /-- the server crashes, or the handler is abandoned with its connection -/
  | crashes
  deriving DecidableEq

/-- What the caller is told; `lost` is no answer at all. -/
inductive Answer where
  | ok (recorded : Recorded)
  | refused (refusal : Refusal)
  | error
  | lost

/-- What a request leads to: the answer, the database, and the run whose transition was handed to
the executor. -/
structure Outcome where
  answer : Answer
  db : Db
  handed : Option String := none

/-- The second half of `complete_stage`, for a success verdict that was recorded on `run`. -/
def transition (run : StageRun) (preparation : Preparation) : Outcome :=
  match preparation, prepareStageCompletion db run with
  | .crashes, _ => { answer := .lost, db }
  | .fails, _ | .runs, none => { answer := .error, db }
  | .runs, some false => { answer := .ok (.finished run), db }
  | .runs, some true => { answer := .ok (.finished run), db, handed := some run.id }

/-- The handler: record the verdict, and go on to the next stage after a success. -/
def completeStage (request : Request) (legacy : Option String)
    (preparation : Preparation) : Outcome :=
  match recordCompletion db request legacy with
  | .error refusal => { answer := .refused refusal, db }
  | .ok (.finished run, db') =>
    if request.status = "success" then transition db' run preparation
    else { answer := .ok (.finished run), db := db' }
  | .ok (recorded, db') => { answer := .ok recorded, db := db' }

/-- The run a verdict was credited to. -/
def Recorded.run : Recorded → Option String
  | .closed => none
  | .replayed runId => some runId
  | .finished run => some run.id

/-- The completion must move the workflow: that of a post, and that of a main run whose transition
is automatic and whose stage has a post or a successor. -/
def mustMove (run : StageRun) : Bool :=
  !db.closed && (run.kind = .post ||
    match db.position with
    | none => false
    | some .post => true
    | some (.stage stage) => run.auto stage = some true && (stage.hasPost || stage.hasSuccessor))

/-! ### The task -/

/-- The database, and what is noted of the requests so far: the runs whose completion must move
the workflow, those whose transition was handed over, and those whose success was acknowledged. -/
structure State where
  db : Db
  owed : List String := []
  handed : List String := []
  acknowledged : List String := []

/-- A request, or anything else that happens to the task and its runs. -/
inductive Move where
  | complete (request : Request) (legacy : Option String) (preparation : Preparation)
  | other (closed : Bool) (position : Option StagePosition) (runs : List StageRun)

/-- The run whose success a request acknowledges. -/
def acknowledges (request : Request) : Answer → Option String
  | .ok recorded => if request.status = "success" then recorded.run else none
  | _ => none

/-- The run whose completion a request records, if it must move the workflow. -/
def owes (request : Request) (legacy : Option String) : Option String :=
  match recordCompletion db request legacy with
  | .ok (.finished run, db') =>
    if request.status = "success" ∧ mustMove db' run then some run.id else none
  | _ => none

/-- A verdict comes in, or something else changes the task. -/
def step (s : State) : Move → Option State
  | .complete request legacy preparation =>
    let outcome := completeStage s.db request legacy preparation
    some {
      db := outcome.db
      owed := (owes s.db request legacy).toList ++ s.owed
      handed := outcome.handed.toList ++ s.handed
      acknowledged := (acknowledges request outcome.answer).toList ++ s.acknowledged }
  | .other closed position runs => some { s with db := { s.db with closed, position, runs } }

/-- The transition of every acknowledged run that must move the workflow was handed over. -/
def Moved (s : State) : Prop :=
  ∀ runId ∈ s.acknowledged, runId ∈ s.owed → runId ∈ s.handed

/-- The task's stage is one of its workflow, the preparation does not fail, and the server does
not crash before the transition is handed over. -/
def Prepared (s : State) : Move → Prop
  | .complete _ _ preparation => preparation = .runs ∧ s.db.position ≠ none
  | .other _ _ _ => True

instance (s : State) : (a : Move) → Decidable (Prepared s a)
  | .complete _ _ preparation =>
    inferInstanceAs (Decidable (preparation = .runs ∧ s.db.position ≠ none))
  | .other _ _ _ => .isTrue trivial

/-! ### What a record leaves unchanged -/

open Option List

section Records

variable {db db' : Db} {request : Request} {legacy : Option String} {recorded : Recorded}
  {preparation : Preparation}

/-- A record on an open task credits the verdict and adds its key. It changes the runs only for a
verdict that is new to the current run. -/
theorem recordVerdict_cases (hrecord : recordVerdict db request legacy = .ok (recorded, db')) :
    recorded = .closed ∧ db' = db ∨
      ∃ current, resolveActionRun db request.runId = .ok (some current) ∧
        ∃ base : Db, base.attempts = db.attempts ∧ base.position = db.position ∧
          let runId := legacy.getD (request.runId.getD current.id)
          recorded.run = some runId ∧
            db' = base.recordAttempt request.contextlessKey runId request.result ∧
            (base.runs = db.runs ∧ (∀ run, recorded ≠ .finished run) ∨
              current.id = runId ∧ current.holds request = false) := by
  unfold recordVerdict at hrecord
  split at hrecord
  · cases hrecord
    exact .inl ⟨rfl, rfl⟩
  split at hrecord
  · cases hrecord
  · cases hrecord
  next current hcurrent =>
    refine .inr ⟨current, hcurrent, ?_⟩
    dsimp only at hrecord ⊢
    split at hrecord
    next hsame =>
      rw [← hsame]
      unfold recordCurrent at hrecord
      split at hrecord
      · cases hrecord
        exact ⟨db, rfl, rfl, rfl, rfl, .inl ⟨rfl, nofun⟩⟩
      next hnew =>
        split at hrecord <;> cases hrecord
        exact ⟨db.finish current.id request.runStatus request.result, rfl, rfl, rfl, rfl,
          .inr ⟨rfl, Bool.not_eq_true _ ▸ hnew⟩⟩
    · unfold recordLate at hrecord
      split at hrecord <;> cases hrecord
      exact ⟨db, rfl, rfl, rfl, rfl, .inl ⟨rfl, nofun⟩⟩

/-- A record finds its key again, or records it, unless the task is closed. -/
theorem recordCompletion_attempts
    (hrecord : recordCompletion db request legacy = .ok (recorded, db')) :
    (∃ rows, db'.attempts = db.attempts ++ rows) ∧ db'.position = db.position ∧
      ∀ key, request.contextlessKey = some key → recorded ≠ .closed →
        ∃ runId, db'.attempt key = some (runId, request.result) := by
  unfold recordCompletion at hrecord
  split at hrecord
  · cases hrecord
  split at hrecord
  next runId result hfound =>
    obtain ⟨hsame, hrecord⟩ := of_throw hrecord
    cases hrecord
    refine ⟨⟨[], (append_nil _).symm⟩, rfl, fun key hkey _ => ⟨runId, ?_⟩⟩
    rw [hkey] at hfound
    rw [← not_not.mp hsame]
    exact hfound
  next hnone =>
    obtain ⟨rfl, rfl⟩ | ⟨current, -, base, hbase, hposition, -, rfl, -⟩ :=
      recordVerdict_cases hrecord
    · exact ⟨⟨[], (append_nil _).symm⟩, rfl, fun _ _ h => absurd rfl h⟩
    · refine ⟨⟨_, congrArg (· ++ _) hbase⟩, hposition,
        fun key hkey _ => ⟨legacy.getD (request.runId.getD current.id), ?_⟩⟩
      rw [hkey] at hnone
      have hfree : db.attempts.find? (fun row => row.1 = key) = none := by
        simpa [Db.attempt] using hnone
      simp [Db.attempt, Db.recordAttempt, hbase, hkey, find?_append, hfree]

/-- The answer does not touch what the record wrote. -/
theorem completeStage_db (hrecord : recordCompletion db request legacy = .ok (recorded, db')) :
    (completeStage db request legacy preparation).db = db' := by
  unfold completeStage transition
  rw [hrecord]
  cases recorded with
  | finished run =>
    dsimp only
    split
    · split <;> rfl
    · rfl
  | closed => rfl
  | replayed runId => rfl

/-- A key, once recorded, stays. -/
theorem attempt_step {s s' : State} {a : Move} {key : String} {row : String × String}
    (hkey : s.db.attempt key = some row) (hstep : step s a = some s') :
    s'.db.attempt key = some row := by
  cases a with
  | other closed position runs =>
    cases hstep
    exact hkey
  | complete request legacy preparation =>
    cases hstep
    cases hrecord : recordCompletion s.db request legacy with
    | error refusal =>
      rw [completeStage, hrecord]
      exact hkey
    | ok result =>
      obtain ⟨⟨rows, hrows⟩, -, -⟩ := recordCompletion_attempts hrecord
      obtain ⟨found, hfound, rfl⟩ := map_eq_some_iff.mp hkey
      simp [Db.attempt, completeStage_db hrecord, hrows, hfound]

end Records

/-! ### Late and repeated verdicts -/

/-- An outcome that changes no run and starts no transition. -/
def Outcome.Harmless (outcome : Outcome) (db : Db) : Prop :=
  outcome.db.runs = db.runs ∧ outcome.handed = none

/-- The runs of that id, if there are any, hold exactly this verdict. -/
def Db.Keeps (request : Request) (runId : String) : Prop :=
  ∀ run ∈ db.runs, run.id = runId → run.holds request = true

section Late

variable {db : Db} {request : Request} {runId : String} {current : StageRun}
  {preparation : Preparation}

/-- Only a verdict that is recorded anew does anything. -/
theorem harmless_of_record
    (hrecord : ∀ recorded db', recordCompletion db request none = .ok (recorded, db') →
      (∀ run, recorded ≠ .finished run) ∧ db'.runs = db.runs) :
    (completeStage db request none preparation).Harmless db := by
  unfold completeStage
  split
  · exact ⟨rfl, rfl⟩
  next run db' heq => exact absurd rfl ((hrecord _ db' heq).1 run)
  next recorded db' _ heq => exact ⟨(hrecord recorded db' heq).2, rfl⟩

/-- A request with a run id goes to the runs. -/
theorem recordCompletion_bound (hbound : request.runId = some runId) :
    recordCompletion db request none =
      if request.valid = false then .error .invalidStatus else recordVerdict db request none := by
  have hkey : request.contextlessKey = none := by simp [Request.contextlessKey, hbound]
  unfold recordCompletion
  rw [hkey]
  rfl

variable {recorded : Recorded}

/-- The credited run is the one the request names. -/
theorem credited_bound {db' : Db} {credited : String} (hbound : request.runId = some runId)
    (hrecord : recordCompletion db request none = .ok (recorded, db'))
    (hrun : recorded.run = some credited) : credited = runId := by
  rw [recordCompletion_bound hbound] at hrecord
  obtain ⟨-, hrecord⟩ := of_throw hrecord
  obtain ⟨rfl, -⟩ | ⟨current, -, base, -, -, hcredited, -⟩ := recordVerdict_cases hrecord
  · cases hrun
  · rw [hrun, hbound] at hcredited
    exact some.inj hcredited

/-- The current run is one of the task's. -/
theorem resolveActionRun_mem {requested : Option String}
    (hcurrent : resolveActionRun db requested = .ok (some current)) : current ∈ db.runs := by
  unfold resolveActionRun at hcurrent
  split_ifs at hcurrent
  split at hcurrent
  · exact mem_of_getLast? (by simpa using hcurrent)
  next run hone =>
    cases hcurrent
    exact mem_of_mem_filter (by rw [hone]; exact mem_singleton_self _)
  next running _ _ =>
    split at hcurrent
    next run hfound =>
      cases hcurrent
      exact mem_of_mem_filter (mem_of_find?_eq_some hfound)
    · cases hcurrent

/-- A verdict that its run still holds, or that is not for the current run, is harmless. -/
theorem harmless_bound (hbound : request.runId = some runId)
    (hkeeps : ∀ current, resolveActionRun db (some runId) = .ok (some current) →
      current.id = runId → current.holds request = true) :
    (completeStage db request none preparation).Harmless db := by
  refine harmless_of_record fun recorded db' hrecord => ?_
  rw [recordCompletion_bound hbound] at hrecord
  obtain ⟨-, hrecord⟩ := of_throw hrecord
  obtain ⟨rfl, rfl⟩ | ⟨current, hcurrent, base, -, -, -, rfl, hruns⟩ := recordVerdict_cases hrecord
  · exact ⟨nofun, rfl⟩
  rw [hbound] at hcurrent hruns
  obtain ⟨hruns, hold⟩ | ⟨hsame, hnew⟩ := hruns
  · exact ⟨hold, hruns⟩
  · rw [hkeeps current hcurrent hsame] at hnew
    cases hnew

/-- A context-less attempt that was recorded with this verdict is harmless. -/
theorem harmless_attempt {key credited : String} (hkey : request.contextlessKey = some key)
    (hattempt : db.attempt key = some (credited, request.result)) :
    (completeStage db request none preparation).Harmless db := by
  refine harmless_of_record fun recorded db' hrecord => ?_
  rw [recordCompletion, hkey] at hrecord
  split at hrecord
  · cases hrecord
  simp only [bind_some, hattempt, ne_eq, not_true_eq_false, if_false] at hrecord
  cases hrecord
  exact ⟨nofun, rfl⟩

/-- The answer to a late verdict on an open task: a replay if its run holds exactly this verdict,
and a refusal otherwise. -/
def LateAnswer (db : Db) (request : Request) (runId : String) (answer : Answer) : Prop :=
  if request.valid && (db.run runId).any fun run => run.holds request then
    answer = .ok (.replayed runId)
  else ∃ refusal, answer = .refused refusal

theorem lateAnswer (hbound : request.runId = some runId) (hopen : db.closed = false)
    (hcurrent : resolveActionRun db (some runId) = .ok (some current))
    (hother : current.id ≠ runId) :
    LateAnswer db request runId (completeStage db request none preparation).answer := by
  unfold LateAnswer completeStage
  rw [recordCompletion_bound hbound]
  cases hvalid : request.valid with
  | false => exact ⟨_, rfl⟩
  | true =>
    simp only [recordVerdict, recordLate, hopen, hbound, hcurrent, getD_none,
      getD_some, hother, Bool.true_eq_false, Bool.false_eq_true, if_false, Bool.true_and]
    split
    · rfl
    · exact ⟨_, rfl⟩

/-- The answer to a verdict for a run of a closed task, which is not looked at. -/
theorem closedAnswer (hbound : request.runId = some runId) (hclosed : db.closed = true) :
    (completeStage db request none preparation).answer =
      if request.valid then .ok .closed else .refused .invalidStatus := by
  unfold completeStage
  rw [recordCompletion_bound hbound]
  cases hvalid : request.valid with
  | false => rfl
  | true =>
    rw [if_neg nofun, recordVerdict, if_pos hclosed]
    rfl

end Late

/-- **Late and repeated verdicts.** Without legacy contexts: a request whose run id is not that of
the run `resolve_action_run` picks changes no run and starts no transition. On an open task it is
a replay if its run holds exactly this verdict, and refused otherwise; on a closed task it is
acknowledged, unless its status is invalid, which is refused first. A request with a run id or an
attempt key that was credited to a run, and is sent again after any other moves, changes no run
and starts no transition while the run still holds its verdict. -/
theorem late_verdict (db : Db) (request : Request) (preparation : Preparation) :
    (∀ runId current, request.runId = some runId →
      resolveActionRun db (some runId) = .ok (some current) → current.id ≠ runId →
      (completeStage db request none preparation).Harmless db ∧
        (db.closed = false →
          LateAnswer db request runId (completeStage db request none preparation).answer) ∧
        (db.closed = true → (completeStage db request none preparation).answer =
          if request.valid then .ok .closed else .refused .invalidStatus)) ∧
    ∀ recorded db' runId, recordCompletion db request none = .ok (recorded, db') →
      recorded.run = some runId →
      (request.runId ≠ none ∨ request.completionAttemptKey ≠ none) →
      ∀ (s s' : State) (moves : List Move), s.db = db' → run step s moves = some s' →
        s'.db.Keeps request runId →
        ∀ again, (completeStage s'.db request none again).Harmless s'.db := by
  refine ⟨fun runId current hbound hcurrent hother =>
    ⟨?_, fun hopen => ?_, fun hclosed => closedAnswer hbound hclosed⟩, ?_⟩
  · refine harmless_bound hbound fun found hfound hsame => ?_
    rw [hcurrent] at hfound
    cases hfound
    exact absurd hsame hother
  · exact lateAnswer hbound hopen hcurrent hother
  intro recorded db' runId hrecord hrun hidentity s s' moves hs hmoves hkeeps again
  cases hbound : request.runId with
  | some named =>
    obtain rfl := credited_bound hbound hrecord hrun
    exact harmless_bound hbound fun current hcurrent hsame =>
      hkeeps current (resolveActionRun_mem hcurrent) hsame
  | none =>
    obtain ⟨key, hkey⟩ := ne_none_iff_exists'.mp (hidentity.resolve_left (by simp [hbound]))
    have hcontextless : request.contextlessKey = some key := by
      simp [Request.contextlessKey, hbound, hkey]
    obtain ⟨-, -, hattempt⟩ := recordCompletion_attempts hrecord
    obtain ⟨credited, hattempt⟩ := hattempt key hcontextless (by rintro rfl; cases hrun)
    rw [← hs] at hattempt
    have hkept : Always step (·.db.attempt key = some (credited, request.result)) s moves :=
      always_of_invariant attempt_step moves hattempt
    exact harmless_attempt hcontextless (hkept.last hmoves)

/-! ### Acknowledged verdicts -/

/-- A completion that must move the workflow is handed over if its preparation runs. -/
theorem prepare_of_mustMove {db : Db} {run : StageRun} (hmust : mustMove db run = true)
    (hposition : db.position ≠ none) : prepareStageCompletion db run = some true := by
  simp only [mustMove, Bool.and_eq_true, Bool.not_eq_true', Bool.or_eq_true,
    decide_eq_true_eq] at hmust
  obtain ⟨hopen, hkind⟩ := hmust
  rw [prepareStageCompletion, hopen]
  match hat : db.position with
  | none => exact absurd hat hposition
  | some .post => rfl
  | some (.stage stage) =>
    rw [hat] at hkind
    by_cases hpost : run.kind = .post
    · simp [hpost]
    · obtain ⟨hauto, hnext⟩ := by simpa [hpost] using hkind
      simp [hpost, hauto, hnext]

theorem handed_step {s s' : State} {a : Move} (hI : ∀ runId ∈ s.owed, runId ∈ s.handed)
    (hprepared : Prepared s a) (hstep : step s a = some s') :
    ∀ runId ∈ s'.owed, runId ∈ s'.handed := by
  cases a with
  | other closed position runs =>
    cases hstep
    exact hI
  | complete request legacy preparation =>
    cases hstep
    obtain ⟨rfl, hposition⟩ := hprepared
    intro runId hmem
    obtain hnew | hold := mem_append.mp hmem
    · refine mem_append_left _ ?_
      unfold owes at hnew
      split at hnew
      next run db' hrecord =>
        obtain ⟨-, hat, -⟩ := recordCompletion_attempts hrecord
        split at hnew
        next hmust =>
          rw [completeStage, hrecord]
          simpa [hmust.1, transition, prepare_of_mustMove hmust.2 (hat ▸ hposition)] using hnew
        · cases hnew
      · cases hnew
    · exact mem_append_right _ (hI runId hold)

/-- **Acknowledged completions have moved the workflow**, if no preparation fails and the server
does not crash between the record of a verdict and the handover of its transition. -/
theorem moved_of_prepared (db : Db) (moves : List Move)
    (hprepared : Meets step Prepared { db } moves) : Always step Moved { db } moves := by
  have hinit : ∀ runId ∈ ({ db } : State).owed, runId ∈ ({ db } : State).handed := nofun
  exact always_of_meets (fun hI runId _ howed => hI runId howed) handed_step hinit hprepared

/-! ### A task -/

/-- A review that passes on to the next stage. -/
def reviewing : Db where
  closed := false
  position := some (.stage ⟨true, false, true⟩)
  runs := [⟨"review", .main, .running, none, none⟩]

/-- The review has passed. -/
def passed : Request := ⟨some "review", none, "success", "passed"⟩

theorem moved_of_prepared_passed :
    Meets step Prepared { db := reviewing } [.complete passed none .runs] ∧
      Always step Moved { db := reviewing } [.complete passed none .runs] := by
  have hprepared : Meets step Prepared { db := reviewing } [.complete passed none .runs] := by
    decide
  exact ⟨hprepared, moved_of_prepared reviewing _ hprepared⟩

/-- **A task is parked with its success acknowledged**: the preparation fails, and the retry is
answered as a replay. -/
theorem acknowledged_parked :
    ¬ ∀ (db : Db) (moves : List Move), Always step Moved { db } moves := by
  intro h
  have hrun : (run step { db := reviewing } [.complete passed none .fails,
      .complete passed none .runs]).map (fun s => (s.acknowledged, s.owed, s.handed)) =
      some (["review"], ["review"], []) := by decide
  obtain ⟨s, hs, hfields⟩ := map_eq_some_iff.mp hrun
  obtain ⟨hacknowledged, howed, hhanded⟩ := by simpa only [Prod.mk.injEq] using hfields
  have hmoved := (h reviewing _).last hs "review"
  rw [hacknowledged, howed, hhanded] at hmoved
  exact absurd (hmoved (by simp) (by simp)) not_mem_nil

/-- The next stage has started, with the review's verdict on record. -/
def advanced : Db :=
  { reviewing with
    runs := [⟨"review", .main, .succeeded, some "passed", none⟩,
      ⟨"pr", .main, .running, none, none⟩] }

theorem late_verdict_passed :
    resolveActionRun advanced (some "review") =
        .ok (some ⟨"pr", .main, .running, none, none⟩) ∧
      (completeStage advanced passed none .runs).Harmless advanced :=
  ⟨by decide, ((late_verdict advanced passed .runs).1 "review" _ rfl
    (show resolveActionRun advanced (some "review") = .ok (some ⟨"pr", .main, .running, none, none⟩)
      by decide) (by decide)).1⟩

/-- **On a closed task a late verdict that no run holds is acknowledged**, not refused. -/
theorem closed_acknowledged :
    ¬ ∀ (db : Db) (request : Request) (preparation : Preparation) (runId : String)
      (current : StageRun), request.runId = some runId →
      resolveActionRun db (some runId) = .ok (some current) → current.id ≠ runId →
      LateAnswer db request runId (completeStage db request none preparation).answer := by
  intro h
  have hanswer := h { advanced with closed := true } { passed with result := "passed again" } .runs
    "review" ⟨"pr", .main, .running, none, none⟩ rfl (by decide) (by decide)
  obtain ⟨refusal, hrefused⟩ := hanswer
  cases hrefused

end Kanna.StageCompletion
