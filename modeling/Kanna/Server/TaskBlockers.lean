import Mathlib.Data.List.Sort
import Kanna.Lib.Digraph
import Kanna.Lib.Run

/-!
# Tasks that wait for other tasks

The tables `pipeline_item`, `task_blocker` and `task_event` of the server's database, and the
writers of `db/blockers.rs` and `db/pipeline_items.rs` that decide whether a task is blocked.

Blocked is not stored: a task is blocked while one of its `task_blocker` rows names a task
that is open and not parked at `pr` with a pull request. `blocked_event_baseline` remembers
what was last announced, and `sync_blocked_event` announces a change of the predicate. The
writers call it by hand.

Task ids and branch names are compared and sorted and nothing else, so they are any linear
order. The tables are kept together with their primary and foreign keys, so that a `Db` which
breaks them cannot be built. Columns and tables that no function below reads are left out.
-/

namespace Kanna.Blockers

/-! ### The tables -/

/-- `StageTrigger`. -/
inductive StageTrigger where
  | auto
  | operator
  | manager
  | unspecified

/-- The columns of a `pipeline_item` row other than its id. -/
structure Columns (ι : Type) where
  branch : Option ι
  stage : String
  prNumber : Option Int
  prUrl : Option String
  /-- `closed_at IS NOT NULL` -/
  closed : Bool
  /-- 1 if the last event said that the task is blocked -/
  blockedEventBaseline : Int

namespace Columns

variable {ι : Type}

/-- Close or reopen a task. -/
def setClosed (closed : Bool) (columns : Columns ι) : Columns ι :=
  { columns with closed := closed }

/-- Move a task to a stage, and to a branch if one is given. -/
def setStage (stage : String) (branch : Option ι) (columns : Columns ι) : Columns ι :=
  { columns with stage := stage, branch := branch <|> columns.branch }

/-- Record the pull request. -/
def setPr (prNumber : Option Int) (prUrl : String) (columns : Columns ι) : Columns ι :=
  { columns with prNumber := prNumber, prUrl := some prUrl }

/-- Record what was last announced. -/
def setBaseline (blockedEventBaseline : Int) (columns : Columns ι) : Columns ι :=
  { columns with blockedEventBaseline := blockedEventBaseline }

end Columns

/-- A `pipeline_item` row. -/
structure PipelineItem (ι : Type) : Type extends Columns ι where
  id : ι

/-- The payloads of the events that the writers append. -/
inductive EventKind (ι : Type) where
  | taskBlocked (blockerTaskIds : List ι)
  | taskUnblocked (blockerTaskIds : List ι)
  | taskClosed (stage : Option String)
  | stageChanged (fromStage : Option String) (toStage : String) (branch : Option ι)
      (trigger : StageTrigger)
  | prCreated (prNumber : Option Int) (prUrl : String)

/-- A `task_event` row. -/
structure TaskEvent (ι : Type) where
  taskId : ι
  kind : EventKind ι

/-- The three tables with their keys. -/
structure Db (ι : Type) where
  items : List (PipelineItem ι)
  /-- the rows `(blocked_item_id, blocker_item_id)` -/
  taskBlocker : List (ι × ι)
  events : List (TaskEvent ι)
  primaryKey : (items.map PipelineItem.id).Nodup
  foreignKeys : ∀ row ∈ taskBlocker,
    row.1 ∈ items.map PipelineItem.id ∧ row.2 ∈ items.map PipelineItem.id

/-- The errors of SQLite that the writers return. -/
inductive DbError where
  | queryReturnedNoRows
  | foreignKeyConstraint

/-- `ReopenPipelineItemError`. -/
inductive ReopenPipelineItemError where
  | ownershipConflict
  | database (error : DbError)

/-- `ReplaceTaskBlockersError`. -/
inductive ReplaceTaskBlockersError (ι : Type) where
  | database (error : DbError)
  | taskNotFound (taskId : ι)
  | blockerNotFound (taskId : ι)
  | selfDependency
  | circularDependency

open List

namespace Db

variable {ι : Type}

variable (db : Db ι)

/-- The ids of the tasks. -/
def ids : List ι := db.items.map PipelineItem.id

section Rows

variable [DecidableEq ι]

variable (db : Db ι)

/-- The row of a task. -/
def row (id : ι) : Option (Columns ι) :=
  (db.items.find? fun item => item.id = id).map PipelineItem.toColumns

/-- `UPDATE pipeline_item SET .. WHERE id = ?`. -/
def setColumns (id : ι) (set : Columns ι → Columns ι) (item : PipelineItem ι) : PipelineItem ι :=
  if item.id = id then { item with toColumns := set item.toColumns } else item

theorem id_setColumns (id : ι) (set : Columns ι → Columns ι) (items : List (PipelineItem ι)) :
    (items.map (setColumns id set)).map PipelineItem.id = items.map PipelineItem.id := by
  rw [map_map]
  refine map_congr_left fun item _ => ?_
  rw [Function.comp_apply, setColumns]
  split <;> rfl

/-- Update the row of a task. -/
def update (id : ι) (set : Columns ι → Columns ι) : Db ι where
  items := db.items.map (setColumns id set)
  taskBlocker := db.taskBlocker
  events := db.events
  primaryKey := by rw [id_setColumns]; exact db.primaryKey
  foreignKeys := by rw [id_setColumns]; exact db.foreignKeys

/-- `append_task_event`. -/
def appendTaskEvent (taskId : ι) (kind : EventKind ι) : Db ι :=
  { db with events := db.events ++ [⟨taskId, kind⟩] }

/-- `INSERT OR IGNORE INTO task_blocker`. -/
def insertRow (row : ι × ι) (hkeys : row.1 ∈ db.ids ∧ row.2 ∈ db.ids) : Db ι :=
  { db with
    taskBlocker := if row ∈ db.taskBlocker then db.taskBlocker else db.taskBlocker ++ [row]
    foreignKeys := by
      intro other hother
      split at hother
      · exact db.foreignKeys other hother
      · rcases List.mem_append.mp hother with hold | hnew
        · exact db.foreignKeys other hold
        · exact List.mem_singleton.mp hnew ▸ hkeys }

/-- `DELETE FROM task_blocker WHERE blocked_item_id = ?`. -/
def deleteRows (blockedItemId : ι) : Db ι :=
  { db with
    taskBlocker := db.taskBlocker.filter fun row => row.1 ≠ blockedItemId
    foreignKeys := fun row hrow => db.foreignKeys row (List.mem_of_mem_filter hrow) }

/-- Deletes the rows of a task and inserts the given ones, which name distinct blockers. -/
def replaceRows (taskId : ι) (blockerIds : List ι)
    (hkeys : taskId ∈ db.ids ∧ ∀ blockerId ∈ blockerIds, blockerId ∈ db.ids) : Db ι :=
  { db with
    taskBlocker := (db.taskBlocker.filter fun row => row.1 ≠ taskId) ++
      blockerIds.map fun blockerId => (taskId, blockerId)
    foreignKeys := by
      intro row hrow
      rcases List.mem_append.mp hrow with hold | hnew
      · exact db.foreignKeys row (List.mem_of_mem_filter hold)
      · obtain ⟨blockerId, hblocker, rfl⟩ := List.mem_map.mp hnew
        exact ⟨hkeys.1, hkeys.2 blockerId hblocker⟩ }

/-- `resolve_pipeline_item_id`: by id, else by branch. -/
def resolvePipelineItemId (taskOrBranchId : ι) : Option ι :=
  if taskOrBranchId ∈ db.ids then some taskOrBranchId
  else (db.items.find? fun item => item.branch = some taskOrBranchId).map PipelineItem.id

/-- `pipeline_item_stage`. -/
def pipelineItemStage (id : ι) : Option String := (db.row id).map Columns.stage

/-- The blocker is open, and not parked at `pr` with a pull request. -/
def isUnresolved (blockerItemId : ι) : Bool :=
  match db.row blockerItemId with
  | none => false
  | some columns => !columns.closed && !(columns.stage = "pr" && columns.prUrl.isSome)

/-- `count_open_task_blockers`. -/
def countOpenTaskBlockers (blockedItemId : ι) : ℕ :=
  (db.taskBlocker.filter fun row => row.1 = blockedItemId ∧ db.isUnresolved row.2).length

end Rows

variable [LinearOrder ι]

/-- `list_task_blocker_ids`. -/
def listTaskBlockerIds (blockedItemId : ι) : List ι :=
  ((db.taskBlocker.filter fun row => row.1 = blockedItemId).map Prod.snd).insertionSort (· ≤ ·)

/-- `list_open_task_blocker_ids`. -/
def listOpenTaskBlockerIds (blockedItemId : ι) : List ι :=
  (db.listTaskBlockerIds blockedItemId).filter db.isUnresolved

/-- `list_tasks_blocked_by`. -/
def listTasksBlockedBy (blockerItemId : ι) : List ι :=
  ((db.taskBlocker.filter fun row => row.2 = blockerItemId).map Prod.fst).insertionSort (· ≤ ·)

/-! ### Announcing the blocked state -/

/-- `sync_blocked_event`. -/
def syncBlockedEvent (db : Db ι) (taskId : ι) : Db ι :=
  match db.row taskId with
  | none => db
  | some columns =>
    if columns.closed then db
    else
      let blockerTaskIds := db.listOpenTaskBlockerIds taskId
      let blocked : Int := if blockerTaskIds = [] then 0 else 1
      if columns.blockedEventBaseline = blocked then db
      else
        (db.update taskId (Columns.setBaseline blocked)).appendTaskEvent taskId
          (if blockerTaskIds = [] then .taskUnblocked blockerTaskIds
            else .taskBlocked blockerTaskIds)

/-- `sync_blocked_events_for_dependents`. -/
def syncBlockedEventsForDependents (blockerItemId : ι) : Db ι :=
  (db.listTasksBlockedBy blockerItemId).foldl syncBlockedEvent db

/-! ### The writers -/

/-- `insert_task_blocker`. -/
def insertTaskBlocker (blockedItemId blockerItemId : ι) : Except DbError (Db ι) :=
  if hkeys : blockedItemId ∈ db.ids ∧ blockerItemId ∈ db.ids then
    .ok ((db.insertRow (blockedItemId, blockerItemId) hkeys).syncBlockedEvent blockedItemId)
  else .error .foreignKeyConstraint

/-- `remove_all_task_blockers`. -/
def removeAllTaskBlockers (blockedItemId : ι) : Db ι :=
  (db.deleteRows blockedItemId).syncBlockedEvent blockedItemId

/-- The blockers of a replacement, resolved and without repetitions. -/
def resolveBlockerIds (db : Db ι) (taskId : ι) :
    List ι → List ι → Except (ReplaceTaskBlockersError ι) (List ι)
  | [], resolved => .ok resolved
  | blockerTaskId :: rest, resolved => do
    let blockerId ← okOr (db.resolvePipelineItemId blockerTaskId) (.blockerNotFound blockerTaskId)
    if blockerId = taskId then .error .selfDependency
    else
      resolveBlockerIds db taskId rest
        (if blockerId ∈ resolved then resolved else resolved ++ [blockerId])

/-- `dependency_has_path_to`. The recursion is never deeper than there are tasks. -/
def dependencyHasPathTo (fromBlockedItemId targetItemId : ι) : Bool :=
  Digraph.hasPath db.listTaskBlockerIds (db.ids.length + 1) fromBlockedItemId targetItemId

/-- `replace_task_blockers_atomically`, with the resolved id of the task. -/
def replaceTaskBlockersAtomically (taskOrBranchId : ι) (blockerTaskIds : List ι) :
    Except (ReplaceTaskBlockersError ι) (Db ι × ι) := do
  let taskId ← okOr (db.resolvePipelineItemId taskOrBranchId) (.taskNotFound taskOrBranchId)
  let resolvedBlockerIds ← db.resolveBlockerIds taskId blockerTaskIds []
  if resolvedBlockerIds.any fun blockerId => db.dependencyHasPathTo blockerId taskId then
    .error .circularDependency
  else if hkeys : taskId ∈ db.ids ∧ ∀ blockerId ∈ resolvedBlockerIds, blockerId ∈ db.ids then
    .ok ((db.replaceRows taskId resolvedBlockerIds hkeys).syncBlockedEvent taskId, taskId)
  else .error (.database .foreignKeyConstraint)

/-- `close_pipeline_item`. -/
def closePipelineItem (taskOrBranchId : ι) : Except DbError (Db ι) := do
  let id ← okOr (db.resolvePipelineItemId taskOrBranchId) .queryReturnedNoRows
  let closed := db.update id (Columns.setClosed true)
  return (closed.appendTaskEvent id
    (.taskClosed (closed.pipelineItemStage id))).syncBlockedEventsForDependents id

/-- `reopen_pipeline_item`. The row may be refused because its cloud task has another open
row. -/
def reopenPipelineItem (taskOrBranchId : ι) (conflict : Bool) :
    Except ReopenPipelineItemError (Db ι) := do
  let id ← okOr (db.resolvePipelineItemId taskOrBranchId) (.database .queryReturnedNoRows)
  if conflict then .error .ownershipConflict
  else .ok ((db.update id (Columns.setClosed false)).syncBlockedEventsForDependents id)

/-- `append_stage_changed_event`. -/
def appendStageChangedEvent (id : ι) (fromStage : Option String) (toStage : String)
    (branch : Option ι) (trigger : StageTrigger) : Db ι :=
  if fromStage = some toStage then db
  else db.appendTaskEvent id (.stageChanged fromStage toStage branch trigger)

/-- The writers of the stage: the row is open or nothing is written. -/
def updateStage (id : ι) (stage : String) (branch : Option ι)
    (trigger : StageTrigger) : Except DbError (Db ι) := do
  let columns ← okOr (db.row id) .queryReturnedNoRows
  if columns.closed then .error .queryReturnedNoRows
  else
    .ok (((db.update id (Columns.setStage stage branch)).appendStageChangedEvent id
      (some columns.stage) stage branch trigger).syncBlockedEventsForDependents id)

/-- `update_pipeline_item_stage_with_trigger`. -/
def updatePipelineItemStageWithTrigger (id : ι) (stage : String)
    (trigger : StageTrigger) : Except DbError (Db ι) :=
  db.updateStage id stage none trigger

/-- `update_pipeline_item_stage_and_branch_with_trigger`. -/
def updatePipelineItemStageAndBranchWithTrigger (id : ι) (stage : String)
    (branch : ι) (trigger : StageTrigger) : Except DbError (Db ι) :=
  db.updateStage id stage (some branch) trigger

/-- `update_pipeline_item_pr`. The dependents are looked at even if no row was written. -/
def updatePipelineItemPr (id : ι) (prNumber : Option Int) (prUrl : String) : Db ι :=
  match db.row id with
  | none => db.syncBlockedEventsForDependents id
  | some columns =>
    if columns.closed then db.syncBlockedEventsForDependents id
    else
      let recorded := db.update id (Columns.setPr prNumber prUrl)
      let announced := if columns.prUrl = some prUrl then recorded
        else recorded.appendTaskEvent id (.prCreated prNumber prUrl)
      announced.syncBlockedEventsForDependents id

end Db

/-! ### Reading what was written -/

namespace Db

variable {ι : Type} {blockedItemId : ι}

section Rows

variable [DecidableEq ι] (db : Db ι) (id taskId : ι) (set : Columns ι → Columns ι)
  (kind : EventKind ι)

@[simp] theorem ids_update : (db.update id set).ids = db.ids := id_setColumns id set db.items

/-- An update writes the row of its task. -/
theorem row_update (other : ι) :
    (db.update id set).row other = if other = id then (db.row other).map set else db.row other := by
  have hitems : ∀ items : List (PipelineItem ι),
      ((items.map (setColumns id set)).find? fun item => item.id = other).map
          PipelineItem.toColumns =
        if other = id then
          ((items.find? fun item => item.id = other).map PipelineItem.toColumns).map set
        else (items.find? fun item => item.id = other).map PipelineItem.toColumns := by
    intro items
    induction items with
    | nil => simp
    | cons item items ih =>
      have hid : (setColumns id set item).id = item.id := by
        rw [setColumns]
        split <;> rfl
      by_cases hother : item.id = other
      · subst hother
        by_cases heq : item.id = id <;> simp [setColumns, heq]
      · rw [map_cons, find?_cons_of_neg (by simp [hid, hother]), ih,
          find?_cons_of_neg (by simp [hother])]
  exact hitems db.items

@[simp] theorem row_appendTaskEvent : (db.appendTaskEvent taskId kind).row id = db.row id := rfl

omit [DecidableEq ι] in
@[simp] theorem ids_appendTaskEvent : (db.appendTaskEvent taskId kind).ids = db.ids := rfl

variable {db} {other : ι × ι}

theorem mem_taskBlocker_insertRow {row : ι × ι} {hkeys : row.1 ∈ db.ids ∧ row.2 ∈ db.ids} :
    other ∈ (db.insertRow row hkeys).taskBlocker ↔ other ∈ db.taskBlocker ∨ other = row := by
  rw [insertRow]
  split
  next hmem =>
    refine ⟨.inl, ?_⟩
    rintro (hold | rfl)
    · exact hold
    · exact hmem
  next => rw [mem_append, mem_singleton]

theorem mem_taskBlocker_deleteRows : other ∈ (db.deleteRows blockedItemId).taskBlocker ↔
      other ∈ db.taskBlocker ∧ other.1 ≠ blockedItemId := by
  rw [deleteRows, mem_filter, decide_eq_true_iff]

theorem mem_taskBlocker_replaceRows {taskId : ι} {blockerIds : List ι}
    {hkeys : taskId ∈ db.ids ∧ ∀ blockerId ∈ blockerIds, blockerId ∈ db.ids} :
    other ∈ (db.replaceRows taskId blockerIds hkeys).taskBlocker ↔
      other ∈ db.taskBlocker ∧ other.1 ≠ taskId ∨ other.1 = taskId ∧ other.2 ∈ blockerIds := by
  rw [replaceRows, mem_append, mem_filter, decide_eq_true_iff, mem_map]
  refine or_congr_right ⟨?_, ?_⟩
  · rintro ⟨blockerId, hblocker, rfl⟩
    exact ⟨rfl, hblocker⟩
  · rintro ⟨rfl, hblocker⟩
    exact ⟨other.2, hblocker, rfl⟩

/-- A task that resolves has a row. -/
theorem mem_ids_of_resolve {taskOrBranchId id : ι}
    (h : db.resolvePipelineItemId taskOrBranchId = some id) : id ∈ db.ids := by
  rw [resolvePipelineItemId] at h
  split at h
  next hmem =>
    cases h
    exact hmem
  next =>
    obtain ⟨item, hitem, rfl⟩ := Option.map_eq_some_iff.mp h
    exact mem_map_of_mem (mem_of_find?_eq_some hitem)

end Rows

section Lists

variable [LinearOrder ι] {db : Db ι}

theorem mem_listTaskBlockerIds {blockerItemId : ι} :
    blockerItemId ∈ db.listTaskBlockerIds blockedItemId ↔
      (blockedItemId, blockerItemId) ∈ db.taskBlocker := by
  rw [listTaskBlockerIds, mem_insertionSort, mem_map]
  constructor
  · rintro ⟨⟨blocked, blocker⟩, hrow, rfl⟩
    obtain ⟨hmem, hblocked⟩ := mem_filter.mp hrow
    exact of_decide_eq_true hblocked ▸ hmem
  · exact fun hmem => ⟨_, mem_filter.mpr ⟨hmem, decide_eq_true rfl⟩, rfl⟩

theorem mem_listTasksBlockedBy {blockerItemId : ι} :
    blockedItemId ∈ db.listTasksBlockedBy blockerItemId ↔
      (blockedItemId, blockerItemId) ∈ db.taskBlocker := by
  rw [listTasksBlockedBy, mem_insertionSort, mem_map]
  constructor
  · rintro ⟨⟨blocked, blocker⟩, hrow, rfl⟩
    obtain ⟨hmem, hblocker⟩ := mem_filter.mp hrow
    exact of_decide_eq_true hblocker ▸ hmem
  · exact fun hmem => ⟨_, mem_filter.mpr ⟨hmem, decide_eq_true rfl⟩, rfl⟩

end Lists

section Writers

variable [LinearOrder ι] {db db' : Db ι}

@[simp] theorem ids_syncBlockedEvent (db : Db ι) (taskId : ι) :
    (db.syncBlockedEvent taskId).ids = db.ids := by
  simp only [syncBlockedEvent]
  repeat' split
  all_goals simp

@[simp] theorem taskBlocker_syncBlockedEvent (db : Db ι) (taskId : ι) :
    (db.syncBlockedEvent taskId).taskBlocker = db.taskBlocker := by
  simp only [syncBlockedEvent]
  repeat' split
  all_goals rfl

/-- Inversion for a replacement that is committed. -/
theorem replaceTaskBlockersAtomically_eq_ok {taskOrBranchId : ι} {blockerTaskIds : List ι}
    (hok : (db.replaceTaskBlockersAtomically taskOrBranchId blockerTaskIds).map Prod.fst =
      .ok db') :
    ∃ taskId blockerIds hkeys, db.resolvePipelineItemId taskOrBranchId = some taskId ∧
      db.resolveBlockerIds taskId blockerTaskIds [] = .ok blockerIds ∧
      (∀ blockerId ∈ blockerIds, db.dependencyHasPathTo blockerId taskId = false) ∧
      db' = (db.replaceRows taskId blockerIds hkeys).syncBlockedEvent taskId := by
  obtain ⟨_, hreplaced, rfl⟩ := of_map hok
  obtain ⟨taskId, htask, hok⟩ := of_okOr hreplaced
  obtain ⟨blockerIds, hblockers, hok⟩ := of_bind hok
  obtain ⟨hchecked, hok⟩ := of_throw hok
  split at hok
  next hkeys =>
    cases hok
    refine ⟨taskId, blockerIds, hkeys, htask, hblockers, fun blockerId hmem => ?_, rfl⟩
    exact Bool.eq_false_iff.mpr fun hpath => hchecked (any_eq_true.mpr ⟨_, hmem, hpath⟩)
  next => cases hok

end Writers

end Db

/-- The database after a write, which leaves nothing behind when it fails. -/
def committed {ι ε : Type} (db : Db ι) : Except ε (Db ι) → Db ι
  | .ok db' => db'
  | .error _ => db

theorem committed_of {ι ε : Type} {P : Db ι → Prop} {db : Db ι} {result : Except ε (Db ι)}
    (h : P db) (hok : ∀ {db'}, result = .ok db' → P db') : P (committed db result) := by
  cases result with
  | ok db' => exact hok rfl
  | error => exact h

end Kanna.Blockers
