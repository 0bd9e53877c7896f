import Kanna.Server.BlockedEvents
import Kanna.Server.BlockerCycles

/-!
# Creating a task with blockers

`create_task` leaves a task dormant if one of its blockers is open. The task is blocked if one of
them is unresolved: a blocker that is parked at `pr` with a pull request is open and resolved.
-/

namespace Kanna.BlockerGraph

open Blockers Db List

variable {ι : Type} [LinearOrder ι]

/-- `persist_task_blocker_rows`. -/
def persistTaskBlockerRows (db : Db ι) (taskId : ι) (resolvedBlockerIds : List ι) :
    Except DbError (Db ι) :=
  resolvedBlockerIds.foldlM (fun db blockerId => db.insertTaskBlocker taskId blockerId) db

/-- The new task, whose blockers are cleared if it is dormant. -/
def insertCleared (db : Db ι) (item : PipelineItem ι) (hnew : item.id ∉ db.ids) (dormant : Bool) :
    Db ι :=
  if dormant then (insertItem db item hnew).removeAllTaskBlockers item.id
  else insertItem db item hnew

/-- `create_task` while nothing else is written: the database with the task and its blockers, and
whether the task is left dormant. -/
def createTask (db : Db ι) (item : PipelineItem ι) (hnew : item.id ∉ db.ids)
    (blockerTaskIds : List ι) : Option (Db ι × Bool) := do
  let resolvedBlockerIds ← resolveTaskBlockerIds db blockerTaskIds []
  let dormant ← hasOpenBlockers db resolvedBlockerIds
  let stored ← (persistTaskBlockerRows (insertCleared db item hnew dormant) item.id
    resolvedBlockerIds).toOption
  pure (stored, dormant)

variable {db : Db ι} {ids : List ι} {id : ι}

theorem exists_row (h : id ∈ db.ids) : ∃ columns, db.row id = some columns := by
  obtain ⟨item, hitem, rfl⟩ := mem_map.mp h
  exact Option.isSome_iff_exists.mp (by simpa [row] using ⟨item, hitem, rfl⟩)

/-- The task is open. -/
def IsOpen (db : Db ι) (id : ι) : Prop :=
  ∃ columns, db.row id = some columns ∧ columns.closed = false

theorem isOpen_of_isUnresolved (h : db.isUnresolved id = true) : IsOpen db id := by
  rw [isUnresolved] at h
  split at h
  next => cases h
  next columns hrow => exact ⟨columns, hrow, by simp_all⟩

theorem exists_hasOpenBlockers (h : ∀ id ∈ ids, id ∈ db.ids) :
    ∃ dormant, hasOpenBlockers db ids = some dormant ∧
      (dormant = true ↔ ∃ id ∈ ids, IsOpen db id) := by
  induction ids with
  | nil => exact ⟨false, rfl, by simp⟩
  | cons id ids ih =>
    obtain ⟨hid, hids⟩ := forall_mem_cons.mp h
    obtain ⟨columns, hrow⟩ := exists_row hid
    have hopen : IsOpen db id ↔ columns.closed = false := by simp [IsOpen, hrow]
    simp only [hasOpenBlockers, hrow, Option.bind_eq_bind, Option.bind_some, exists_mem_cons_iff,
      hopen]
    cases columns.closed with
    | true => simpa using ih hids
    | false => exact ⟨true, rfl, by simp⟩

/-- The loop stores every row, and changes no answer about the blockers. -/
theorem exists_persistTaskBlockerRows {taskId : ι} (htask : taskId ∈ db.ids)
    (hids : ∀ id ∈ ids, id ∈ db.ids) :
    ∃ stored, persistTaskBlockerRows db taskId ids = .ok stored ∧
      (stored.Blocked taskId ↔ db.Blocked taskId ∨ ∃ id ∈ ids, db.isUnresolved id = true) := by
  induction ids generalizing db with
  | nil => exact ⟨db, rfl, by simp⟩
  | cons id ids ih =>
    obtain ⟨hid, hids⟩ := forall_mem_cons.mp hids
    have hsync := sameCore_sync (db.insertRow (taskId, id) ⟨htask, hid⟩) taskId
    have hkept := ids_syncBlockedEvent (db.insertRow (taskId, id) ⟨htask, hid⟩) taskId
    obtain ⟨stored, hok, hstored⟩ := ih (hkept ▸ htask) fun other hother => by
      rw [hkept]
      exact hids other hother
    refine ⟨stored, ?_, ?_⟩
    · rw [persistTaskBlockerRows, foldlM_cons, insertTaskBlocker, dif_pos ⟨htask, hid⟩]
      exact hok
    · rw [hstored, hsync.blocked, exists_mem_cons_iff, ← or_assoc]
      simp only [isUnresolved_eq_core, hsync.row, Blocked, mem_taskBlocker_insertRow, Prod.mk.injEq,
        true_and, or_and_right, exists_or, exists_eq_left]
      rfl

variable {item : PipelineItem ι} (hnew : item.id ∉ db.ids)

theorem ids_insertCleared (dormant : Bool) :
    (insertCleared db item hnew dormant).ids = db.ids ++ [item.id] := by
  rw [insertCleared]
  split
  · exact (ids_syncBlockedEvent _ _).trans map_append
  · exact map_append

/-- The new task has no rows that could be cleared. -/
theorem sameCore_insertCleared (dormant : Bool) :
    SameCore (insertItem db item hnew) (insertCleared db item hnew dormant) := by
  rw [insertCleared]
  split
  · have hdelete : SameCore (insertItem db item hnew)
        ((insertItem db item hnew).deleteRows item.id) :=
      ⟨filter_eq_self.mpr fun row hrow => decide_eq_true fun heq =>
        hnew (heq ▸ (db.foreignKeys row hrow).1), fun _ => rfl⟩
    exact hdelete.trans (sameCore_sync _ _)
  · exact .refl _

theorem row_insertItem (hid : id ∈ db.ids) : (insertItem db item hnew).row id = db.row id := by
  obtain ⟨columns, hrow⟩ := exists_row hid
  rw [row, insertItem, find?_append, Option.map_or]
  exact (congrArg (Option.or · _) hrow).trans hrow.symm

/-- **A new task is left dormant exactly if it is blocked**, if and only if one of its blockers is
unresolved or none is open. It is blocked exactly if one of them is unresolved. -/
theorem dormant_iff_blocked_iff {blockerTaskIds : List ι}
    (hids : resolveTaskBlockerIds db blockerTaskIds [] = some ids) :
    ∃ stored dormant, createTask db item hnew blockerTaskIds = some (stored, dormant) ∧
      (0 < stored.countOpenTaskBlockers item.id ↔ ∃ id ∈ ids, db.isUnresolved id = true) ∧
      ((dormant = true ↔ 0 < stored.countOpenTaskBlockers item.id) ↔
        (∃ id ∈ ids, db.isUnresolved id = true) ∨ ¬ ∃ id ∈ ids, IsOpen db id) := by
  have hmem := mem_ids_of_resolveTaskBlockerIds (forall_mem_nil _) hids
  obtain ⟨dormant, hdormant, hopen⟩ := exists_hasOpenBlockers hmem
  have hcore := sameCore_insertCleared hnew dormant
  have hall := ids_insertCleared hnew dormant
  obtain ⟨stored, hstored, hblocked⟩ := exists_persistTaskBlockerRows
    (by simp [hall] : item.id ∈ (insertCleared db item hnew dormant).ids) fun id hid => by
      rw [hall]
      exact mem_append_left _ (hmem id hid)
  have hnone : ¬ (insertItem db item hnew).Blocked item.id := by
    rintro ⟨_, hrow, -⟩
    exact hnew (db.foreignKeys _ hrow).1
  have hcount : 0 < stored.countOpenTaskBlockers item.id ↔
      ∃ id ∈ ids, db.isUnresolved id = true := by
    rw [Db.count_pos_iff, hblocked, hcore.blocked, or_iff_right hnone]
    refine exists_congr fun id => and_congr_right fun hid => ?_
    rw [isUnresolved_eq_core, hcore.row, row_insertItem hnew (hmem id hid), ← isUnresolved_eq_core]
  have himp : (∃ id ∈ ids, db.isUnresolved id = true) → ∃ id ∈ ids, IsOpen db id := by
    rintro ⟨id, hid, hunresolved⟩
    exact ⟨id, hid, isOpen_of_isUnresolved hunresolved⟩
  refine ⟨stored, dormant, by simp [createTask, hids, hdormant, hstored, Except.toOption],
    hcount, ?_⟩
  rw [hcount, hopen]
  refine ⟨fun h => or_iff_not_imp_left.mpr fun hresolved => mt h.mp hresolved, ?_⟩
  rintro (hunresolved | hclosed)
  · exact iff_of_true (himp hunresolved) hunresolved
  · exact iff_of_false hclosed (mt himp hclosed)

theorem dormant_iff_blocked_oneTask :
    resolveTaskBlockerIds oneTask [0] [] = some [0] ∧
      ∃ stored dormant, createTask oneTask (openTask 1) (by decide) [0] = some (stored, dormant) ∧
        0 < stored.countOpenTaskBlockers 1 := by
  obtain ⟨stored, dormant, hcreate, hcount, -⟩ :=
    @dormant_iff_blocked_iff _ _ oneTask [0] (openTask 1) (by decide) [0] rfl
  exact ⟨rfl, stored, dormant, hcreate, hcount.mpr ⟨0, by decide⟩⟩

/-- Task 0, which waits at `pr` with a pull request. -/
def parkedTask : Db ℕ := oneTask.update 0 fun columns =>
  { columns with stage := "pr", prUrl := some "url" }

/-- A task whose blocker is parked is left dormant, and nothing blocks it. -/
theorem parked_blocker_leaves_dormant :
    (createTask parkedTask (openTask 1) (by decide) [0]).map
      (fun result => (result.1.countOpenTaskBlockers 1, result.2)) = some (0, true) := by
  decide

end Kanna.BlockerGraph
