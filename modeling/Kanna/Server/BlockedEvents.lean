import Kanna.Server.TaskBlockers

/-!
# The announced blocked state

Every write that can change whether a task is blocked is followed by a sync of the tasks it can
concern: the task whose rows were written, or the dependents of the task whose resolution was
written. A sync of one task changes no other task and no answer of the predicate, so the
others stay as they were.

Closed tasks are skipped by the sync, and `reopen_pipeline_item` syncs the dependents of the
reopened task but not the task itself. What changed while it was closed is not announced.
-/

namespace Kanna.Blockers

variable {ι : Type}

/-- A row without its baseline. -/
def Columns.core (columns : Columns ι) : Columns ι := { columns with blockedEventBaseline := 0 }

/-- Whether an event announces that its task is blocked, or that it no longer is. -/
def EventKind.edge : EventKind ι → Option Bool
  | .taskBlocked _ => some true
  | .taskUnblocked _ => some false
  | _ => none

/-- The list alternates, and starts with the given value. -/
def Alternating : Bool → List Bool → Prop
  | _, [] => True
  | expected, edge :: edges => edge = expected ∧ Alternating (!expected) edges

/-- The value that would continue an alternating list. -/
def expectedAfter : Bool → List Bool → Bool
  | expected, [] => expected
  | expected, _ :: edges => expectedAfter (!expected) edges

theorem alternating_append {expected : Bool} {edges : List Bool} (h : Alternating expected edges) :
    Alternating expected (edges ++ [expectedAfter expected edges]) := by
  induction edges generalizing expected with
  | nil => exact ⟨rfl, trivial⟩
  | cons edge edges ih => exact ⟨h.1, ih h.2⟩

theorem expectedAfter_append (expected edge : Bool) (edges : List Bool) :
    expectedAfter expected (edges ++ [edge]) = !expectedAfter expected edges := by
  induction edges generalizing expected with
  | nil => rfl
  | cons _ edges ih => exact ih (!expected)

open List

namespace Db

/-! ### The predicate -/

open Columns

section Predicate

variable [DecidableEq ι] {db db' : Db ι} {id written : ι}

/-- A task with an unresolved blocker. -/
def Blocked (db : Db ι) (id : ι) : Prop :=
  ∃ blockerId, (id, blockerId) ∈ db.taskBlocker ∧ db.isUnresolved blockerId = true

theorem count_pos_iff : 0 < db.countOpenTaskBlockers id ↔ db.Blocked id := by
  rw [countOpenTaskBlockers, length_pos_iff_exists_mem]
  constructor
  · rintro ⟨⟨blocked, blockerId⟩, hrow⟩
    obtain ⟨hmem, hopen⟩ := mem_filter.mp hrow
    obtain ⟨rfl, hunresolved⟩ := of_decide_eq_true hopen
    exact ⟨blockerId, hmem, hunresolved⟩
  · rintro ⟨blockerId, hmem, hunresolved⟩
    exact ⟨_, mem_filter.mpr ⟨hmem, decide_eq_true ⟨rfl, hunresolved⟩⟩⟩

/-- The task is closed, or its baseline says whether it is blocked. -/
def Synced (db : Db ι) (id : ι) : Prop :=
  ∀ columns, db.row id = some columns → columns.closed = false →
    (columns.blockedEventBaseline = 1 ↔ 0 < db.countOpenTaskBlockers id)

/-- Every open task's baseline is right. -/
def AllSynced (db : Db ι) : Prop := ∀ id, db.Synced id

theorem Synced.of_row (h : db.Synced id) (hrow : db'.row id = db.row id)
    (hblocked : db'.Blocked id ↔ db.Blocked id) : db'.Synced id := by
  intro columns hcolumns hopen
  rw [count_pos_iff, hblocked, ← count_pos_iff]
  exact h columns (hrow ▸ hcolumns) hopen

/-- The answers do not depend on a row that none of the blockers of the task has. -/
theorem blocked_of_rows (htable : db'.taskBlocker = db.taskBlocker)
    (hrows : ∀ other, other ≠ written → db'.row other = db.row other)
    (hnot : (id, written) ∉ db.taskBlocker) : db'.Blocked id ↔ db.Blocked id := by
  have hsame : ∀ blockerId, (id, blockerId) ∈ db.taskBlocker →
      db'.isUnresolved blockerId = db.isUnresolved blockerId := by
    intro blockerId hmem
    have hne : blockerId ≠ written := by
      rintro rfl
      exact hnot hmem
    rw [isUnresolved, isUnresolved, hrows blockerId hne]
  constructor
  · rintro ⟨blockerId, hmem, hunresolved⟩
    rw [htable] at hmem
    exact ⟨blockerId, hmem, hsame blockerId hmem ▸ hunresolved⟩
  · rintro ⟨blockerId, hmem, hunresolved⟩
    exact ⟨blockerId, htable ▸ hmem, (hsame blockerId hmem).trans hunresolved⟩

/-- Two databases that differ at most in baselines and events. -/
structure SameCore (db db' : Db ι) : Prop where
  taskBlocker : db'.taskBlocker = db.taskBlocker
  row : ∀ id, (db'.row id).map Columns.core = (db.row id).map Columns.core

theorem SameCore.refl (db : Db ι) : SameCore db db := ⟨rfl, fun _ => rfl⟩

theorem SameCore.trans {db'' : Db ι} (h : SameCore db db') (h' : SameCore db' db'') :
    SameCore db db'' :=
  ⟨h'.taskBlocker.trans h.taskBlocker, fun id => (h'.row id).trans (h.row id)⟩

theorem isUnresolved_eq_core (db : Db ι) (blockerItemId : ι) :
    db.isUnresolved blockerItemId = (match (db.row blockerItemId).map core with
        | none => false
        | some columns => !columns.closed && !(columns.stage = "pr" && columns.prUrl.isSome)) := by
  rw [isUnresolved]
  cases db.row blockerItemId <;> rfl

theorem SameCore.blocked (h : SameCore db db') : db'.Blocked id ↔ db.Blocked id := by
  simp [Blocked, h.taskBlocker, isUnresolved_eq_core, h.row]

end Predicate

/-! ### One sync -/

section Sync

variable [LinearOrder ι] {db db' : Db ι} {id other : ι}

theorem listOpenTaskBlockerIds_ne_nil_iff : db.listOpenTaskBlockerIds id ≠ [] ↔ db.Blocked id := by
  rw [← length_pos_iff, length_pos_iff_exists_mem]
  simp [listOpenTaskBlockerIds, mem_listTaskBlockerIds, Blocked]

/-- What a sync can do: nothing, where the baseline is right or the task is not open, or else
announce the state the baseline differs from. -/
theorem syncBlockedEvent_cases (db : Db ι) (id : ι) :
    (db.syncBlockedEvent id = db ∧ db.Synced id) ∨
      ∃ columns kind baseline, db.row id = some columns ∧ columns.closed = false ∧
        columns.blockedEventBaseline ≠ baseline ∧
        db.syncBlockedEvent id = (db.update id (setBaseline baseline)).appendTaskEvent id kind ∧
        (baseline = 1 ∧ kind.edge = some true ∧ db.Blocked id ∨
          baseline = 0 ∧ kind.edge = some false ∧ ¬ db.Blocked id) := by
  have hrow' : ∀ columns columns', db.row id = some columns → db.row id = some columns' →
      columns' = columns :=
    fun _ _ hrow hcolumns => Option.some.inj (hcolumns.symm.trans hrow)
  rw [syncBlockedEvent]
  split
  next hrow =>
    refine .inl ⟨rfl, fun columns hcolumns => ?_⟩
    rw [hrow] at hcolumns
    cases hcolumns
  next columns hrow =>
  split
  next hclosed =>
    refine .inl ⟨rfl, fun columns' hcolumns hopen => ?_⟩
    rw [hrow' columns columns' hrow hcolumns, hclosed] at hopen
    cases hopen
  next hclosed =>
  dsimp only
  by_cases hbaseline : columns.blockedEventBaseline =
      if db.listOpenTaskBlockerIds id = [] then 0 else 1
  · rw [if_pos hbaseline]
    refine .inl ⟨rfl, fun columns' hcolumns _ => ?_⟩
    rw [hrow' columns columns' hrow hcolumns, hbaseline, count_pos_iff,
      ← listOpenTaskBlockerIds_ne_nil_iff]
    split_ifs with hlist <;> simp [hlist]
  · rw [if_neg hbaseline]
    refine .inr ⟨columns, _, _, hrow, Bool.eq_false_iff.mpr hclosed, hbaseline, rfl, ?_⟩
    rw [← listOpenTaskBlockerIds_ne_nil_iff]
    split_ifs with hlist
    · exact .inr ⟨rfl, rfl, not_not.mpr hlist⟩
    · exact .inl ⟨rfl, rfl, hlist⟩

theorem sameCore_sync (db : Db ι) (id : ι) : SameCore db (db.syncBlockedEvent id) := by
  rcases syncBlockedEvent_cases db id with ⟨heq, -⟩ | ⟨_, kind, baseline, -, -, -, heq, -⟩
  · rw [heq]
    exact .refl db
  · rw [heq]
    refine ⟨rfl, fun other => ?_⟩
    rw [row_appendTaskEvent, row_update]
    split
    · rw [Option.map_map]
      rfl
    · rfl

theorem row_sync_of_ne (hne : other ≠ id) : (db.syncBlockedEvent id).row other = db.row other := by
  rcases syncBlockedEvent_cases db id with ⟨heq, -⟩ | ⟨_, kind, baseline, -, -, -, heq, -⟩
  · rw [heq]
  · rw [heq, row_appendTaskEvent, row_update, if_neg hne]

/-- A sync makes the baseline of its task right. -/
theorem synced_sync_self (db : Db ι) (id : ι) : (db.syncBlockedEvent id).Synced id := by
  have hblocked : (db.syncBlockedEvent id).Blocked id ↔ db.Blocked id :=
    (sameCore_sync db id).blocked
  rcases syncBlockedEvent_cases db id with
    ⟨heq, hsynced⟩ | ⟨columns, kind, baseline, hrow, -, -, heq, hedge⟩
  · rw [heq]
    exact hsynced
  · intro columns' hcolumns' _
    rw [count_pos_iff, hblocked]
    rw [heq, row_appendTaskEvent, row_update, if_pos rfl, hrow] at hcolumns'
    cases hcolumns'
    rcases hedge with ⟨rfl, -, hyes⟩ | ⟨rfl, -, hno⟩
    · exact iff_of_true rfl hyes
    · exact iff_of_false Int.zero_ne_one hno

theorem Synced.sync (h : db.Synced other) (id : ι) : (db.syncBlockedEvent id).Synced other := by
  by_cases heq : other = id
  · exact heq ▸ synced_sync_self db id
  · exact h.of_row (row_sync_of_ne heq) (sameCore_sync db id).blocked

theorem synced_foldl {tasks : List ι} (h : other ∈ tasks ∨ db.Synced other) :
    (tasks.foldl syncBlockedEvent db).Synced other := by
  induction tasks generalizing db with
  | nil =>
    rcases h with hmem | hsynced
    · cases hmem
    · exact hsynced
  | cons task tasks ih =>
    refine ih ?_
    rcases h with hmem | hsynced
    · rcases mem_cons.mp hmem with rfl | hmem
      · exact .inr (synced_sync_self db other)
      · exact .inl hmem
    · exact .inr (hsynced.sync task)

/-- The database after `UPDATE pipeline_item` of one row, whatever events were appended. -/
structure Writes (db : Db ι) (id : ι) (set : Columns ι → Columns ι) (db' : Db ι) : Prop where
  taskBlocker : db'.taskBlocker = db.taskBlocker
  row : ∀ other, db'.row other = (db.update id set).row other

variable {set : Columns ι → Columns ι}

variable (h : Writes db id set db')

include h

theorem Writes.row_of_ne (hne : other ≠ id) : db'.row other = db.row other := by
  rw [h.row, row_update, if_neg hne]

theorem Writes.row_self : db'.row id = (db.row id).map set := by
  rw [h.row, row_update, if_pos rfl]

theorem Writes.blocked (hnot : (other, id) ∉ db.taskBlocker) :
    db'.Blocked other ↔ db.Blocked other :=
  blocked_of_rows h.taskBlocker (fun _ hne => h.row_of_ne hne) hnot

/-- After the row of a task was written, syncing its dependents settles every task but
itself. -/
theorem Writes.allSynced (hsynced : db.AllSynced)
    (hself : (id, id) ∈ db.taskBlocker ∨ db'.Synced id) :
    (db'.syncBlockedEventsForDependents id).AllSynced := by
  intro other
  refine synced_foldl ?_
  rw [mem_listTasksBlockedBy, h.taskBlocker]
  by_cases hmem : (other, id) ∈ db.taskBlocker
  · exact .inl hmem
  · refine .inr ?_
    by_cases heq : other = id
    · subst heq
      exact hself.resolve_left hmem
    · exact (hsynced other).of_row (h.row_of_ne heq) (h.blocked hmem)

omit h

/-- After the blockers of a task were written, syncing it settles every task. -/
theorem allSynced_sync {written : ι} (hsynced : db.AllSynced)
    (htable : ∀ other blockerId, other ≠ written →
      ((other, blockerId) ∈ db'.taskBlocker ↔ (other, blockerId) ∈ db.taskBlocker))
    (hrows : ∀ other, db'.row other = db.row other) : (db'.syncBlockedEvent written).AllSynced := by
  intro other
  by_cases heq : other = written
  · exact heq ▸ synced_sync_self db' other
  · refine ((hsynced other).of_row (hrows other) ?_).sync written
    simp only [Blocked, isUnresolved, hrows]
    exact exists_congr fun blockerId => and_congr_left' (htable other blockerId heq)

end Sync

/-! ### Reopening a task -/

section Writers

variable [LinearOrder ι] {db db' : Db ι} {id : ι}

variable {taskOrBranchId : ι}

/-- The reopened task comes back to the blocked state that was announced before it was closed,
unless it is among its own dependents. -/
def ReopensSynced (db : Db ι) (taskOrBranchId : ι) : Prop :=
  ∀ id, db.resolvePipelineItemId taskOrBranchId = some id →
    (id, id) ∈ db.taskBlocker ∨ ∀ columns, db.row id = some columns →
      (columns.blockedEventBaseline = 1 ↔ 0 < db.countOpenTaskBlockers id)

/-- Syncing other tasks leaves a task as it is. -/
theorem foldl_sync_of_not_mem (db : Db ι) {tasks : List ι} (hnot : id ∉ tasks) :
    (tasks.foldl syncBlockedEvent db).row id = db.row id ∧
      SameCore db (tasks.foldl syncBlockedEvent db) := by
  induction tasks generalizing db with
  | nil => exact ⟨rfl, .refl db⟩
  | cons task tasks ih =>
    rw [mem_cons, not_or] at hnot
    obtain ⟨hrow, hcore⟩ := ih (db.syncBlockedEvent task) hnot.2
    exact ⟨hrow.trans (row_sync_of_ne hnot.1), (sameCore_sync db task).trans hcore⟩

/-- A task that is reopened in another blocked state keeps the old baseline. -/
theorem not_allSynced_reopenPipelineItem (hreopens : ¬ db.ReopensSynced taskOrBranchId) :
    ∃ db', db.reopenPipelineItem taskOrBranchId false = .ok db' ∧ ¬ db'.AllSynced := by
  simp only [ReopensSynced, not_forall, not_or] at hreopens
  obtain ⟨id, hresolve, hself, columns, hrow, hstale⟩ := hreopens
  have hwrite : Writes db id (setClosed false)
      (db.update id (setClosed false)) := ⟨rfl, fun _ => rfl⟩
  refine ⟨_, by rw [Db.reopenPipelineItem, hresolve]; rfl, fun hall => hstale ?_⟩
  -- the reopened task is not among the tasks that are synced
  have hnot : id ∉ (db.update id (setClosed false)).listTasksBlockedBy id :=
    fun hmem => hself (mem_listTasksBlockedBy.mp hmem)
  obtain ⟨hlast, hcore⟩ := foldl_sync_of_not_mem (db.update id (setClosed false)) hnot
  rw [hwrite.row_self, hrow] at hlast
  have hcount := hall id _ hlast rfl
  rw [count_pos_iff] at hcount ⊢
  exact hcount.trans (hcore.blocked.trans (hwrite.blocked hself))

end Writers

/-! ### The events -/

section Events

variable [LinearOrder ι] {db db' : Db ι} {id : ι}

/-- The blocked and unblocked events of a task, oldest first. -/
def edges (db : Db ι) (id : ι) : List Bool :=
  db.events.filterMap fun event => if event.taskId = id then event.kind.edge else none

/-- The events of every task alternate from `task.blocked` on. -/
def Alternates (db : Db ι) : Prop := ∀ id, Alternating true (db.edges id)

/-- The events alternate, and the baseline of a task is what its last event said. -/
structure Announced (db : Db ι) : Prop where
  alternates : db.Alternates
  baseline : ∀ id columns, db.row id = some columns →
    columns.blockedEventBaseline = if expectedAfter true (db.edges id) then 0 else 1

theorem edges_appendTaskEvent (db : Db ι) (taskId : ι) (kind : EventKind ι) (id : ι) :
    (db.appendTaskEvent taskId kind).edges id =
      db.edges id ++ if taskId = id then kind.edge.toList else [] := by
  rw [edges, appendTaskEvent, filterMap_append]
  congr 1
  by_cases heq : taskId = id
  · rw [filterMap_cons, if_pos heq, if_pos heq]
    cases kind.edge <;> rfl
  · rw [filterMap_cons, if_neg heq, if_neg heq]
    rfl

/-- Every other event. -/
theorem edges_append_other {kind : EventKind ι} (db : Db ι) (taskId : ι) (hkind : kind.edge = none)
    (id : ι) : (db.appendTaskEvent taskId kind).edges id = db.edges id := by
  rw [edges_appendTaskEvent, hkind]
  split <;> exact append_nil _

variable (h : db.Announced)

include h

/-- A write that touches neither the baselines nor the blocked events. -/
theorem Announced.congr (hedges : ∀ id, db'.edges id = db.edges id)
    (hrows : ∀ id columns, db'.row id = some columns → ∃ old, db.row id = some old ∧
      columns.blockedEventBaseline = old.blockedEventBaseline) : db'.Announced := by
  refine ⟨fun id => hedges id ▸ h.alternates id, fun id columns hrow => ?_⟩
  obtain ⟨old, hold, hbaseline⟩ := hrows id columns hrow
  rw [hbaseline, hedges]
  exact h.baseline id old hold

/-- A sync announces the opposite of what was last announced. -/
theorem Announced.sync (id : ι) : (db.syncBlockedEvent id).Announced := by
  rcases syncBlockedEvent_cases db id with
    ⟨heq, -⟩ | ⟨columns, kind, baseline, hrow, -, hne, heq, hedge⟩
  · rw [heq]
    exact h
  · have hkind : kind.edge = some (expectedAfter true (db.edges id)) ∧
        baseline = if expectedAfter true (db.edges id) then 1 else 0 := by
      rw [h.baseline id columns hrow] at hne
      rcases hedge with ⟨rfl, hkind, -⟩ | ⟨rfl, hkind, -⟩ <;>
        cases hexpected : expectedAfter true (db.edges id) <;> simp_all
    obtain ⟨hkind, hbaseline⟩ := hkind
    rw [heq]
    have hedges : ∀ other, ((db.update id (setBaseline baseline)).appendTaskEvent id
        kind).edges other = db.edges other ++
          if id = other then [expectedAfter true (db.edges id)] else [] := by
      intro other
      rw [edges_appendTaskEvent, hkind]
      rfl
    refine ⟨fun other => ?_, fun other columns' hrow' => ?_⟩
    · rw [hedges]
      split
      next heq => exact heq ▸ alternating_append (h.alternates id)
      next => exact (append_nil _).symm ▸ h.alternates other
    · rw [row_appendTaskEvent, row_update] at hrow'
      rw [hedges]
      split at hrow'
      next heq =>
        subst heq
        obtain ⟨old, -, rfl⟩ := Option.map_eq_some_iff.mp hrow'
        rw [if_pos rfl, expectedAfter_append]
        cases hexpected : expectedAfter true (db.edges other) <;> simp_all [setBaseline]
      next hother =>
        rw [if_neg (Ne.symm hother), append_nil]
        exact h.baseline other columns' hrow'

theorem Announced.foldl {tasks : List ι} : (tasks.foldl syncBlockedEvent db).Announced := by
  induction tasks generalizing db with
  | nil => exact h
  | cons task tasks ih => exact ih (h.sync task)

omit h

end Events

end Db

/-! ### Runs -/

/-- A write. -/
inductive Write (ι : Type) where
  | insertTaskBlocker (blockedItemId blockerItemId : ι)
  | removeAllTaskBlockers (blockedItemId : ι)
  | replaceTaskBlockersAtomically (taskOrBranchId : ι) (blockerTaskIds : List ι)
  | closePipelineItem (taskOrBranchId : ι)
  | reopenPipelineItem (taskOrBranchId : ι) (conflict : Bool)
  | updatePipelineItemStage (id : ι) (stage : String) (trigger : StageTrigger)
  | updatePipelineItemStageAndBranch (id : ι) (stage : String) (branch : ι)
      (trigger : StageTrigger)
  | updatePipelineItemPr (id : ι) (prNumber : Option Int) (prUrl : String)

section Runs

variable [LinearOrder ι] {db db' : Db ι}

/-- A write; one that fails leaves the database as it was. -/
def step (db : Db ι) : Write ι → Option (Db ι)
  | .insertTaskBlocker blockedItemId blockerItemId =>
    some (committed db (db.insertTaskBlocker blockedItemId blockerItemId))
  | .removeAllTaskBlockers blockedItemId => some (db.removeAllTaskBlockers blockedItemId)
  | .replaceTaskBlockersAtomically taskOrBranchId blockerTaskIds =>
    some (committed db
      ((db.replaceTaskBlockersAtomically taskOrBranchId blockerTaskIds).map Prod.fst))
  | .closePipelineItem taskOrBranchId => some (committed db (db.closePipelineItem taskOrBranchId))
  | .reopenPipelineItem taskOrBranchId conflict =>
    some (committed db (db.reopenPipelineItem taskOrBranchId conflict))
  | .updatePipelineItemStage id stage trigger =>
    some (committed db (db.updatePipelineItemStageWithTrigger id stage trigger))
  | .updatePipelineItemStageAndBranch id stage branch trigger =>
    some (committed db (db.updatePipelineItemStageAndBranchWithTrigger id stage branch trigger))
  | .updatePipelineItemPr id prNumber prUrl => some (db.updatePipelineItemPr id prNumber prUrl)

/-- A reopening that succeeds brings its task back to the blocked state that was announced. -/
def KeepsSynced (db : Db ι) : Write ι → Prop
  | .reopenPipelineItem taskOrBranchId conflict =>
    conflict = true ∨ db.ReopensSynced taskOrBranchId
  | _ => True

variable {write : Write ι}

/-- What a write does, if it is committed: it changes the blockers of one task and syncs that task,
or it updates the row of one task and syncs its dependents. -/
inductive Wrote (db : Db ι) (write : Write ι) : Db ι → Prop where
  | nothing : Wrote db write db
  | blockers {db' : Db ι} (written : ι) (hitems : db'.items = db.items)
      (hevents : db'.events = db.events)
      (htable : ∀ other blockerId, other ≠ written →
        ((other, blockerId) ∈ db'.taskBlocker ↔ (other, blockerId) ∈ db.taskBlocker)) :
      Wrote db write (db'.syncBlockedEvent written)
  | row {db' : Db ι} {id : ι} {set : Columns ι → Columns ι} (hwrites : db.Writes id set db')
      (hset : ∀ columns, (set columns).blockedEventBaseline = columns.blockedEventBaseline)
      (hedges : ∀ other, db'.edges other = db.edges other)
      -- the task was open, or its baseline is right
      (hopens : KeepsSynced db write → (id, id) ∈ db.taskBlocker ∨
        ∀ columns, db.row id = some columns → (set columns).closed = false →
          columns.closed = false ∨
            (columns.blockedEventBaseline = 1 ↔ 0 < db.countOpenTaskBlockers id)) :
      Wrote db write (db'.syncBlockedEventsForDependents id)

theorem wrote_updateStage {id : ι} {stage : String} {branch : Option ι} {trigger : StageTrigger}
    (hok : db.updateStage id stage branch trigger = .ok db') : Wrote db write db' := by
  obtain ⟨columns, -, hok⟩ := of_okOr hok
  obtain ⟨-, hok⟩ := of_throw hok
  cases hok
  rw [Db.appendStageChangedEvent]
  split
  · exact .row ⟨rfl, fun _ => rfl⟩ (fun _ => rfl) (fun _ => rfl)
      fun _ => .inr fun _ _ hopen => .inl hopen
  · exact .row ⟨rfl, fun _ => rfl⟩ (fun _ => rfl) (Db.edges_append_other _ id rfl)
      fun _ => .inr fun _ _ hopen => .inl hopen

theorem wrote_updatePipelineItemPr (id : ι) (prNumber : Option Int) (prUrl : String) :
    Wrote db write (db.updatePipelineItemPr id prNumber prUrl) := by
  have hnothing : db.Writes id (fun columns => columns) db := by
    refine ⟨rfl, fun other => ?_⟩
    rw [Db.row_update]
    split <;> simp
  rw [Db.updatePipelineItemPr]
  split
  next =>
    exact .row hnothing (fun _ => rfl) (fun _ => rfl) fun _ => .inr fun _ _ hopen => .inl hopen
  next =>
  split
  next =>
    exact .row hnothing (fun _ => rfl) (fun _ => rfl) fun _ => .inr fun _ _ hopen => .inl hopen
  next =>
  split
  · exact .row ⟨rfl, fun _ => rfl⟩ (fun _ => rfl) (fun _ => rfl)
      fun _ => .inr fun _ _ hopen => .inl hopen
  · exact .row ⟨rfl, fun _ => rfl⟩ (fun _ => rfl) (Db.edges_append_other _ id rfl)
      fun _ => .inr fun _ _ hopen => .inl hopen

theorem wrote_of_step (hstep : step db write = some db') : Wrote db write db' := by
  cases write <;> cases hstep
  case insertTaskBlocker =>
    refine committed_of .nothing fun hok => ?_
    rw [Db.insertTaskBlocker] at hok
    split at hok
    next =>
      cases hok
      refine .blockers _ rfl rfl fun other blockerId hne => ?_
      rw [Db.mem_taskBlocker_insertRow]
      exact ⟨fun hmem => hmem.resolve_right fun heq => hne (Prod.mk.inj heq).1, .inl⟩
    next => cases hok
  case removeAllTaskBlockers =>
    refine .blockers _ rfl rfl fun other blockerId hne => ?_
    rw [Db.mem_taskBlocker_deleteRows]
    exact and_iff_left hne
  case replaceTaskBlockersAtomically =>
    refine committed_of .nothing fun hok => ?_
    obtain ⟨taskId, blockerIds, hkeys, -, -, -, rfl⟩ := Db.replaceTaskBlockersAtomically_eq_ok hok
    refine .blockers _ rfl rfl fun other blockerId hne => ?_
    rw [Db.mem_taskBlocker_replaceRows]
    exact ⟨fun hmem => (hmem.resolve_right fun hnew => hne hnew.1).1, fun hmem => .inl ⟨hmem, hne⟩⟩
  case closePipelineItem =>
    refine committed_of .nothing fun hok => ?_
    obtain ⟨id, -, hok⟩ := of_okOr hok
    cases hok
    exact .row ⟨rfl, fun _ => rfl⟩ (fun _ => rfl) (Db.edges_append_other _ id rfl)
      fun _ => .inr nofun
  case reopenPipelineItem =>
    refine committed_of .nothing fun hok => ?_
    obtain ⟨id, hresolve, hok⟩ := of_okOr hok
    obtain ⟨hconflict, hok⟩ := of_throw hok
    cases hok
    refine .row ⟨rfl, fun _ => rfl⟩ (fun _ => rfl) (fun _ => rfl) fun hkeeps => ?_
    exact ((hkeeps.resolve_left hconflict) id hresolve).imp_right
      fun hright columns hrow _ => .inr (hright columns hrow)
  case updatePipelineItemStage => exact committed_of .nothing wrote_updateStage
  case updatePipelineItemStageAndBranch => exact committed_of .nothing wrote_updateStage
  case updatePipelineItemPr => exact wrote_updatePipelineItemPr _ _ _

theorem allSynced_step (h : db.AllSynced) (hkeeps : KeepsSynced db write)
    (hstep : step db write = some db') : db'.AllSynced := by
  cases wrote_of_step hstep with
  | nothing => exact h
  | blockers written hitems _ htable =>
    refine Db.allSynced_sync h htable fun other => ?_
    rw [Db.row, hitems]
    rfl
  | @row _ id _ hwrites hset _ hopens =>
    refine hwrites.allSynced h ?_
    by_cases hself : (id, id) ∈ db.taskBlocker
    · exact .inl hself
    · refine .inr fun columns hcolumns hopen => ?_
      rw [hwrites.row_self] at hcolumns
      obtain ⟨old, hold, rfl⟩ := Option.map_eq_some_iff.mp hcolumns
      rw [Db.count_pos_iff, hwrites.blocked hself, ← Db.count_pos_iff, hset]
      rcases (hopens hkeeps).resolve_left hself old hold hopen with hwas | hright
      · exact h id old hold hwas
      · exact hright

theorem not_allSynced_of_not_keeps (hmiss : ¬ KeepsSynced db write) :
    ∃ db', step db write = some db' ∧ ¬ db'.AllSynced := by
  cases write
  case reopenPipelineItem taskOrBranchId conflict =>
    obtain ⟨hconflict, hreopens⟩ := not_or.mp hmiss
    obtain ⟨db', hok, hbad⟩ := Db.not_allSynced_reopenPipelineItem hreopens
    rw [Bool.not_eq_true] at hconflict
    refine ⟨db', ?_, hbad⟩
    rw [step, hconflict, hok]
    rfl
  all_goals exact (hmiss trivial).elim

theorem announced_step (h : db.Announced) (hstep : step db write = some db') : db'.Announced := by
  cases wrote_of_step hstep with
  | nothing => exact h
  | blockers written hitems hevents =>
    refine Db.Announced.sync (h.congr (fun id => ?_) fun id columns hrow => ?_) written
    · rw [Db.edges, Db.edges, hevents]
    · rw [Db.row, hitems] at hrow
      exact ⟨columns, hrow, rfl⟩
  | row hwrites hset hedges =>
    refine (h.congr hedges fun other columns hrow => ?_).foldl
    rw [hwrites.row, Db.row_update] at hrow
    split at hrow
    · obtain ⟨old, hold, rfl⟩ := Option.map_eq_some_iff.mp hrow
      exact ⟨old, hold, hset old⟩
    · exact ⟨columns, hrow, rfl⟩

/-- Tasks none of which has waited for another. -/
structure Fresh (db : Db ι) : Prop where
  taskBlocker : db.taskBlocker = []
  events : db.events = []
  baseline : ∀ id columns, db.row id = some columns → columns.blockedEventBaseline = 0

theorem Fresh.allSynced (h : Fresh db) : db.AllSynced := by
  intro id columns hrow _
  rw [h.baseline id columns hrow, Db.countOpenTaskBlockers, h.taskBlocker]
  exact iff_of_false Int.zero_ne_one (Nat.lt_irrefl 0)

theorem Fresh.announced (h : Fresh db) : db.Announced := by
  have hedges : ∀ id, db.edges id = [] := fun id => by rw [Db.edges, h.events]; rfl
  refine ⟨fun id => hedges id ▸ trivial, fun id columns hrow => ?_⟩
  rw [hedges]
  exact h.baseline id columns hrow

/-- **The announced blocked state**: the `task.blocked` and `task.unblocked` events of a task
strictly alternate along every run, and the baseline of every open task is right all along
exactly the runs that reopen no task into a blocked state other than the announced one. -/
theorem blocked_announcements (hfresh : Fresh db) (writes : List (Write ι)) :
    (Always step Db.AllSynced db writes ↔ Meets step KeepsSynced db writes) ∧
      Always step Db.Alternates db writes :=
  ⟨always_iff_meets id allSynced_step (fun _ => not_allSynced_of_not_keeps) hfresh.allSynced,
    (always_of_invariant announced_step writes hfresh.announced).mono Db.Announced.alternates⟩

end Runs

/-- Task 0 and task 1, both open. -/
def twoTasks : Db ℕ where
  items := [⟨⟨none, "in progress", none, none, false, 0⟩, 0⟩,
    ⟨⟨none, "in progress", none, none, false, 0⟩, 1⟩]
  taskBlocker := []
  events := []
  primaryKey := by decide
  foreignKeys := by decide

theorem fresh_twoTasks : Fresh twoTasks := by
  refine ⟨rfl, rfl, fun id columns hrow => ?_⟩
  obtain ⟨item, hitem, rfl⟩ := Option.map_eq_some_iff.mp hrow
  have hmem := mem_of_find?_eq_some hitem
  simp only [twoTasks, mem_cons, not_mem_nil, or_false] at hmem
  rcases hmem with rfl | rfl <;> rfl

/-- Task 0 waits for task 1. Both are closed, and task 0 is reopened. -/
def closedTogether : List (Write ℕ) :=
  [.insertTaskBlocker 0 1, .closePipelineItem 0, .closePipelineItem 1,
    .reopenPipelineItem 0 false]

theorem blocked_announcements_closedTogether :
    Fresh twoTasks ∧
      (Always step Db.AllSynced twoTasks closedTogether ↔
        Meets step KeepsSynced twoTasks closedTogether) ∧
      Always step Db.Alternates twoTasks closedTogether :=
  ⟨fresh_twoTasks, blocked_announcements fresh_twoTasks closedTogether⟩

/-- Task 0 is open and announced as blocked, and nothing blocks it. -/
theorem reopened_task_keeps_stale_baseline :
    (run step twoTasks closedTogether).map (fun db =>
      ((db.row 0).map fun columns => (columns.closed, columns.blockedEventBaseline),
        db.countOpenTaskBlockers 0)) = some (some (false, 1), 0) := by
  decide

end Kanna.Blockers
