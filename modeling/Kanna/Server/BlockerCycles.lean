import Kanna.Server.TaskBlockers

/-!
# Cycles among blocked tasks

`task_blocker` has two writers. `replace_task_blockers_atomically` looks for a cycle before it
writes, in one transaction. The creation of a task that declares blockers writes one row per
transaction and does not look: the task is new, so that nothing can wait for it.

But the task has its own row before its blockers are written, and a replacement can make one
of those blockers wait for it in between. The rows that are still to be written count, then:
`Awaits` is the relation with them.

A creation that fails is not rolled back here: its rows are written for tasks that exist.
-/

namespace Kanna.BlockerGraph

open Blockers Kanna.Digraph Relation

/-! ### Creating a task -/

/-- How far a `create_task` has come. -/
inductive Creation (ι : Type) where
  | resolved (resolvedBlockerIds : List ι)
  | checked (resolvedBlockerIds : List ι) (hasOpenBlockers : Bool)
  /-- the dormant task has a row, and `remove_all_task_blockers` comes next -/
  | clearing (taskId : ι) (resolvedBlockerIds : List ι)
  /-- `persist_task_blocker_rows` with the rows that are left -/
  | writing (taskId : ι) (resolvedBlockerIds : List ι)

/-- The database and the creations in progress. -/
structure System (ι : Type) where
  db : Db ι
  creations : List (Creation ι)

/-- One transaction. -/
inductive Move (ι : Type) where
  | resolve (blockerTaskIds : List ι)
  | check (creation : ℕ)
  | insert (creation : ℕ) (item : PipelineItem ι)
  | clear (creation : ℕ)
  | write (creation : ℕ)
  | replace (taskOrBranchId : ι) (blockerTaskIds : List ι)

variable {ι : Type}

/-- The insertion of a `pipeline_item` row. -/
def insertItem (db : Db ι) (item : PipelineItem ι) (hnew : item.id ∉ db.ids) : Db ι where
  items := db.items ++ [item]
  taskBlocker := db.taskBlocker
  events := db.events
  primaryKey := by
    rw [List.map_append]
    exact List.nodup_append.mpr ⟨db.primaryKey, List.nodup_singleton _, by
      rintro id hid _ hlast rfl
      exact hnew (List.mem_singleton.mp hlast ▸ hid)⟩
  foreignKeys := fun row hrow => by
    rw [List.map_append]
    exact ⟨List.mem_append_left _ (db.foreignKeys row hrow).1,
      List.mem_append_left _ (db.foreignKeys row hrow).2⟩

variable {db : Db ι}

open List

variable {item : PipelineItem ι}

theorem mem_ids_insertItem (hnew : item.id ∉ db.ids) {id : ι} (hmem : id ∈ db.ids) :
    id ∈ (insertItem db item hnew).ids := by
  rw [Db.ids, insertItem, map_append]
  exact mem_append_left _ hmem

section Rows

variable [DecidableEq ι]

/-- `resolve_task_blocker_ids`. -/
def resolveTaskBlockerIds (db : Db ι) : List ι → List ι → Option (List ι)
  | [], resolved => some resolved
  | blockerTaskId :: rest, resolved => do
    let blockerId ← db.resolvePipelineItemId blockerTaskId
    resolveTaskBlockerIds db rest
      (if blockerId ∈ resolved then resolved else resolved ++ [blockerId])

/-- Whether one of the blockers is open, if they have rows. -/
def hasOpenBlockers (db : Db ι) : List ι → Option Bool
  | [] => some false
  | blockerId :: rest => do
    let columns ← db.row blockerId
    if columns.closed then hasOpenBlockers db rest else some true

end Rows

namespace System

variable (s : System ι)

/-- A creation goes on. -/
def setCreation (k : ℕ) (creation : Creation ι) : System ι :=
  { s with creations := s.creations.set k creation }

/-- The creation returns with an error. -/
def fail (k : ℕ) : System ι := { s with creations := s.creations.eraseIdx k }

variable [LinearOrder ι]

/-- A creation begins: its blockers are looked up. -/
def resolve (blockerTaskIds : List ι) : Option (System ι) :=
  match resolveTaskBlockerIds s.db blockerTaskIds [] with
  | none => some s
  | some resolvedBlockerIds =>
    some { s with creations := s.creations ++ [.resolved resolvedBlockerIds] }

/-- It looks whether any of them is open. -/
def check (k : ℕ) : Option (System ι) :=
  match s.creations[k]? with
  | some (.resolved resolvedBlockerIds) =>
    match hasOpenBlockers s.db resolvedBlockerIds with
    | none => some (s.fail k)
    | some hasOpen => some (s.setCreation k (.checked resolvedBlockerIds hasOpen))
  | _ => none

/-- The row of the new task, which has an id of its own. -/
def insert (k : ℕ) (item : PipelineItem ι) : Option (System ι) :=
  match s.creations[k]? with
  | some (.checked resolvedBlockerIds hasOpen) =>
    if hnew : s.db.ids.contains item.id = false then
      some { db := insertItem s.db item (by simpa using hnew)
             creations := s.creations.set k
              (if hasOpen then .clearing item.id resolvedBlockerIds
                else .writing item.id resolvedBlockerIds) }
    else some (s.fail k)
  | _ => none

/-- It removes the blockers that a row of this id may have. -/
def clear (k : ℕ) : Option (System ι) :=
  match s.creations[k]? with
  | some (.clearing taskId resolvedBlockerIds) =>
    some { db := s.db.removeAllTaskBlockers taskId
           creations := s.creations.set k (.writing taskId resolvedBlockerIds) }
  | _ => none

/-- It writes the next of its blockers. -/
def write (k : ℕ) : Option (System ι) :=
  match s.creations[k]? with
  | some (.writing taskId (blockerId :: rest)) =>
    match s.db.insertTaskBlocker taskId blockerId with
    | .error _ => some (s.fail k)
    | .ok db => some { db := db, creations := s.creations.set k (.writing taskId rest) }
  | _ => none

/-- The blockers of a task are replaced, in one transaction. -/
def replace (taskOrBranchId : ι) (blockerTaskIds : List ι) : System ι :=
  { s with
    db := committed s.db
      ((s.db.replaceTaskBlockersAtomically taskOrBranchId blockerTaskIds).map Prod.fst) }

end System

/-- One step of a creation, or a replacement. -/
def step [LinearOrder ι] (s : System ι) : Move ι → Option (System ι)
  | .resolve blockerTaskIds => s.resolve blockerTaskIds
  | .check k => s.check k
  | .insert k item => s.insert k item
  | .clear k => s.clear k
  | .write k => s.write k
  | .replace taskOrBranchId blockerTaskIds => some (s.replace taskOrBranchId blockerTaskIds)

/-! ### Who waits for whom -/

/-- The relation of the table. -/
def Waits (db : Db ι) (blocked blocker : ι) : Prop := (blocked, blocker) ∈ db.taskBlocker

/-- The blockers that the creation resolved and has not written yet. -/
def Creation.blockerIds : Creation ι → List ι
  | .resolved resolvedBlockerIds => resolvedBlockerIds
  | .checked resolvedBlockerIds _ => resolvedBlockerIds
  | .clearing _ resolvedBlockerIds => resolvedBlockerIds
  | .writing _ resolvedBlockerIds => resolvedBlockerIds

/-- The task that the creation inserted. -/
def Creation.taskId : Creation ι → Option ι
  | .resolved _ => none
  | .checked _ _ => none
  | .clearing taskId _ => some taskId
  | .writing taskId _ => some taskId

/-- A row that the creation will write. -/
def Creation.Pending (creation : Creation ι) (blocked blocker : ι) : Prop :=
  creation.taskId = some blocked ∧ blocker ∈ creation.blockerIds

/-- The rows of the table and those that are still to be written. -/
def System.Awaits (s : System ι) (blocked blocker : ι) : Prop :=
  Waits s.db blocked blocker ∨ ∃ creation ∈ s.creations, creation.Pending blocked blocker

theorem edge_listTaskBlockerIds [LinearOrder ι] (db : Db ι) :
    Edge db.listTaskBlockerIds = Waits db := by
  funext blocked blocker
  exact propext Db.mem_listTaskBlockerIds

/-- What the check of a replacement answers, however deep its recursion may go. -/
theorem hasPath_waits_iff [LinearOrder ι] {fuel : ℕ} (hfuel : db.ids.length < fuel)
    (fromBlockedItemId targetItemId : ι) :
    hasPath db.listTaskBlockerIds fuel fromBlockedItemId targetItemId = true ↔
      ReflTransGen (Waits db) fromBlockedItemId targetItemId := by
  have hclosed : Closed db.listTaskBlockerIds db.ids := by
    intro blocked _ blocker hblocker
    exact (db.foreignKeys _ (Db.mem_listTaskBlockerIds.mp hblocker)).2
  rw [← edge_listTaskBlockerIds]
  refine ⟨reach_of_visit, fun hreach => ?_⟩
  by_cases hid : fromBlockedItemId ∈ db.ids
  · exact (hasPath_iff hclosed hfuel hid targetItemId).mpr hreach
  · -- no row is about the start
    rcases hreach.cases_head with rfl | ⟨blocker, hedge, -⟩
    · obtain ⟨fuel, rfl⟩ := Nat.exists_eq_succ_of_ne_zero (Nat.ne_zero_of_lt hfuel)
      rw [hasPath, visit, if_pos rfl]
    · exact absurd (db.foreignKeys _ (Db.mem_listTaskBlockerIds.mp hedge)).1 hid

/-- A replacement sees every path there will be: where one of its blockers comes to wait for
the task once all rows are written, it does so already. -/
def Foresees [LinearOrder ι] (s : System ι) : Move ι → Prop
  | .replace taskOrBranchId blockerTaskIds =>
    ∀ taskId blockerIds, s.db.resolvePipelineItemId taskOrBranchId = some taskId →
      s.db.resolveBlockerIds taskId blockerTaskIds [] = .ok blockerIds →
      ∀ blockerId ∈ blockerIds, ReflTransGen s.Awaits blockerId taskId →
        ReflTransGen (Waits s.db) blockerId taskId
  | _ => True

/-- No cycle would remain after all rows are written, and the rows that are to be written name
tasks. -/
structure Ordered (s : System ι) : Prop where
  /-- with the rows that are still to be written -/
  acyclic : Acyclic s.Awaits
  known : ∀ creation ∈ s.creations, ∀ blockerId ∈ creation.blockerIds, blockerId ∈ s.db.ids

theorem Ordered.waits {s : System ι} (h : Ordered s) : Acyclic (Waits s.db) :=
  h.acyclic.mono fun _ _ => .inl

section Steps

variable {s s' : System ι}

variable {k : ℕ}

/-- Replacing a creation by one that is to write no other row. -/
theorem Ordered.set (h : Ordered s) {db : Db ι} {creation creation' : Creation ι}
    (hcreation : s.creations[k]? = some creation) (hids : db.ids = s.db.ids)
    (htask : ∀ taskId, creation'.taskId = some taskId → creation.taskId = some taskId)
    (hblockers : creation'.blockerIds ⊆ creation.blockerIds)
    (hrows : ∀ blocked blocker, Waits db blocked blocker → s.Awaits blocked blocker) :
    Ordered ⟨db, s.creations.set k creation'⟩ := by
  have hold := mem_of_getElem? hcreation
  refine ⟨h.acyclic.mono ?_, fun other hmem blockerId hblocker => ?_⟩
  · rintro blocked blocker (hrow | ⟨other, hmem, hpending⟩)
    · exact hrows blocked blocker hrow
    · rcases mem_or_eq_of_mem_set hmem with hmem | rfl
      · exact .inr ⟨other, hmem, hpending⟩
      · exact .inr ⟨creation, hold, htask blocked hpending.1, hblockers hpending.2⟩
  · rw [hids]
    rcases mem_or_eq_of_mem_set hmem with hmem | rfl
    · exact h.known other hmem blockerId hblocker
    · exact h.known creation hold blockerId (hblockers hblocker)

theorem Ordered.fail (h : Ordered s) (k : ℕ) : Ordered (s.fail k) := by
  have hmem : ∀ creation ∈ s.creations.eraseIdx k, creation ∈ s.creations := fun creation =>
    mem_of_mem_eraseIdx
  refine ⟨h.acyclic.mono fun blocked blocker hedge => ?_, fun creation hin =>
    h.known creation (hmem creation hin)⟩
  rcases hedge with hrow | ⟨creation, hin, hpending⟩
  · exact .inl hrow
  · exact .inr ⟨creation, hmem creation hin, hpending⟩

variable [LinearOrder ι]

variable {blockerTaskIds : List ι}

/-- The resolved blockers are tasks. -/
theorem mem_ids_of_resolveTaskBlockerIds {db : Db ι} {resolved result : List ι}
    (hresolved : ∀ blockerId ∈ resolved, blockerId ∈ db.ids)
    (h : resolveTaskBlockerIds db blockerTaskIds resolved = some result) :
    ∀ blockerId ∈ result, blockerId ∈ db.ids := by
  induction blockerTaskIds generalizing resolved with
  | nil =>
    cases h
    exact hresolved
  | cons blockerTaskId rest ih =>
    obtain ⟨blockerId, hresolve, h⟩ := Option.bind_eq_some_iff.mp h
    refine ih (fun other hother => ?_) h
    split at hother
    · exact hresolved other hother
    · rcases mem_append.mp hother with hold | hnew
      · exact hresolved other hold
      · exact mem_singleton.mp hnew ▸ Db.mem_ids_of_resolve hresolve

variable (h : Ordered s)

include h

theorem ordered_resolve (hstep : s.resolve blockerTaskIds = some s') : Ordered s' := by
  rw [System.resolve] at hstep
  split at hstep
  next =>
    cases hstep
    exact h
  next resolvedBlockerIds hresolve =>
    cases hstep
    refine ⟨h.acyclic.mono fun blocked blocker hedge => ?_, fun creation hmem => ?_⟩
    · rcases hedge with hrow | ⟨creation, hmem, hpending⟩
      · exact .inl hrow
      · rcases mem_append.mp hmem with hmem | hlast
        · exact .inr ⟨creation, hmem, hpending⟩
        · rw [mem_singleton.mp hlast] at hpending
          cases hpending.1
    · rcases mem_append.mp hmem with hmem | hlast
      · exact h.known creation hmem
      · rw [mem_singleton.mp hlast]
        exact mem_ids_of_resolveTaskBlockerIds (fun _ hnil => by cases hnil) hresolve

theorem ordered_check (hstep : s.check k = some s') : Ordered s' := by
  rw [System.check] at hstep
  split at hstep
  next resolvedBlockerIds hcreation =>
    split at hstep
    next =>
      cases hstep
      exact h.fail k
    next hasOpen _ =>
      cases hstep
      exact h.set hcreation rfl (by rintro _ ⟨⟩) (Subset.refl _) fun _ _ => .inl
  next => cases hstep

theorem ordered_insert (hstep : s.insert k item = some s') : Ordered s' := by
  rw [System.insert] at hstep
  split at hstep
  next resolvedBlockerIds hasOpen hcreation =>
    split at hstep
    next hnew =>
      cases hstep
      have hnew : item.id ∉ s.db.ids := by simpa using hnew
      have hknown := h.known _ (mem_of_getElem? hcreation)
      have hblockers : Creation.blockerIds (if hasOpen then .clearing item.id resolvedBlockerIds
          else .writing item.id resolvedBlockerIds) = resolvedBlockerIds := by
        split <;> rfl
      have htask : Creation.taskId (if hasOpen then .clearing item.id resolvedBlockerIds
          else .writing item.id resolvedBlockerIds) = some item.id := by
        split <;> rfl
      -- nothing waits for a task that had no row
      have hnone : ∀ x, ¬ s.Awaits x item.id := by
        rintro x (hrow | ⟨creation, hmem, -, hblocker⟩)
        · exact hnew (s.db.foreignKeys _ hrow).2
        · exact hnew (h.known creation hmem _ hblocker)
      refine ⟨?_, fun creation hmem blockerId hblocker => ?_⟩
      · have hrerouted : Rerouted s.Awaits (System.Awaits ⟨insertItem s.db item hnew,
            s.creations.set k (if hasOpen then .clearing item.id resolvedBlockerIds
              else .writing item.id resolvedBlockerIds)⟩) item.id (· ∈ resolvedBlockerIds) := by
          rintro x y (hrow | ⟨creation, hmem, hpending⟩)
          · exact .inl (.inl hrow)
          · rcases mem_or_eq_of_mem_set hmem with hmem | rfl
            · exact .inl (.inr ⟨creation, hmem, hpending⟩)
            · rw [Creation.Pending, hblockers, htask] at hpending
              exact .inr ⟨(Option.some.inj hpending.1).symm, hpending.2⟩
        refine hrerouted.acyclic h.acyclic fun y htarget hreach => ?_
        exact hnew (eq_of_reach hreach hnone ▸ hknown y htarget)
      · rcases mem_or_eq_of_mem_set hmem with hmem | rfl
        · exact mem_ids_insertItem hnew (h.known creation hmem blockerId hblocker)
        · rw [hblockers] at hblocker
          exact mem_ids_insertItem hnew (hknown blockerId hblocker)
    next =>
      cases hstep
      exact h.fail k
  next => cases hstep

theorem ordered_clear (hstep : s.clear k = some s') : Ordered s' := by
  rw [System.clear] at hstep
  split at hstep
  next taskId resolvedBlockerIds hcreation =>
    cases hstep
    refine h.set hcreation (Db.ids_syncBlockedEvent _ _) (fun _ => id) (Subset.refl _)
      fun blocked blocker hrow => ?_
    rw [Waits, Db.removeAllTaskBlockers, Db.taskBlocker_syncBlockedEvent,
      Db.mem_taskBlocker_deleteRows] at hrow
    exact .inl hrow.1
  next => cases hstep

theorem ordered_write (hstep : s.write k = some s') : Ordered s' := by
  rw [System.write] at hstep
  split at hstep
  next taskId blockerId rest hcreation =>
    split at hstep
    next =>
      cases hstep
      exact h.fail k
    next db hinsert =>
      cases hstep
      rw [Db.insertTaskBlocker] at hinsert
      split at hinsert
      next hkeys =>
        cases hinsert
        -- the row that was written was still to be written before
        refine h.set hcreation (Db.ids_syncBlockedEvent _ _) (fun _ => id)
          (subset_cons_self blockerId rest) fun blocked blocker hrow => ?_
        rw [Waits, Db.taskBlocker_syncBlockedEvent, Db.mem_taskBlocker_insertRow] at hrow
        rcases hrow with hold | hnew
        · exact .inl hold
        · cases hnew
          exact .inr ⟨_, mem_of_getElem? hcreation, rfl, mem_cons_self⟩
      next => cases hinsert
  next => cases hstep

theorem ordered_replace {taskOrBranchId : ι}
    (hforesees : Foresees s (.replace taskOrBranchId blockerTaskIds)) :
    Ordered (s.replace taskOrBranchId blockerTaskIds) := by
  refine committed_of (P := fun db => Ordered ⟨db, s.creations⟩) h fun hok => ?_
  obtain ⟨taskId, blockerIds, hkeys, htask, hblockers, hchecked, rfl⟩ :=
    Db.replaceTaskBlockersAtomically_eq_ok hok
  refine ⟨?_, ?_⟩
  · have hrerouted : Rerouted s.Awaits
        (System.Awaits ⟨(s.db.replaceRows taskId blockerIds hkeys).syncBlockedEvent taskId,
          s.creations⟩) taskId (· ∈ blockerIds) := by
      rintro x y (hrow | hpending)
      · rw [Waits, Db.taskBlocker_syncBlockedEvent, Db.mem_taskBlocker_replaceRows] at hrow
        exact hrow.imp (fun hold => .inl hold.1) id
      · exact .inl (.inr hpending)
    refine hrerouted.acyclic h.acyclic fun y htarget hreach => ?_
    have hpath := (hasPath_waits_iff (Nat.lt_succ_self _) y taskId).mpr
      (hforesees taskId blockerIds htask hblockers y htarget hreach)
    cases (hchecked y htarget).symm.trans hpath
  · rw [Db.ids_syncBlockedEvent]
    exact h.known

omit h

theorem ordered_step {move : Move ι} (h : Ordered s) (hforesees : Foresees s move)
    (hstep : step s move = some s') : Ordered s' := by
  cases move
  case resolve => exact ordered_resolve h hstep
  case check => exact ordered_check h hstep
  case insert => exact ordered_insert h hstep
  case clear => exact ordered_clear h hstep
  case write => exact ordered_write h hstep
  case replace =>
    cases hstep
    exact ordered_replace h hforesees

end Steps

/-- A database while no task is being created. -/
def System.new (db : Db ι) : System ι := ⟨db, []⟩

theorem ordered_new (hacyclic : Acyclic (Waits db)) : Ordered (System.new db) := by
  refine ⟨hacyclic.mono fun blocked blocker hedge => ?_, nofun⟩
  rcases hedge with hrow | ⟨_, hmem, -⟩
  · exact hrow
  · cases hmem

/-- **No cycle among blocked tasks**, all along the runs whose replacements see every path
there will be. -/
theorem task_blocker_acyclic [LinearOrder ι] {db : Db ι} (hacyclic : Acyclic (Waits db))
    {moves : List (Move ι)} (hforesees : Meets step Foresees (System.new db) moves) :
    Always step (fun s => Acyclic (Waits s.db)) (System.new db) moves :=
  always_of_meets Ordered.waits ordered_step (ordered_new hacyclic) hforesees

/-- A task that was just inserted. -/
def openTask (id : ℕ) : PipelineItem ℕ := ⟨⟨none, "in progress", none, none, false, 0⟩, id⟩

/-- Task 0, which is open and waits for nothing. -/
def oneTask : Db ℕ where
  items := [openTask 0]
  taskBlocker := []
  events := []
  primaryKey := by decide
  foreignKeys := by decide

theorem acyclic_oneTask : Acyclic (Waits oneTask) := by
  intro id hcycle
  obtain ⟨_, hrow, -⟩ := TransGen.head'_iff.mp hcycle
  cases hrow

/-- Task 1 is created with task 0 as its blocker, up to the transactions that write its rows. -/
def creating : List (Move ℕ) := [.resolve [0], .check 0, .insert 0 (openTask 1)]

/-- The blockers of task 1 are replaced before its own creation has written them. -/
def replacedEarly : List (Move ℕ) := creating ++ [.replace 1 [0], .clear 0, .write 0]

theorem foresees_replacedEarly : Meets step Foresees (System.new oneTask) replacedEarly := by
  refine .cons trivial rfl (.cons trivial rfl (.cons trivial rfl (.cons ?_ rfl
    (.cons trivial rfl (.cons trivial rfl trivial)))))
  intro taskId blockerIds htask hblockers blockerId hmem hreach
  cases htask
  cases hblockers
  cases mem_singleton.mp hmem
  -- task 0 waits for nothing, and will not
  rcases hreach.cases_head with heq | ⟨next, hedge, -⟩
  · cases heq
  · rcases hedge with hrow | ⟨creation, hin, htask, -⟩
    · cases hrow
    · cases mem_singleton.mp hin
      cases htask

theorem task_blocker_acyclic_replacedEarly :
    Acyclic (Waits oneTask) ∧ Meets step Foresees (System.new oneTask) replacedEarly ∧
      Always step (fun s => Acyclic (Waits s.db)) (System.new oneTask) replacedEarly :=
  ⟨acyclic_oneTask, foresees_replacedEarly,
    task_blocker_acyclic acyclic_oneTask foresees_replacedEarly⟩

/-- Before the row for task 0 is written, task 0 is made to wait for task 1. The check passes,
and the two tasks wait for each other in the end. -/
theorem replacement_during_creation_closes_cycle :
    ∃ s, run step (System.new oneTask) (creating ++ [.replace 0 [1], .clear 0, .write 0]) =
        some s ∧ ¬ Acyclic (Waits s.db) := by
  have hrun : (run step (System.new oneTask)
      (creating ++ [.replace 0 [1], .clear 0, .write 0])).map (·.db.taskBlocker) =
        some [(0, 1), (1, 0)] := by decide
  obtain ⟨s, hs, hrows⟩ := Option.map_eq_some_iff.mp hrun
  refine ⟨s, hs, fun hacyclic => hacyclic 0 (.tail (.single (b := 1) ?_) ?_)⟩
  all_goals
    rw [Waits, hrows]
    decide

/-! ### One replacement -/

variable {taskId : ι} {blockerIds : List ι}

end Kanna.BlockerGraph
