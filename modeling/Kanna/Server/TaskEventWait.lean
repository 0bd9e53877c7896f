import Kanna.Lib.CursorLog

/-!
# Waiting for the task events of one machine

`wait_local_task_events` of `http_api/task_events.rs` over the log of `db/task_events.rs`. A wait
starts at a cursor, at the beginning of the log, or with `from=now` at its head. It reads a page of
the events that are in scope and pass the filters; while there are none it goes on from the head
that it has read, until its time is over. With `includeCurrentActivity` rows about tasks that are
not busy come after the events of a page.

A wait that the aggregate endpoint has started is a `Leg`: it goes on by itself, one step for each
access to the database, and its result stays until it is joined. `Leg.Ok` is what it will be worth
then: exactly the events between the cursor that it started from and the one that it returns.
-/

namespace Kanna.TaskEvents

/-- A row of `task_event`. -/
structure TaskEvent where
  seq : ℕ
  taskId : String
  eventType : String
  payload : String
  deriving DecidableEq

/-- The events of a machine; `head` is the entry of `sqlite_sequence`. -/
abbrev Log : Type := CursorLog TaskEvent TaskEvent.seq

/-- What a call does not want to see. -/
structure TaskEventFilters where
  excludeTaskIds : List String
  excludeEventTypes : List String
  deriving DecidableEq

/-- What the machines make of a query: the scope, and the task ids that names stand for. -/
structure World where
  inScope : String → TaskEvent → Bool
  resolvePipelineItemId : String → String → String

namespace World

/-- The filters drop an event of a machine. -/
def excludes (world : World) (machineId : String) (filters : TaskEventFilters)
    (event : TaskEvent) : Bool :=
  (filters.excludeTaskIds.map (world.resolvePipelineItemId machineId)).contains event.taskId ||
    filters.excludeEventTypes.contains event.eventType

/-- The events that a wait on a machine is about. -/
def keeps (world : World) (machineId : String) (filters : TaskEventFilters)
    (event : TaskEvent) : Bool :=
  world.inScope machineId event && !world.excludes machineId filters event

end World

/-! ### Cursors and batches -/

/-- `CurrentActivityProgress`. -/
structure CurrentActivityProgress where
  settledAfterTaskId : Option String
  settledComplete : Bool

/-- Nothing is reported yet. -/
def CurrentActivityProgress.default : CurrentActivityProgress := ⟨none, false⟩

/-- A cursor of one machine: the number of an event, in a `CurrentActivityCursor` or not. -/
structure MachineCursor where
  durable : ℕ
  current : Option CurrentActivityProgress

/-- An event as it is returned: a row of the log, or the current state of a task. -/
inductive ReturnedEvent where
  | durable (event : TaskEvent)
  | synthetic (taskId : String)

/-- What a wait has read. -/
structure EventBatch where
  events : List ReturnedEvent
  cursor : ℕ
  hasMore : Bool

/-- `read_sequence_batch`, for a cursor that is not beyond the head. -/
def readSequenceBatch (log : Log) (keep : TaskEvent → Bool) (afterSeq limit : ℕ) : EventBatch :=
  let page := log.page keep afterSeq limit
  ⟨page.records.map .durable, page.cursor, page.more⟩

/-- `append_current_activity_snapshots`; `rows` is what the query for tasks that are not busy
returns. -/
def appendCurrentActivitySnapshots (filters : TaskEventFilters) (rows : List String)
    (batch : EventBatch) (limit : ℕ) (progress : CurrentActivityProgress) :
    EventBatch × CurrentActivityProgress :=
  let remaining := limit - batch.events.length
  if remaining = 0 || progress.settledComplete then (batch, progress)
  else if filters.excludeEventTypes.contains "task.runtime_changed" then
    (batch, { progress with settledComplete := true })
  else
    let hasMore := decide (remaining < rows.length)
    let rows := rows.take remaining
    ({ batch with
        events := batch.events ++ rows.map .synthetic
        hasMore := batch.hasMore || hasMore },
      ⟨rows.getLast?.or progress.settledAfterTaskId, !hasMore⟩)

/-- The answer of a machine. -/
structure Response where
  cursor : MachineCursor
  events : List ReturnedEvent
  hasMore : Bool

/-- `AggregateMachineWaitError`. -/
inductive WaitError where
  | cursorRejected (error : String)
  | unavailable (error : String)

/-- The message of `invalid_cursor`. -/
def invalidCursor : String :=
  "cursor is not a valid cursor returned by this endpoint; restart without a cursor to safely " ++
    "replay retained history"

/-! ### A wait -/

/-- Where a wait is. -/
inductive LegPhase where
  | starting
  | reading (cursor : ℕ) (progress : CurrentActivityProgress)
  | done (result : Except WaitError Response)

/-- A wait of the aggregate endpoint on one machine. -/
structure Leg where
  machineId : String
  cursor : Option MachineCursor
  filters : TaskEventFilters
  includeCurrentActivity : Bool
  fromNow : Bool
  limit : ℕ
  phase : LegPhase

namespace Leg

/-- The wait goes on. -/
def setPhase (leg : Leg) (phase : LegPhase) : Leg := { leg with phase := phase }

/-- Before the loop. -/
def start (leg : Leg) (log : Log) : Leg :=
  let position := match leg.cursor with
    | some cursor => cursor.durable
    | none => if leg.fromNow then log.head else 0
  leg.setPhase (.reading position
    ((leg.cursor.bind MachineCursor.current).getD .default))

/-- The page that a pass of the loop looks at, with the progress of the current activity. -/
def batch (world : World) (leg : Leg) (log : Log) (cursor : ℕ) (progress : CurrentActivityProgress)
    (rows : List String) : EventBatch × CurrentActivityProgress :=
  let batch := readSequenceBatch log (world.keeps leg.machineId leg.filters) cursor leg.limit
  if leg.includeCurrentActivity then
    appendCurrentActivitySnapshots leg.filters rows batch leg.limit progress
  else (batch, progress)

/-- A pass of the loop. -/
def read (world : World) (leg : Leg) (log : Log) (cursor : ℕ) (progress : CurrentActivityProgress)
    (rows : List String) (timeIsUp : Bool) : Leg :=
  if log.head < cursor then leg.setPhase (.done (.error (.cursorRejected invalidCursor)))
  else
    let result := leg.batch world log cursor progress rows
    let output : MachineCursor :=
      ⟨result.1.cursor, if leg.includeCurrentActivity then some result.2 else none⟩
    if !result.1.events.isEmpty || result.1.hasMore || timeIsUp then
      leg.setPhase (.done (.ok ⟨output, result.1.events, result.1.hasMore⟩))
    else leg.setPhase (.reading result.1.cursor result.2)

/-! ### What a wait is worth -/

/-- The number after which the wait has to return events. With `from=now` and no cursor it is only
chosen when the wait runs. -/
def base (leg : Leg) : Option ℕ :=
  match leg.cursor with
  | some cursor => some cursor.durable
  | none => if leg.fromNow then none else some 0

/-- An answer has the events after `base` up to its cursor, and rows about current activity. -/
structure Answers (log : Log) (keep : TaskEvent → Bool) (base : ℕ) (response : Response) :
    Prop where
  le : base ≤ response.cursor.durable
  le_head : response.cursor.durable ≤ log.head
  events : ∃ rows : List String, response.events =
    (log.between keep base response.cursor.durable).map .durable ++ rows.map .synthetic

/-- Where a wait stands between its base and the head. -/
def Stands (log : Log) (keep : TaskEvent → Bool) (base : ℕ) : LegPhase → Prop
  | .starting => True
  | .reading cursor _ => base ≤ cursor ∧ cursor ≤ log.head ∧ log.between keep base cursor = []
  | .done (.ok response) => Answers log keep base response
  | .done (.error _) => True

/-- A wait without a base has started anywhere up to the bound, if there is one. -/
def Ok (world : World) (log : Log) (bound : Option ℕ) (leg : Leg) : Prop :=
  ∃ base, (leg.base = some base ∨ leg.base = none ∧ ∀ n, bound = some n → base ≤ n) ∧
    base ≤ log.head ∧ Stands log (world.keeps leg.machineId leg.filters) base leg.phase

variable {world : World} {log : Log} {bound : Option ℕ} {leg : Leg}

/-- A wait goes on from where it stands. -/
theorem ok_setPhase (h : leg.Ok world log bound) {phase : LegPhase}
    (hstands : ∀ base, Stands log (world.keeps leg.machineId leg.filters) base leg.phase →
      Stands log (world.keeps leg.machineId leg.filters) base phase) :
    (leg.setPhase phase).Ok world log bound := by
  obtain ⟨base, hbase, hle, hold⟩ := h
  exact ⟨base, hbase, hle, hstands base hold⟩

theorem ok_start (h : leg.Ok world log bound)
    (hstart : leg.base = none → ∀ n, bound = some n → log.head ≤ n) :
    (leg.start log).Ok world log bound := by
  have hreading : ∀ base, base ≤ log.head → base ≤ base ∧ base ≤ log.head ∧
        log.between (world.keeps leg.machineId leg.filters) base base = [] :=
    fun base hle => ⟨Nat.le_refl _, hle, CursorLog.between_of_le (Nat.le_refl _)⟩
  obtain ⟨base, hbase, hle, -⟩ := h
  rw [start]
  cases hcursor : leg.cursor with
  | some cursor =>
    have hsome : leg.base = some cursor.durable := by rw [Leg.base, hcursor]
    rcases hbase with hbase | hbase
    · cases hsome.symm.trans hbase
      exact ⟨_, .inl hsome, hle, hreading _ hle⟩
    · cases hsome.symm.trans hbase.1
  | none =>
    by_cases hnow : leg.fromNow = true
    · have hnone : leg.base = none := by
        rw [Leg.base, hcursor]
        exact if_pos hnow
      refine ⟨log.head, .inr ⟨hnone, hstart hnone⟩, Nat.le_refl _, ?_⟩
      rw [if_pos hnow]
      exact hreading _ (Nat.le_refl _)
    · refine ⟨0, .inl ?_, Nat.zero_le _, ?_⟩
      · change leg.base = some 0
        rw [Leg.base, hcursor]
        exact if_neg hnow
      · change Stands _ _ _ (.reading (if leg.fromNow then log.head else 0) _)
        rw [if_neg hnow]
        exact hreading _ (Nat.zero_le _)

/-- The events of a batch are those of the page, with rows about current activity after them. -/
theorem batch_events (world : World) (leg : Leg) (log : Log) (cursor : ℕ)
    (progress : CurrentActivityProgress) (rows : List String) :
    (leg.batch world log cursor progress rows).1.cursor =
        (log.page (world.keeps leg.machineId leg.filters) cursor leg.limit).cursor ∧
      ∃ synthetic : List String, (leg.batch world log cursor progress rows).1.events =
        (log.page (world.keeps leg.machineId leg.filters) cursor leg.limit).records.map .durable ++
          synthetic.map .synthetic := by
  have hplain : ∀ page : LogPage TaskEvent, ∃ synthetic : List String,
      page.records.map ReturnedEvent.durable =
        page.records.map .durable ++ synthetic.map .synthetic :=
    fun page => ⟨[], (List.append_nil _).symm⟩
  rw [batch, readSequenceBatch]
  split
  next =>
    rw [appendCurrentActivitySnapshots]
    split
    next => exact ⟨rfl, hplain _⟩
    next =>
    split
    next => exact ⟨rfl, hplain _⟩
    next => exact ⟨rfl, _, rfl⟩
  next => exact ⟨rfl, hplain _⟩

theorem read_phase (world : World) (leg : Leg) (log : Log) (cursor : ℕ)
    (progress : CurrentActivityProgress) (rows : List String) (timeIsUp : Bool) :
    ∃ phase, leg.read world log cursor progress rows timeIsUp = leg.setPhase phase := by
  rw [read]
  split
  next => exact ⟨_, rfl⟩
  next =>
  dsimp only
  split <;> exact ⟨_, rfl⟩

theorem ok_read {cursor : ℕ} {progress : CurrentActivityProgress}
    (hphase : leg.phase = .reading cursor progress) (h : leg.Ok world log bound)
    (rows : List String) (timeIsUp : Bool) :
    (leg.read world log cursor progress rows timeIsUp).Ok world log bound := by
  obtain ⟨hcursor, synthetic, hevents⟩ := batch_events world leg log cursor progress rows
  rw [read]
  split
  next => exact ok_setPhase h fun _ _ => trivial
  next =>
  dsimp only
  split
  all_goals
    refine ok_setPhase h fun base hstands => ?_
    rw [hphase] at hstands
    obtain ⟨hbase, hcap, hnone⟩ := hstands
    obtain ⟨hrecords, hpage, hhead⟩ := CursorLog.page_records
      (world.keeps leg.machineId leg.filters) leg.limit hcap
    have hle := Nat.le_trans hbase hpage
    rw [← List.nil_append (log.between _ _ _), ← hnone, CursorLog.between_trans hbase hpage]
      at hrecords
    rw [← hcursor] at hrecords hle hhead
  case isTrue => exact ⟨hle, hhead, synthetic, hrecords ▸ hevents⟩
  case isFalse hnothing =>
    refine ⟨hle, hhead, ?_⟩
    -- nothing came, so the page had no records
    have hnil : (leg.batch world log cursor progress rows).1.events = [] := by
      simp only [Bool.or_eq_true, Bool.not_eq_true', not_or] at hnothing
      simpa using hnothing.1.1
    rw [hevents] at hnil
    rw [← hrecords]
    exact List.map_eq_nil_iff.mp (List.append_eq_nil_iff.mp hnil).1

/-- An event that is appended is after everything that the wait has looked at. -/
theorem ok_append {event : TaskEvent} (hevent : log.head < event.seq) (h : leg.Ok world log bound) :
    leg.Ok world (log.append event hevent) bound := by
  have hgrows : log.head ≤ (log.append event hevent).head := Nat.le_of_lt hevent
  obtain ⟨base, hbase, hle, hstands⟩ := h
  refine ⟨base, hbase, Nat.le_trans hle hgrows, ?_⟩
  cases hphase : leg.phase with
  | starting => trivial
  | reading cursor progress =>
    rw [hphase] at hstands
    obtain ⟨hcursor, hhead, hnone⟩ := hstands
    refine ⟨hcursor, Nat.le_trans hhead hgrows, ?_⟩
    rw [CursorLog.between_append hevent hhead]
    exact hnone
  | done result =>
    cases result with
    | error => trivial
    | ok response =>
      rw [hphase] at hstands
      obtain ⟨hcursor, hhead, rows, hevents⟩ := hstands
      refine ⟨hcursor, Nat.le_trans hhead hgrows, rows, ?_⟩
      rw [CursorLog.between_append hevent hhead]
      exact hevents

end Leg

end Kanna.TaskEvents
