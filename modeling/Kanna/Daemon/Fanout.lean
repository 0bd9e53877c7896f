import Mathlib.Algebra.BigOperators.Group.List.Basic
import Mathlib.Data.List.Basic

/-!
# Lag-aware fanout

`crates/daemon/src/fanout.rs`: every attached writer and every observer of a
session owns a mailbox, drained by its own writer task. `FanoutState` only ever
enqueues; a subscriber whose backlog would exceed the byte budget is marked
lagged and gets nothing until its backlog has drained and a fresh snapshot
resyncs it.

* `Subscriber` — one registration, with the state it shares with its writer
  task: mailbox, byte counter, flags, and where the task stands. First what the
  fanout does to it, then what its writer task does.
* `FanoutState` — the registry and its operations, as in the source. What leaves
  the registry is returned beside it, since a writer task may outlive its
  registration.
-/

namespace Kanna

universe u

/-- How a client follows a session. -/
inductive SubscriberKind where
  /-- `AttachSnapshot` -/
  | attached
  /-- `Observe`, `ObserveSnapshot` -/
  | observer
  deriving DecidableEq

/-- One serialized line. Of the text only its length matters here: that of the
JSON plus the newline. -/
structure EventLine (E : Type u) : Type u where
  /-- the event the line spells out -/
  event : E
  /-- bytes of its JSON -/
  jsonBytes : ℕ
  deriving DecidableEq

/-- What the writer task of a registration is doing. -/
inductive WriterPhase (E : Type u) : Type u where
  /-- about to receive from the mailbox -/
  | idle
  /-- holds a line and waits for the socket -/
  | holding (line : EventLine E)
  /-- writes a line, with the socket locked -/
  | writing (line : EventLine E)
  /-- the task is over and the mailbox is gone -/
  | ended
  deriving DecidableEq

/-- What the fanout did with a line for one registration. -/
inductive Offer (E : Type u) : Type u where
  /-- put into the mailbox -/
  | queued (line : EventLine E)
  /-- skipped because the subscriber lags -/
  | dropped (line : EventLine E)
  deriving DecidableEq

/-- A registration and its writer task. The last three fields are history. -/
structure Subscriber (E : Type u) : Type u where
  /-- the writer task -/
  task : ℕ
  /-- the socket, by the address of its writer -/
  writerId : ℕ
  /-- the list it is registered in -/
  kind : SubscriberKind
  /-- lines queued for the writer task, oldest first -/
  mailbox : List (EventLine E)
  /-- bytes enqueued and not yet written -/
  pendingBytes : ℕ
  /-- the lag flag the writer task sees -/
  lagged : Bool
  /-- the registration was replaced or removed -/
  cancelled : Bool
  /-- when the subscriber fell behind -/
  laggedSince : Option ℕ
  /-- the writer task was told to stop at once -/
  aborted : Bool
  /-- where the writer task stands -/
  phase : WriterPhase E
  /-- what was queued and what was dropped, oldest first -/
  offers : List (Offer E)
  /-- total length of the last batch of initial or resync events -/
  batch : ℕ
  /-- that batch was queued into an empty mailbox, with nothing being written -/
  batchIntoEmpty : Bool
  deriving DecidableEq

variable {E : Type u}

namespace EventLine

/-- Bytes of the line, newline included. -/
def len (line : EventLine E) : ℕ := line.jsonBytes + 1

/-- `EventLine::serialize`, given the length of each event's JSON. -/
def serialize (json : E → Option ℕ) (event : E) : Option (EventLine E) :=
  (json event).map (EventLine.mk event)

/-- Total length of some lines. -/
def bytes (lines : List (EventLine E)) : ℕ :=
  lines.foldr (fun line total => line.len + total) 0

@[simp] theorem bytes_nil : bytes ([] : List (EventLine E)) = 0 := rfl

@[simp] theorem bytes_cons (line : EventLine E) (lines : List (EventLine E)) :
    bytes (line :: lines) = line.len + bytes lines := rfl

@[simp] theorem bytes_append (ls ms : List (EventLine E)) :
    bytes (ls ++ ms) = bytes ls + bytes ms := by
  induction ls with
  | nil => exact (Nat.zero_add _).symm
  | cons line ls ih => rw [List.cons_append, bytes_cons, bytes_cons, ih, Nat.add_assoc]

/-- No line is empty, so zero bytes are zero lines. -/
theorem eq_nil_of_bytes_eq_zero {lines : List (EventLine E)} (h : bytes lines = 0) :
    lines = [] := by
  rcases lines with _ | ⟨line, lines⟩
  · rfl
  · rw [bytes_cons, len] at h
    omega

end EventLine

namespace Subscriber

variable (s : Subscriber E)

/-- The line the writer task holds or writes. -/
def inHand : List (EventLine E) :=
  match s.phase with
  | .holding line => [line]
  | .writing line => [line]
  | .idle => []
  | .ended => []

/-- Everything enqueued and not yet written, in order. -/
def backlog : List (EventLine E) := s.inHand ++ s.mailbox

/-- `tx.is_closed()`: the writer task, and with it the mailbox, is gone. -/
def isClosed : Bool :=
  match s.phase with
  | .ended => true
  | _ => false

/-- A new registration with an empty mailbox. -/
def fresh (task writerId : ℕ) (kind : SubscriberKind) : Subscriber E where
  task := task
  writerId := writerId
  kind := kind
  mailbox := []
  pendingBytes := 0
  lagged := false
  cancelled := false
  laggedSince := none
  aborted := false
  phase := .idle
  offers := []
  batch := 0
  batchIntoEmpty := true

/-! ## What the fanout does to one subscriber -/

/-- The line is counted and put into the mailbox. -/
def accept (item : EventLine E) : Subscriber E :=
  { s with
    pendingBytes := s.pendingBytes + item.len
    mailbox := s.mailbox ++ [item]
    offers := s.offers ++ [.queued item] }

/-- `Subscriber::enqueue`; `none` if the writer task is gone (the counter is
then restored). -/
def enqueue (item : EventLine E) : Option (Subscriber E) :=
  if s.isClosed then none else some (s.accept item)

/-- Several lines, stopping at the first failure. -/
def enqueueAll (items : List (EventLine E)) : Option (Subscriber E) :=
  items.foldlM enqueue s

/-- The line is skipped for this subscriber. -/
def skip (item : EventLine E) : Subscriber E :=
  { s with offers := s.offers ++ [.dropped item] }

/-- The subscriber is marked lagged. -/
def fallBehind (now : ℕ) : Subscriber E :=
  { s with laggedSince := some now, lagged := true }

/-- The body of `enqueue_to_list`'s loop: the subscriber afterwards (`none`: it
leaves the list) and whether it reports `resync_ready`. -/
def offer (budget now : ℕ) (line : EventLine E) (s : Subscriber E) :
    Option (Subscriber E) × Bool :=
  if s.isClosed then (none, false)
  else if s.laggedSince.isSome then (some (s.skip line), s.pendingBytes == 0)
  else if budget < s.pendingBytes + line.len then
    (some ((s.skip line).fallBehind now), s.pendingBytes == 0)
  else (s.enqueue line, false)

variable {s s' : Subscriber E}

/-- What an offer amounts to for a subscriber that stays. -/
theorem offer_eq_some {budget now : ℕ} {line : EventLine E}
    (h : (s.offer budget now line).1 = some s') :
    s.isClosed = false ∧ ((s.laggedSince.isSome = true ∧ s' = s.skip line) ∨
        (s.laggedSince = none ∧ s' = (s.skip line).fallBehind now) ∨
        (s.laggedSince = none ∧ s.pendingBytes + line.len ≤ budget ∧ s' = s.accept line)) := by
  unfold offer enqueue at h
  split_ifs at h with hc hl hb <;> cases h <;> refine ⟨Bool.not_eq_true _ ▸ hc, ?_⟩
  · exact .inl ⟨hl, rfl⟩
  · exact .inr (.inl ⟨by simpa using hl, rfl⟩)
  · exact .inr (.inr ⟨by simpa using hl, by omega, rfl⟩)

/-- Only a closed subscriber leaves the list. -/
theorem offer_eq_none {budget now : ℕ} {line : EventLine E}
    (h : (s.offer budget now line).1 = none) : s.isClosed = true := by
  by_contra hc
  rw [offer, if_neg hc, enqueue, if_neg hc] at h
  split_ifs at h

/-- A batch that is exempt from the budget, recorded as such. -/
def enqueueBatch (s : Subscriber E) (lines : List (EventLine E)) : Option (Subscriber E) :=
  (s.enqueueAll lines).map fun s' =>
    { s' with batch := EventLine.bytes lines, batchIntoEmpty := s.backlog.isEmpty }

/-- The body of `resync_drained`'s loop. -/
def resync (lines : List (EventLine E)) (s : Subscriber E) : Subscriber E :=
  if s.laggedSince.isSome && s.pendingBytes == 0 then
    match s.enqueueBatch lines with
    | some s' => { s' with laggedSince := none, lagged := false }
    | none => s
  else s

/-- Several lines counted and put into the mailbox. -/
def acceptAll (s : Subscriber E) (items : List (EventLine E)) : Subscriber E :=
  { s with
    pendingBytes := s.pendingBytes + EventLine.bytes items
    mailbox := s.mailbox ++ items
    offers := s.offers ++ items.map .queued }

/-- While the writer task runs, all lines of a batch go into the mailbox. -/
theorem enqueueAll_eq (h : s.isClosed = false) (items : List (EventLine E)) :
    s.enqueueAll items = some (s.acceptAll items) := by
  induction items generalizing s with
  | nil => simp [enqueueAll, acceptAll]
  | cons item items ih =>
    have hrec : (s.accept item).enqueueAll items = _ := ih h
    rw [enqueueAll] at hrec
    rw [enqueueAll, List.foldlM_cons, enqueue, if_neg (by simp [h]), Option.bind_eq_bind,
      Option.bind_some, hrec]
    simp [acceptAll, accept, Nat.add_assoc]

/-- An exempt batch, put into the mailbox of a running task. -/
def acceptBatch (s : Subscriber E) (items : List (EventLine E)) : Subscriber E :=
  { s.acceptAll items with
    batch := EventLine.bytes items
    batchIntoEmpty := s.backlog.isEmpty }

theorem enqueueBatch_eq (h : s.isClosed = false)
    (items : List (EventLine E)) : s.enqueueBatch items = some (s.acceptBatch items) := by
  rw [enqueueBatch, enqueueAll_eq h]
  rfl

/-- What a resync amounts to. -/
theorem resync_cases (s : Subscriber E) {lines : List (EventLine E)} (hlines : lines ≠ []) :
    s.resync lines = s ∨ (s.isClosed = false ∧ s.laggedSince.isSome = true ∧ s.pendingBytes = 0 ∧
        s.resync lines = { s.acceptBatch lines with laggedSince := none, lagged := false }) := by
  obtain ⟨line, rest, rfl⟩ := List.exists_cons_of_ne_nil hlines
  unfold resync
  by_cases hready : (s.laggedSince.isSome && s.pendingBytes == 0) = true
  · rw [if_pos hready]
    rw [Bool.and_eq_true, beq_iff_eq] at hready
    by_cases hc : s.isClosed = true
    · rw [enqueueBatch, enqueueAll, List.foldlM_cons, enqueue, if_pos hc]
      exact .inl rfl
    · have hopen : s.isClosed = false := Bool.not_eq_true _ ▸ hc
      rw [enqueueBatch_eq hopen]
      exact .inr ⟨hopen, hready.1, hready.2, rfl⟩
  · rw [if_neg hready]
    exact .inl rfl

/-- `Subscriber::cancel`. -/
def cancel (s : Subscriber E) : Subscriber E := { s with cancelled := true }

/-- `Subscriber::disconnect`: the writer task is told to abort. -/
def disconnect (s : Subscriber E) : Subscriber E := { s with aborted := true }

/-- The body of `deliver_final`'s loop. -/
def takeFinal (line : EventLine E) (s : Subscriber E) : Subscriber E :=
  if s.laggedSince.isSome then s.disconnect
  else
    match s.enqueue line with
    | some s' => s'
    | none => s.disconnect

/-- What the final event amounts to. -/
theorem takeFinal_cases (s : Subscriber E) (line : EventLine E) :
    s.takeFinal line = s.disconnect ∨
      (s.isClosed = false ∧ s.laggedSince = none ∧ s.takeFinal line = s.accept line) := by
  unfold takeFinal enqueue
  split_ifs with hl hc
  · exact .inl rfl
  · exact .inl rfl
  · exact .inr ⟨Bool.not_eq_true _ ▸ hc, by simpa using hl, rfl⟩

/-! ## What the writer task does -/

/-- The steps of `spawn_writer_task`. -/
inductive WriterMove where
  /-- take the next line out of the mailbox -/
  | recv
  /-- lock the socket; go on to write unless the registration was cancelled -/
  | startWrite
  /-- the line is on the socket -/
  | finishWrite
  /-- the write failed -/
  | failWrite
  /-- the abort takes effect -/
  | stop
  deriving DecidableEq

/-- The task ends; its mailbox is dropped. -/
def close (s : Subscriber E) : Subscriber E := { s with phase := .ended, mailbox := [] }

/-- The line in hand is done with. -/
def settle (s : Subscriber E) (line : EventLine E) : Subscriber E :=
  { s with pendingBytes := s.pendingBytes - line.len, phase := .idle }

/-- One step of the writer task. -/
def writerStep (s : Subscriber E) : WriterMove → Option (Subscriber E)
  | .recv =>
    match s.phase, s.mailbox with
    | .idle, line :: rest => some { s with phase := .holding line, mailbox := rest }
    | _, _ => none
  | .startWrite =>
    match s.phase with
    | .holding line =>
      if s.cancelled then some (s.settle line).close else some { s with phase := .writing line }
    | _ => none
  | .finishWrite =>
    match s.phase with
    | .writing line => some (s.settle line)
    | _ => none
  | .failWrite =>
    match s.phase with
    | .writing line => some (s.settle line).close
    | _ => none
  | .stop => if s.aborted then some s.close else none

/-- The steps of the writer task, one by one. -/
inductive Writes (s : Subscriber E) : WriterMove → Subscriber E → Prop where
  /-- a line leaves the mailbox -/
  | recv {line : EventLine E} {rest : List (EventLine E)} (hp : s.phase = .idle)
      (hm : s.mailbox = line :: rest) :
      Writes s .recv { s with phase := .holding line, mailbox := rest }
  /-- the registration was cancelled: the task ends without writing -/
  | abandon {line : EventLine E} (hp : s.phase = .holding line) (hc : s.cancelled = true) :
      Writes s .startWrite (s.settle line).close
  /-- the task starts to write -/
  | start {line : EventLine E} (hp : s.phase = .holding line) (hc : s.cancelled = false) :
      Writes s .startWrite { s with phase := .writing line }
  /-- the line is written -/
  | finish {line : EventLine E} (hp : s.phase = .writing line) :
      Writes s .finishWrite (s.settle line)
  /-- the write fails: the task ends -/
  | fail {line : EventLine E} (hp : s.phase = .writing line) :
      Writes s .failWrite (s.settle line).close
  /-- the task is aborted -/
  | stop (ha : s.aborted = true) : Writes s .stop s.close

variable {m : WriterMove}

theorem writes_of_writerStep (h : s.writerStep m = some s') : s.Writes m s' := by
  cases m <;> simp only [writerStep] at h
  case recv =>
    split at h
    next line rest hp hm =>
      cases h
      exact .recv hp hm
    next => cases h
  case startWrite =>
    split at h
    next line hp =>
      split_ifs at h with hc <;> cases h
      · exact .abandon hp hc
      · exact .start hp (Bool.not_eq_true _ ▸ hc)
    next => cases h
  case finishWrite =>
    split at h
    next line hp =>
      cases h
      exact .finish hp
    next => cases h
  case failWrite =>
    split at h
    next line hp =>
      cases h
      exact .fail hp
    next => cases h
  case stop =>
    split at h
    next ha =>
      cases h
      exact .stop ha
    next => cases h

theorem Writes.task_eq (h : s.Writes m s') : s'.task = s.task := by
  cases h <;> rfl

/-- The line a step puts on the socket. -/
def delivers (s : Subscriber E) (m : WriterMove) : List (EventLine E) :=
  match m, s.phase with
  | .finishWrite, .writing line => [line]
  | _, _ => []

theorem delivers_eq_nil (hm : m ≠ .finishWrite) (s : Subscriber E) : s.delivers m = [] := by
  cases m with
  | finishWrite => exact absurd rfl hm
  | recv | startWrite | failWrite | stop => rfl

/-- The socket is locked by this task. -/
def isWriting (s : Subscriber E) : Bool :=
  match s.phase with
  | .writing _ => true
  | _ => false

end Subscriber

/-! ## The registry -/

/-- The subscribers of one session. -/
structure FanoutState (E : Type u) : Type u where
  /-- byte budget of each mailbox -/
  budget : ℕ
  /-- attached writers -/
  attached : List (Subscriber E)
  /-- passive observers -/
  observers : List (Subscriber E)
  deriving DecidableEq

/-- `SUBSCRIBER_MAILBOX_MAX_BYTES`. -/
def subscriberMailboxMaxBytes : ℕ := 8 * 1024 * 1024

/-- `cancel_and_remove`: who stays, and who leaves cancelled. -/
def cancelAndRemove (list : List (Subscriber E)) (writerId : ℕ) :
    List (Subscriber E) × List (Subscriber E) :=
  (list.filter fun s => s.writerId ≠ writerId,
    (list.filter fun s => s.writerId = writerId).map Subscriber.cancel)

/-- `enqueue_to_list`: who stays, who leaves, and `resync_ready`. -/
def enqueueToList (budget now : ℕ) (line : EventLine E) (list : List (Subscriber E)) :
    List (Subscriber E) × List (Subscriber E) × Bool :=
  (list.filterMap fun s => (s.offer budget now line).1,
    list.filter fun s => (s.offer budget now line).1.isNone,
    list.any fun s => (s.offer budget now line).2)

namespace FanoutState

variable (st : FanoutState E)

/-- The list of a kind. -/
def list : SubscriberKind → List (Subscriber E)
  | .attached => st.attached
  | .observer => st.observers

/-- Replace the list of a kind. -/
def setList (kind : SubscriberKind) (list : List (Subscriber E)) : FanoutState E :=
  match kind with
  | .attached => { st with attached := list }
  | .observer => { st with observers := list }

/-- `FanoutState::remove`; also who leaves. -/
def remove (kind : SubscriberKind) (writerId : ℕ) : FanoutState E × List (Subscriber E) :=
  let (kept, gone) := cancelAndRemove (st.list kind) writerId
  (st.setList kind kept, gone)

/-- `FanoutState::remove_writer_everywhere`. -/
def removeWriterEverywhere (writerId : ℕ) : FanoutState E × List (Subscriber E) :=
  let (st, goneAttached) := st.remove .attached writerId
  let (st, goneObservers) := st.remove .observer writerId
  (st, goneAttached ++ goneObservers)

/-- The registration `register` adds: initial events that do not serialize are
left out. -/
def registration (json : E → Option ℕ) (task writerId : ℕ) (kind : SubscriberKind)
    (initialEvents : List E) : Subscriber E :=
  ((Subscriber.fresh task writerId kind).enqueueBatch
    (initialEvents.filterMap (EventLine.serialize json))).getD
    (Subscriber.fresh task writerId kind)

theorem registration_eq (json : E → Option ℕ) (task writerId : ℕ) (kind : SubscriberKind)
    (initialEvents : List E) :
    registration json task writerId kind initialEvents =
      (Subscriber.fresh task writerId kind).acceptBatch
        (initialEvents.filterMap (EventLine.serialize json)) := by
  rw [registration, Subscriber.enqueueBatch_eq rfl]
  rfl

/-- `FanoutState::register`: replaces the writer's registration of that kind. -/
def register (json : E → Option ℕ) (task : ℕ) (kind : SubscriberKind)
    (writerId : ℕ) (initialEvents : List E) : FanoutState E × List (Subscriber E) :=
  let (st, gone) := st.remove kind writerId
  (st.setList kind (st.list kind ++ [registration json task writerId kind initialEvents]), gone)

/-- `FanoutState::enqueue`. -/
def enqueue (line : EventLine E) (now : ℕ) : FanoutState E × List (Subscriber E) × Bool :=
  let (attached, goneAttached, readyAttached) := enqueueToList st.budget now line st.attached
  let (observers, goneObservers, readyObservers) := enqueueToList st.budget now line st.observers
  ({ st with attached := attached, observers := observers }, goneAttached ++ goneObservers,
    readyAttached || readyObservers)

/-- `FanoutState::has_drained_lagged`. -/
def hasDrainedLagged : Bool :=
  (st.attached ++ st.observers).any fun s => s.laggedSince.isSome && s.pendingBytes == 0

/-- `FanoutState::resync_drained`: nothing happens unless every event
serializes and there is one. -/
def resyncDrained (json : E → Option ℕ) (events : List E) : FanoutState E :=
  match events.mapM (EventLine.serialize json) with
  | none => st
  | some [] => st
  | some (line :: lines) =>
    { st with
      attached := st.attached.map (Subscriber.resync (line :: lines))
      observers := st.observers.map (Subscriber.resync (line :: lines)) }

/-- `FanoutState::deliver_final`: everybody leaves, with the line or without. -/
def deliverFinal (json : E → Option ℕ) (event : E) : FanoutState E × List (Subscriber E) :=
  match EventLine.serialize json event with
  | none => (st, [])
  | some line =>
    ({ st with attached := [], observers := [] },
      (st.attached ++ st.observers).map (Subscriber.takeFinal line))

end FanoutState

end Kanna
