import Mathlib.Data.List.Infix
import Kanna.Daemon.DraftBytes
import Kanna.Lib.Run

/-!
# The composer-attestation ledger

`crates/daemon/src/session.rs`: `InputCoordinationState` counts what producers
declared typed into a session's composer, and `composer_attestation` says from it
whether text at the prompt was typed by somebody. `attest_empty_composer` may
clear the ledger on the evidence of a rendered frame. It does so in four phases
(is there something to resolve, how many chunks have been mirrored, what does the
frame show, the decision under the lock), and producers, the PTY writer and the
mirror move between any two of them.

Here each of these is one step of `ComposerSession.step`; the calls of
`attest_empty_composer` are numbered and any number of them run at once. The
writer, the mirror and the attestation of one session run in one task
(`output.rs`), so that a write's completion and a mirrored chunk are single steps.

The session keeps a log of what happened, newest first, which no function reads.
The ledger is a fold over it (`ledgerOf`), and the lemmas of this module say what the
fold computes: `framePostDates_of_lt` for the counters a frame is compared with,
`ledgerOf_counts` and `ledgerOf_uncounted` for the count of what was typed.
-/

namespace Kanna

/-- `u64::MAX`. -/
def u64Max : ℕ := 18446744073709551615

/-- `RawInputKind`: the meaning a producer declares. -/
inductive RawInputKind where
  | draft
  | submission
  | control
  deriving DecidableEq

/-- `PendingInputKind`. -/
inductive PendingInputKind where
  | raw
  | logical
  deriving DecidableEq

/-- `PendingInput`, without the acknowledgement. -/
structure PendingInput where
  /-- the bytes to write -/
  data : List UInt8
  /-- raw bytes or a delivered message -/
  kind : PendingInputKind
  /-- set for bytes that were declared a draft, with the number of that draft -/
  declaredDraft : Option ℕ

/-- `ComposerAttestation`. -/
inductive ComposerAttestation where
  | unknown
  | notTyped
  | typed
  deriving DecidableEq

/-- `ComposerState`: what a frame shows at the prompt. -/
inductive ComposerState where
  | empty
  | suggestionOnly
  | unknown

/-- `ComposerState::proves_nothing_typed`. -/
def ComposerState.provesNothingTyped : ComposerState → Bool
  | .empty => true
  | .suggestionOnly => true
  | .unknown => false

/-- The fields of `SessionRecord` a ledger starts from. -/
structure DraftRecord where
  /-- a declared draft has not crossed a submission boundary -/
  rawInputDraftActive : Bool
  /-- somebody counted this session's drafts -/
  rawInputDraftStateKnown : Bool
  /-- content bytes since the last boundary, if they were counted -/
  typedDraftBytes : Option ℕ

/-- `InputCoordinationState`. -/
structure InputCoordinationState where
  /-- a declared draft has not crossed a submission boundary -/
  rawInputDraftActive : Bool
  /-- the draft state is known -/
  rawInputDraftStateKnown : Bool
  /-- content bytes since the last boundary, if they were counted -/
  typedDraftBytes : Option ℕ
  /-- declared draft writes accepted -/
  declaredDraftWritesEnqueued : ℕ
  /-- declared draft writes that reached the PTY -/
  declaredDraftWritesCompleted : ℕ
  /-- chunks mirrored when the last of them did -/
  mirroredChunksAtLastDraftWrite : ℕ

namespace InputCoordinationState

/-- `InputCoordinationState::from_record`. -/
def fromRecord (record : DraftRecord) : InputCoordinationState where
  rawInputDraftActive := record.rawInputDraftActive
  rawInputDraftStateKnown := record.rawInputDraftStateKnown
  typedDraftBytes := record.typedDraftBytes
  declaredDraftWritesEnqueued := 0
  declaredDraftWritesCompleted := 0
  mirroredChunksAtLastDraftWrite := 0

variable (state : InputCoordinationState)

/-- `InputCoordinationState::composer_attestation`. -/
def composerAttestation : ComposerAttestation :=
  if state.rawInputDraftStateKnown then
    match state.typedDraftBytes with
    | some 0 => .notTyped
    | some _ => .typed
    | none => .unknown
  else .unknown

/-- `InputCoordinationState::attestation_unresolved`. -/
def attestationUnresolved : Bool :=
  !state.rawInputDraftStateKnown || state.rawInputDraftActive

/-- The ledger's part of `enqueue_raw_input_with_ack`, and the input it routes. -/
def enqueueRawInput (data : List UInt8) :
    RawInputKind → InputCoordinationState × PendingInput
  | .submission =>
    ({ state with
        rawInputDraftActive := false
        rawInputDraftStateKnown := true
        typedDraftBytes := some 0 },
      ⟨data, .raw, none⟩)
  | .draft =>
    if draftContentByteCount data = 0 then (state, ⟨data, .raw, none⟩)
    else
      ({ state with
          rawInputDraftActive := true
          rawInputDraftStateKnown := true
          declaredDraftWritesEnqueued := state.declaredDraftWritesEnqueued + 1
          typedDraftBytes := state.typedDraftBytes.map fun typed =>
            min (typed + draftContentByteCount data) u64Max },
        ⟨data, .raw, some state.declaredDraftWritesEnqueued⟩)
  | .control => (state, ⟨data, .raw, none⟩)

/-- `complete_declared_draft_write` when `mirroredChunks` have been mirrored. -/
def completeDeclaredDraftWrite (mirroredChunks : ℕ) : InputCoordinationState :=
  { state with
    declaredDraftWritesCompleted := state.declaredDraftWritesCompleted + 1
    mirroredChunksAtLastDraftWrite := mirroredChunks }

/-- The ledger restarts from proven-empty. -/
def clear : InputCoordinationState :=
  { state with
    rawInputDraftStateKnown := true
    rawInputDraftActive := false
    typedDraftBytes := some 0 }

/-- The decision of `attest_empty_composer` under the lock: does a frame that shows
an empty composer, read after `mirroredChunksBeforeRead` chunks, clear the ledger? -/
def clears (mirroredChunksBeforeRead : ℕ) : Bool :=
  if state.rawInputDraftStateKnown then
    state.rawInputDraftActive &&
      (state.declaredDraftWritesCompleted = state.declaredDraftWritesEnqueued) &&
      (state.mirroredChunksAtLastDraftWrite < mirroredChunksBeforeRead)
  else true

end InputCoordinationState

/-- What happened to a session, as far as the ledger is concerned. -/
inductive LedgerEvent where
  /-- raw input was accepted; a declared draft has a number -/
  | rawInput (data : List UInt8) (kind : RawInputKind) (draft : Option ℕ)
  /-- a declared draft reached the PTY -/
  | completed (draft : ℕ)
  /-- an output chunk was mirrored -/
  | mirrored
  /-- a call of `attest_empty_composer` returned true -/
  | attested
  deriving DecidableEq

namespace LedgerEvent

/-- The composer is empty at this point: a submission or a successful attestation. -/
def isBoundary : LedgerEvent → Bool
  | .rawInput _ .submission _ => true
  | .attested => true
  | _ => false

/-- A draft that can leave text at the composer. -/
def IsTyping : LedgerEvent → Prop
  | .rawInput data .draft _ => draftContentByteCount data ≠ 0
  | _ => False

end LedgerEvent

/-- How many chunks a log mirrored. -/
def mirroredCount (log : List LedgerEvent) : ℕ := log.count .mirrored

/-- The ledger after what `log` says, newest first. -/
def ledgerOf (record : DraftRecord) : List LedgerEvent → InputCoordinationState
  | [] => .fromRecord record
  | .rawInput data kind _ :: log => ((ledgerOf record log).enqueueRawInput data kind).1
  | .completed _ :: log => (ledgerOf record log).completeDeclaredDraftWrite (mirroredCount log)
  | .mirrored :: log => ledgerOf record log
  | .attested :: log => (ledgerOf record log).clear

/-- Where a call of `attest_empty_composer` stands. -/
inductive AttestPhase where
  /-- not running -/
  | idle
  /-- there is something to resolve -/
  | unresolved
  /-- the chunk count has been sampled -/
  | sampled (mirroredChunksBeforeRead : ℕ)
  /-- a frame that shows an empty composer was read, when the log was `frame` -/
  | read (mirroredChunksBeforeRead : ℕ) (frame : List LedgerEvent)

/-- A session as its composer ledger sees it. -/
structure ComposerSession where
  /-- the ledger -/
  input : InputCoordinationState
  /-- what the writer has not written, oldest first -/
  queue : List PendingInput
  /-- the writer is gone, so that sends fail -/
  closed : Bool
  /-- `mirrored_chunks` -/
  mirroredChunks : ℕ
  /-- the calls of `attest_empty_composer` -/
  calls : ℕ → AttestPhase
  /-- what happened so far, newest first; a frame is known by its log -/
  log : List LedgerEvent

/-- Who moves. -/
inductive ComposerMove where
  /-- a producer calls `enqueue_raw_input` -/
  | enqueueRawInput (data : List UInt8) (kind : RawInputKind)
  /-- a delivered message, as the bytes `logical_message_bytes` makes of it -/
  | enqueueLogicalInput (data : List UInt8)
  /-- the writer is done with the input at the front of the queue -/
  | write
  /-- the writer ends -/
  | closeWriter
  /-- `mirror_output` -/
  | mirrorOutput
  /-- the phases of a call of `attest_empty_composer` -/
  | attestCheck (call : ℕ)
  | attestSample (call : ℕ)
  | attestRead (call : ℕ) (composer : Option ComposerState)
  | attestDecide (call : ℕ)

namespace ComposerSession

/-- A session at the start, or just adopted, from its record. -/
def start (record : DraftRecord) : ComposerSession where
  input := .fromRecord record
  queue := []
  closed := false
  mirroredChunks := 0
  calls := fun _ => .idle
  log := []

variable (s : ComposerSession)

/-- `input_tx.send`: a closed channel takes nothing. -/
def send (routed : PendingInput) : ComposerSession :=
  if s.closed then s else { s with queue := s.queue ++ [routed] }

/-- Move one call of `attest_empty_composer` on. -/
def setCall (call : ℕ) (phase : AttestPhase) : ComposerSession :=
  { s with calls := Function.update s.calls call phase }

/-- `enqueue_raw_input`: the ledger changes whether or not the send succeeds. -/
def enqueueRawInput (data : List UInt8) (kind : RawInputKind) : ComposerSession :=
  let (input, routed) := s.input.enqueueRawInput data kind
  { s with input, log := .rawInput data kind routed.declaredDraft :: s.log }.send routed

/-- The writer is done with `front`: empty raw input is dropped, a declared draft
is completed. -/
def writeFront (front : PendingInput) (rest : List PendingInput) : ComposerSession :=
  if front.kind = .raw ∧ front.data = [] then { s with queue := rest }
  else
    match front.declaredDraft with
    | some draft =>
      { s with
        input := s.input.completeDeclaredDraftWrite s.mirroredChunks
        queue := rest
        log := .completed draft :: s.log }
    | none => { s with queue := rest }

/-- The locked decision of a call that sampled `chunks`. -/
def decide (call chunks : ℕ) : ComposerSession :=
  if s.input.clears chunks then
    { s with input := s.input.clear, log := .attested :: s.log }.setCall call .idle
  else s.setCall call .idle

/-- One move, if it is enabled. -/
def step : ComposerMove → Option ComposerSession
  | .enqueueRawInput data kind => some (s.enqueueRawInput data kind)
  | .enqueueLogicalInput data => some (s.send ⟨data, .logical, none⟩)
  | .write =>
    match s.closed, s.queue with
    | false, front :: rest => some (s.writeFront front rest)
    | _, _ => none
  | .closeWriter => some { s with closed := true }
  | .mirrorOutput =>
    some { s with mirroredChunks := s.mirroredChunks + 1, log := .mirrored :: s.log }
  | .attestCheck call =>
    match s.calls call with
    | .idle => some (if s.input.attestationUnresolved then s.setCall call .unresolved else s)
    | _ => none
  | .attestSample call =>
    match s.calls call with
    | .unresolved => some (s.setCall call (.sampled s.mirroredChunks))
    | _ => none
  | .attestRead call composer =>
    match s.calls call with
    | .sampled chunks =>
      -- a frame that cannot be read, or that shows text, ends the call
      some (s.setCall call
        (if composer.any ComposerState.provesNothingTyped then .read chunks s.log else .idle))
    | _ => none
  | .attestDecide call =>
    match s.calls call with
    | .read chunks _ => some (s.decide call chunks)
    | _ => none

end ComposerSession

/-! ### The ledger as a fold over the log -/

namespace InputCoordinationState

/-- What accepting raw input does to the counters, and to the input it routes: a
declared draft takes the next number and has bytes, anything else takes none. -/
theorem enqueueRawInput_counters (state : InputCoordinationState) (data : List UInt8)
    (kind : RawInputKind) :
    (state.enqueueRawInput data kind).1.declaredDraftWritesCompleted =
        state.declaredDraftWritesCompleted ∧
      (state.enqueueRawInput data kind).1.mirroredChunksAtLastDraftWrite =
        state.mirroredChunksAtLastDraftWrite ∧
      ((¬ (LedgerEvent.rawInput data kind none).IsTyping ∧
          (state.enqueueRawInput data kind).2 = ⟨data, .raw, none⟩ ∧
          (state.enqueueRawInput data kind).1.declaredDraftWritesEnqueued =
            state.declaredDraftWritesEnqueued) ∨
        (data ≠ [] ∧ (state.enqueueRawInput data kind).2 =
            ⟨data, .raw, some state.declaredDraftWritesEnqueued⟩ ∧
          (state.enqueueRawInput data kind).1.declaredDraftWritesEnqueued =
            state.declaredDraftWritesEnqueued + 1)) := by
  cases kind with
  | draft =>
    rw [enqueueRawInput]
    split_ifs with hcount
    · exact ⟨rfl, rfl, .inl ⟨fun htyping => htyping hcount, rfl, rfl⟩⟩
    · exact ⟨rfl, rfl, .inr ⟨ne_nil_of_draftContentByteCount hcount, rfl, rfl⟩⟩
  | _ => exact ⟨rfl, rfl, .inl ⟨id, rfl, rfl⟩⟩

variable {state : InputCoordinationState}

theorem composerAttestation_eq_typed_iff :
    state.composerAttestation = .typed ↔
      state.rawInputDraftStateKnown = true ∧ ∃ n, state.typedDraftBytes = some n ∧ n ≠ 0 := by
  rw [composerAttestation]
  split_ifs with hknown
  · split <;> simp_all
  · simp [hknown]

theorem composerAttestation_eq_notTyped_iff :
    state.composerAttestation = .notTyped ↔
      state.rawInputDraftStateKnown = true ∧ state.typedDraftBytes = some 0 := by
  rw [composerAttestation]
  split_ifs with hknown
  · split <;> simp_all
  · simp [hknown]

/-- Raw input other than a submission never makes a typed composer untyped. -/
theorem enqueueRawInput_typed {data : List UInt8} {kind : RawInputKind} (hkind : kind ≠ .submission)
    (htyped : state.composerAttestation = .typed) :
    (state.enqueueRawInput data kind).1.composerAttestation = .typed := by
  cases kind with
  | submission => exact absurd rfl hkind
  | control => exact htyped
  | draft =>
    rw [enqueueRawInput]
    split_ifs with hcount
    · exact htyped
    · obtain ⟨_, n, hn, hpos⟩ := composerAttestation_eq_typed_iff.mp htyped
      refine composerAttestation_eq_typed_iff.mpr ⟨rfl, _, congrArg (Option.map _) hn, ?_⟩
      simp only [u64Max]
      omega

end InputCoordinationState

variable {frame log : List LedgerEvent}

theorem mirroredCount_le_of_suffix (h : frame <:+ log) : mirroredCount frame ≤ mirroredCount log :=
  h.sublist.count_le _

open List

/-- A completion later than `rest` saw at least the chunks of `rest`. -/
theorem mirroredCount_le_ledgerOf (record : DraftRecord) {draft : ℕ} (rest : List LedgerEvent) :
    ∀ {later : List LedgerEvent}, .completed draft ∈ later →
      mirroredCount rest ≤ (ledgerOf record (later ++ rest)).mirroredChunksAtLastDraftWrite := by
  intro later
  induction later with
  | nil =>
    intro h
    cases h
  | cons event later ih =>
    intro h
    cases event with
    | completed draft' => exact mirroredCount_le_of_suffix (suffix_append _ _)
    | rawInput data kind draft' =>
      have hlater := ih ((mem_cons.mp h).resolve_left nofun)
      rw [cons_append, ledgerOf,
        ((ledgerOf record (later ++ rest)).enqueueRawInput_counters data kind).2.1]
      exact hlater
    | _ => exact ih ((mem_cons.mp h).resolve_left nofun)

/-- The frame shows a chunk that was mirrored after every completion in the log. -/
def FramePostDates (log frame : List LedgerEvent) : Prop :=
  ∃ later before, log = later ++ .mirrored :: before ∧
    (LedgerEvent.mirrored :: before) <:+ frame ∧ ∀ draft, .completed draft ∉ later

/-- A log that mirrored something, split at its newest chunk. -/
theorem exists_newest_chunk (h : 0 < mirroredCount frame) :
    ∃ later before, frame = later ++ .mirrored :: before ∧
      mirroredCount frame = mirroredCount (.mirrored :: before) := by
  induction frame with
  | nil => exact absurd h (by decide)
  | cons event frame ih =>
    by_cases hevent : event = .mirrored
    · exact ⟨[], frame, by rw [hevent, nil_append], by rw [hevent]⟩
    · have hcount : mirroredCount (event :: frame) = mirroredCount frame := count_cons_of_ne hevent
      obtain ⟨later, before, rfl, hchunks⟩ := ih (hcount ▸ h)
      exact ⟨event :: later, before, rfl, hcount.trans hchunks⟩

variable {record : DraftRecord}

/-- A frame with more chunks than had been mirrored at the last completion shows
one of the chunks mirrored since. -/
theorem framePostDates_of_lt (hframe : frame <:+ log)
    (hlt : (ledgerOf record log).mirroredChunksAtLastDraftWrite < mirroredCount frame) :
    FramePostDates log frame := by
  obtain ⟨tail, before, hsplit, hchunks⟩ := exists_newest_chunk (Nat.zero_lt_of_lt hlt)
  obtain ⟨newer, rfl⟩ := hframe
  refine ⟨newer ++ tail, before, by rw [hsplit, append_assoc], ?_, ?_⟩
  · rw [hsplit]
    exact suffix_append _ _
  · -- a completion behind that chunk would have counted it
    intro draft hdraft
    have hle := mirroredCount_le_ledgerOf record (.mirrored :: before) hdraft
    rw [append_assoc, ← hsplit, ← hchunks] at hle
    omega

/-- Something typed since the composer was last known to be empty. -/
def TypedSinceBoundary (log : List LedgerEvent) : Prop :=
  ∃ event ∈ log.takeWhile fun event => !event.isBoundary, event.IsTyping

variable {event : LedgerEvent}

theorem not_typedSinceBoundary_cons
    (h : event.isBoundary = true) : ¬ TypedSinceBoundary (event :: log) := by
  rintro ⟨e, he, _⟩
  rw [takeWhile_cons_of_neg (by rw [h]; decide)] at he
  cases he

theorem typedSinceBoundary_cons (h : event.isBoundary = false) :
    TypedSinceBoundary (event :: log) ↔ event.IsTyping ∨ TypedSinceBoundary log := by
  rw [TypedSinceBoundary, takeWhile_cons_of_pos (by rw [h]; decide)]
  exact exists_mem_cons_iff _ _ _

theorem typedSinceBoundary_skip (h : event.isBoundary = false) (htyping : ¬ event.IsTyping) :
    TypedSinceBoundary (event :: log) ↔ TypedSinceBoundary log :=
  (typedSinceBoundary_cons h).trans (or_iff_right htyping)

/-- Somebody counted from an empty composer on: the session started that way, or a
boundary has been crossed. -/
def Counted (record : DraftRecord) (log : List LedgerEvent) : Prop :=
  (record.rawInputDraftStateKnown = true ∧ record.typedDraftBytes = some 0) ∨
    ∃ event ∈ log, event.isBoundary = true

theorem Counted.of_cons (h : Counted record (event :: log)) (hevent : event.isBoundary = false) :
    Counted record log := by
  refine h.imp_right ?_
  rintro ⟨e, he, hboundary⟩
  obtain rfl | he := mem_cons.mp he
  · rw [hevent] at hboundary
    cases hboundary
  · exact ⟨e, he, hboundary⟩

/-- The ledger counts exactly what was typed since the last boundary. -/
theorem ledgerOf_counts :
    ∀ {log : List LedgerEvent}, Counted record log →
      (ledgerOf record log).rawInputDraftStateKnown = true ∧
        ∃ n, (ledgerOf record log).typedDraftBytes = some n ∧ (n ≠ 0 ↔ TypedSinceBoundary log) := by
  intro log
  induction log with
  | nil =>
    rintro (⟨hknown, htyped⟩ | ⟨_, ⟨⟩, _⟩)
    refine ⟨hknown, 0, htyped, ?_⟩
    simp [TypedSinceBoundary]
  | cons event log ih =>
    intro hcounted
    cases event with
    | attested =>
      exact ⟨rfl, 0, rfl, iff_of_false (not_not_intro rfl) (not_typedSinceBoundary_cons rfl)⟩
    | rawInput data kind draft =>
      cases kind with
      | submission =>
        exact ⟨rfl, 0, rfl, iff_of_false (not_not_intro rfl) (not_typedSinceBoundary_cons rfl)⟩
      | control =>
        rw [typedSinceBoundary_skip rfl id]
        exact ih (hcounted.of_cons rfl)
      | draft =>
        obtain ⟨hknown, n, hn, hiff⟩ := ih (hcounted.of_cons rfl)
        rw [typedSinceBoundary_cons rfl, LedgerEvent.IsTyping, ledgerOf,
          InputCoordinationState.enqueueRawInput]
        split_ifs with hcount
        · exact ⟨hknown, n, hn, hiff.trans (or_iff_right (not_not_intro hcount)).symm⟩
        · refine ⟨rfl, _, congrArg (Option.map _) hn, iff_of_true ?_ (.inl hcount)⟩
          simp only [u64Max]
          omega
    | _ =>
      rw [typedSinceBoundary_skip rfl id]
      exact ih (hcounted.of_cons rfl)

/-- Nobody counted an inherited draft before the first boundary. -/
theorem ledgerOf_uncounted (hrecord : record.typedDraftBytes = none) :
    ∀ {log : List LedgerEvent}, (∀ event ∈ log, event.isBoundary = false) →
      (ledgerOf record log).typedDraftBytes = none := by
  intro log
  induction log with
  | nil => exact fun _ => hrecord
  | cons event log ih =>
    intro hlog
    have hrest := ih fun e he => hlog e (mem_cons_of_mem _ he)
    have hevent := hlog event mem_cons_self
    cases event with
    | attested => cases hevent
    | completed draft => exact hrest
    | mirrored => exact hrest
    | rawInput data kind draft =>
      cases kind with
      | submission => cases hevent
      | control => exact hrest
      | draft =>
        rw [ledgerOf, InputCoordinationState.enqueueRawInput]
        split_ifs
        · exact hrest
        · exact congrArg (Option.map _) hrest

end Kanna
