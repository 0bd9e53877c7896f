import Kanna.Daemon.ComposerLedger

/-!
# Attesting an empty composer

Every session that any interleaving of producers, the PTY writer, the mirror and
calls of `attest_empty_composer` leads to is explained by its log
(`ComposerSession.Valid`), one lemma for each move. From it, two results:
`attest_clears_on_newer_frame` says what a frame that clears a known ledger must
include, `composerAttestation_of_log` what `composer_attestation` means.
-/

namespace Kanna

/-! ### Every reachable session keeps its log -/

/-- What a call of `attest_empty_composer` knows is true of the log: a sample is no
larger than what had been mirrored, and a frame is at least as new as the sample. -/
def AttestPhase.Valid (log : List LedgerEvent) : AttestPhase → Prop
  | .idle => True
  | .unresolved => True
  | .sampled chunks => chunks ≤ mirroredCount log
  | .read chunks frame => frame <:+ log ∧ chunks ≤ mirroredCount frame

open List

theorem AttestPhase.Valid.cons {log : List LedgerEvent} (event : LedgerEvent) :
    ∀ {phase : AttestPhase}, phase.Valid log → phase.Valid (event :: log)
  | .idle, _ => trivial
  | .unresolved, _ => trivial
  | .sampled _, h => Nat.le_trans h (mirroredCount_le_of_suffix (suffix_cons _ _))
  | .read _ _, h => ⟨h.1.trans (suffix_cons _ _), h.2⟩

namespace ComposerSession

/-- The log explains the session. -/
structure Valid (record : DraftRecord) (s : ComposerSession) : Prop where
  /-- the ledger is the fold over the log -/
  ledger : s.input = ledgerOf record s.log
  /-- every chunk is in the log -/
  chunks : s.mirroredChunks = mirroredCount s.log
  /-- a draft that can leave text has a number -/
  numbered : ∀ {data : List UInt8} {kind : RawInputKind} {draft : Option ℕ},
    .rawInput data kind draft ∈ s.log → (LedgerEvent.rawInput data kind none).IsTyping →
      ∃ n < s.input.declaredDraftWritesEnqueued, draft = some n
  /-- completions are in the log, in order -/
  completed : ∀ {n : ℕ}, n < s.input.declaredDraftWritesCompleted → .completed n ∈ s.log
  /-- an open queue holds every declared draft that has not completed, in order -/
  queued : s.closed = false → ∃ n,
    s.input.declaredDraftWritesEnqueued = s.input.declaredDraftWritesCompleted + n ∧
      s.queue.filterMap PendingInput.declaredDraft =
        List.range' s.input.declaredDraftWritesCompleted n
  /-- the writer drops no declared draft -/
  nonempty : ∀ routed ∈ s.queue, routed.declaredDraft.isSome = true → routed.data ≠ []
  /-- the calls of `attest_empty_composer` -/
  calls : ∀ call, (s.calls call).Valid s.log

variable {record : DraftRecord} {s s' : ComposerSession} (routed : PendingInput)

/-- Sending changes nothing but the queue. -/
theorem send_eq : s.send routed = { s with queue := (s.send routed).queue } := by
  rw [send]
  split_ifs <;> rfl

theorem send_input : (s.send routed).input = s.input := by rw [send_eq]

theorem send_queue_of_open (h : s.closed = false) (routed : PendingInput) :
    (s.send routed).queue = s.queue ++ [routed] := by
  rw [send, if_neg (by rw [h]; decide)]

theorem mem_send_queue {routed other : PendingInput} (h : other ∈ (s.send routed).queue) :
    other ∈ s.queue ∨ other = routed := by
  rw [send] at h
  split_ifs at h
  · exact .inl h
  · rwa [mem_append, mem_singleton] at h

theorem valid_start (record : DraftRecord) : (start record).Valid record where
  ledger := rfl
  chunks := rfl
  numbered := by rintro _ _ _ ⟨⟩
  completed := by
    intro n hn
    cases hn
  queued := fun _ => ⟨0, rfl, rfl⟩
  nonempty := by rintro _ ⟨⟩
  calls := fun _ => trivial

open ComposerSession InputCoordinationState

namespace Valid

variable (hs : s.Valid record)

include hs

/-- Moving a call on is sound if what it knows is. -/
theorem setCall {call : ℕ} {phase : AttestPhase}
    (hphase : phase.Valid s.log) : (s.setCall call phase).Valid record :=
  { hs with
    calls := by
      intro other
      by_cases hcall : other = call
      · subst hcall
        simpa [ComposerSession.setCall] using hphase
      · simpa [ComposerSession.setCall, hcall] using hs.calls other }

/-- Sending anything but a declared draft. -/
theorem send {routed : PendingInput} (hrouted : routed.declaredDraft = none) :
    (s.send routed).Valid record := by
  rw [send_eq]
  refine { hs with queued := fun hopen => ?_, nonempty := fun other hother hdraft => ?_ }
  · rw [send_queue_of_open (s := s) hopen, filterMap_append]
    simpa [hrouted] using hs.queued hopen
  · obtain hother | rfl := mem_send_queue hother
    · exact hs.nonempty other hother hdraft
    · rw [hrouted] at hdraft
      cases hdraft

/-- Raw input is logged and sent; a declared draft has the next number. -/
theorem enqueueRawInput (data : List UInt8) (kind : RawInputKind) :
    (s.enqueueRawInput data kind).Valid record := by
  obtain ⟨hcompleted, -, hcases⟩ := s.input.enqueueRawInput_counters data kind
  rw [ComposerSession.enqueueRawInput]
  dsimp only
  rw [send_eq]
  exact {
    ledger := by rw [ledgerOf, ← hs.ledger]
    chunks := hs.chunks.trans (count_cons_of_ne (by rintro ⟨⟩)).symm
    numbered := by
      intro data' kind' draft hmem htyping
      obtain heq | hmem := mem_cons.mp hmem
      · cases heq
        obtain ⟨hnot, -⟩ | ⟨-, hrouted, henqueued⟩ := hcases
        · exact absurd htyping hnot
        · rw [hrouted, henqueued]
          exact ⟨_, Nat.lt_succ_self _, rfl⟩
      · obtain ⟨n, hn, hdraft⟩ := hs.numbered hmem htyping
        refine ⟨n, ?_, hdraft⟩
        obtain ⟨-, -, henqueued⟩ | ⟨-, -, henqueued⟩ := hcases <;> dsimp only <;> omega
    completed := fun hn => mem_cons_of_mem _ (hs.completed (hcompleted ▸ hn))
    queued := by
      intro hopen
      obtain ⟨n, hn, hqueue⟩ := hs.queued hopen
      rw [send_queue_of_open, filterMap_append, hcompleted, hqueue]
      · obtain ⟨-, hrouted, henqueued⟩ | ⟨-, hrouted, henqueued⟩ := hcases
        · rw [hrouted, henqueued]
          exact ⟨n, hn, append_nil _⟩
        · rw [hrouted, henqueued, hn]
          refine ⟨n + 1, rfl, ?_⟩
          rw [range'_concat, Nat.one_mul]
          rfl
      · exact hopen
    nonempty := by
      intro other hother hdraft
      obtain hother | rfl := mem_send_queue hother
      · exact hs.nonempty other hother hdraft
      · obtain ⟨-, hrouted, -⟩ | ⟨hdata, hrouted, -⟩ := hcases
        · rw [hrouted] at hdraft
          cases hdraft
        · rw [hrouted]
          exact hdata
    calls := fun call => (hs.calls call).cons _ }

omit hs

variable {front : PendingInput} {rest : List PendingInput}

variable (hs : s.Valid record)

include hs

/-- The writer is done with an input that is no declared draft. -/
theorem drop_front (hqueue : s.queue = front :: rest) (hfront : front.declaredDraft = none) :
    ComposerSession.Valid record { s with queue := rest } :=
  { hs with
    queued := by
      intro hopen
      have := hs.queued hopen
      rwa [hqueue, filterMap_cons_none hfront] at this
    nonempty := fun routed hrouted =>
      hs.nonempty routed (hqueue ▸ mem_cons_of_mem _ hrouted) }

/-- A declared draft reaches the PTY: it is the oldest that had not. -/
theorem complete_front (hopen : s.closed = false) (hqueue : s.queue = front :: rest) {draft : ℕ}
    (hfront : front.declaredDraft = some draft) :
    ComposerSession.Valid record { s with
        input := s.input.completeDeclaredDraftWrite s.mirroredChunks
        queue := rest
        log := .completed draft :: s.log } := by
  obtain ⟨n, hn, hdrafts⟩ := hs.queued hopen
  rw [hqueue, filterMap_cons_some hfront] at hdrafts
  cases n with
  | zero => cases hdrafts
  | succ n =>
    rw [range'_succ] at hdrafts
    obtain ⟨rfl, hrest⟩ := cons.inj hdrafts
    exact {
      ledger := by rw [ledgerOf, ← hs.ledger, ← hs.chunks]
      chunks := hs.chunks.trans (count_cons_of_ne (by rintro ⟨⟩)).symm
      numbered := fun hmem => hs.numbered (mem_of_ne_of_mem (by rintro ⟨⟩) hmem)
      completed := by
        intro m hm
        obtain hm | rfl := Nat.lt_succ_iff_lt_or_eq.mp hm
        · exact mem_cons_of_mem _ (hs.completed hm)
        · exact mem_cons_self
      queued := fun _ => ⟨n, by
        simp only [completeDeclaredDraftWrite]
        omega, hrest⟩
      nonempty := fun routed hrouted =>
        hs.nonempty routed (hqueue ▸ mem_cons_of_mem _ hrouted)
      calls := fun call => (hs.calls call).cons _ }

theorem writeFront (hopen : s.closed = false) (hqueue : s.queue = front :: rest) :
    (s.writeFront front rest).Valid record := by
  rw [ComposerSession.writeFront]
  split_ifs with hempty
  · refine hs.drop_front hqueue (Option.not_isSome_iff_eq_none.mp fun hdraft => ?_)
    exact hs.nonempty front (hqueue ▸ mem_cons_self) hdraft hempty.2
  · split
    next draft hfront => exact hs.complete_front hopen hqueue hfront
    next hfront => exact hs.drop_front hqueue hfront

theorem mirrorOutput :
    ComposerSession.Valid record
      { s with mirroredChunks := s.mirroredChunks + 1, log := .mirrored :: s.log } :=
  { hs with
    chunks := (congrArg (· + 1) hs.chunks).trans count_cons_self.symm
    numbered := fun hmem => hs.numbered (mem_of_ne_of_mem (by rintro ⟨⟩) hmem)
    completed := fun hn => mem_cons_of_mem _ (hs.completed hn)
    calls := fun call => (hs.calls call).cons _ }

/-- A successful attestation touches neither counters nor queue. -/
theorem clear :
    ComposerSession.Valid record { s with input := s.input.clear, log := .attested :: s.log } :=
  { hs with
    ledger := by rw [ledgerOf, ← hs.ledger]
    chunks := hs.chunks.trans (count_cons_of_ne (by rintro ⟨⟩)).symm
    numbered := fun hmem => hs.numbered (mem_of_ne_of_mem (by rintro ⟨⟩) hmem)
    completed := fun hn => mem_cons_of_mem _ (hs.completed hn)
    calls := fun call => (hs.calls call).cons _ }

theorem decide (call chunks : ℕ) : (s.decide call chunks).Valid record := by
  rw [ComposerSession.decide]
  split_ifs
  · exact hs.clear.setCall trivial
  · exact hs.setCall trivial

/-- Every move keeps the log. -/
theorem step {move : ComposerMove} (h : s.step move = some s') : s'.Valid record := by
  cases move <;> simp only [ComposerSession.step] at h
  case enqueueRawInput data kind =>
    cases h
    exact hs.enqueueRawInput data kind
  case enqueueLogicalInput data =>
    cases h
    exact hs.send rfl
  case write =>
    split at h
    next front rest hopen hqueue =>
      cases h
      exact hs.writeFront hopen hqueue
    next => cases h
  case closeWriter =>
    cases h
    exact { hs with queued := by rintro ⟨⟩ }
  case mirrorOutput =>
    cases h
    exact hs.mirrorOutput
  case attestCheck call =>
    split at h
    · cases h
      split_ifs
      · exact hs.setCall trivial
      · exact hs
    · cases h
  case attestSample call =>
    split at h
    · cases h
      exact hs.setCall hs.chunks.le
    · cases h
  case attestRead call composer =>
    split at h
    next chunks hcall =>
      cases h
      have hchunks := hs.calls call
      rw [hcall] at hchunks
      split_ifs
      · exact hs.setCall ⟨suffix_rfl, hchunks⟩
      · exact hs.setCall trivial
    next => cases h
  case attestDecide call =>
    split at h
    · cases h
      exact hs.decide _ _
    · cases h

omit hs

end Valid

/-- The log explains every reachable session. -/
theorem valid_of_run {moves : List ComposerMove} (h : run step (start record) moves = some s) :
    s.Valid record :=
  (always_of_invariant (fun hs hstep => hs.step hstep) moves (valid_start record)).last h

/-- **Declared drafts complete in order**: along every run, an open queue holds the declared drafts
that have not completed, by number and without a gap. -/
theorem declared_drafts_in_order (record : DraftRecord) (moves : List ComposerMove) :
    Always step (fun s => s.closed = false → ∃ n,
      s.input.declaredDraftWritesEnqueued = s.input.declaredDraftWritesCompleted + n ∧
        s.queue.filterMap PendingInput.declaredDraft =
          List.range' s.input.declaredDraftWritesCompleted n) (start record) moves :=
  (always_of_invariant (fun hs hstep => hs.step hstep) moves (valid_start record)).mono Valid.queued

/-! ### What an attestation rests on -/

/-- Every declared draft accepted so far has completed, and the frame shows a chunk
mirrored after the last of them did. -/
def Evidence (s : ComposerSession) (frame : List LedgerEvent) : Prop :=
  (∀ {data : List UInt8} {kind : RawInputKind} {draft : Option ℕ},
    .rawInput data kind draft ∈ s.log → (LedgerEvent.rawInput data kind none).IsTyping →
      ∃ n, draft = some n ∧ .completed n ∈ s.log) ∧
    FramePostDates s.log frame

/-- A frame that clears a known ledger is evidence. -/
theorem Valid.evidence (hs : s.Valid record) {call chunks : ℕ} {frame : List LedgerEvent}
    (hcall : s.calls call = .read chunks frame) (hclears : s.input.clears chunks = true)
    (hknown : s.input.rawInputDraftStateKnown = true) : s.Evidence frame := by
  rw [clears, if_pos hknown, Bool.and_eq_true, Bool.and_eq_true] at hclears
  have hlanded := of_decide_eq_true hclears.1.2
  have hnewer := of_decide_eq_true hclears.2
  have hphase := hs.calls call
  rw [hcall] at hphase
  refine ⟨fun hmem htyping => ?_, ?_⟩
  · obtain ⟨n, hn, hdraft⟩ := hs.numbered hmem htyping
    exact ⟨n, hdraft, hs.completed (hlanded ▸ hn)⟩
  · rw [hs.ledger] at hnewer
    exact framePostDates_of_lt hphase.1 (Nat.lt_of_lt_of_le hnewer hphase.2)

theorem writeFront_composerAttestation (front : PendingInput) (rest : List PendingInput) :
    (s.writeFront front rest).input.composerAttestation = s.input.composerAttestation := by
  rw [writeFront]
  split_ifs
  · rfl
  · split <;> rfl

/-- Only a submission or a successful attestation makes a typed composer untyped. -/
theorem untyped_by {move : ComposerMove} (h : s.step move = some s')
    (htyped : s.input.composerAttestation = .typed)
    (huntyped : s'.input.composerAttestation ≠ .typed) :
    (∃ data, move = .enqueueRawInput data .submission) ∨
      ∃ call chunks frame, move = .attestDecide call ∧ s.calls call = .read chunks frame ∧
        s.input.clears chunks = true := by
  cases move <;> simp only [step] at h
  case enqueueRawInput data kind =>
    cases h
    by_cases hkind : kind = .submission
    · exact .inl ⟨data, by rw [hkind]⟩
    · refine absurd ?_ huntyped
      rw [enqueueRawInput, send_input]
      exact enqueueRawInput_typed hkind htyped
  case enqueueLogicalInput data =>
    cases h
    exact absurd (by rwa [send_input]) huntyped
  case write =>
    split at h
    · cases h
      exact absurd (by rwa [writeFront_composerAttestation]) huntyped
    · cases h
  case closeWriter | mirrorOutput =>
    cases h
    exact absurd htyped huntyped
  case attestCheck call =>
    split at h
    · cases h
      refine absurd ?_ huntyped
      split_ifs <;> exact htyped
    · cases h
  case attestDecide call =>
    split at h
    next chunks frame hcall =>
      cases h
      by_cases hclears : s.input.clears chunks = true
      · exact .inr ⟨call, chunks, frame, rfl, hcall, hclears⟩
      · rw [decide, if_neg hclears] at huntyped
        exact absurd htyped huntyped
    next => cases h
  all_goals
    split at h
    · cases h
      exact absurd htyped huntyped
    · cases h

/-- **A frame clears a known ledger only if it is newer than every draft**: in every
session any interleaving leads to, a call of `attest_empty_composer` that clears a
ledger whose state was known has waited for every declared draft, and the frame it
read shows a chunk mirrored after the last of them completed. So the composer goes
from typed to not typed only by a submission or on such a frame. -/
theorem attest_clears_on_newer_frame (record : DraftRecord) (moves : List ComposerMove)
    (s : ComposerSession) (h : run step (start record) moves = some s) :
    (∀ call chunks frame, s.calls call = .read chunks frame → s.input.clears chunks = true →
      s.input.rawInputDraftStateKnown = true → s.Evidence frame) ∧
      ∀ move s', s.step move = some s' → s.input.composerAttestation = .typed →
        s'.input.composerAttestation = .notTyped →
        (∃ data, move = .enqueueRawInput data .submission) ∨
          ∃ call chunks frame, move = .attestDecide call ∧ s.calls call = .read chunks frame ∧
            s.Evidence frame := by
  have hs := valid_of_run h
  refine ⟨fun call chunks frame hcall => hs.evidence hcall, fun move s' hstep htyped hnot => ?_⟩
  refine (untyped_by hstep htyped (by rw [hnot]; decide)).imp_right ?_
  rintro ⟨call, chunks, frame, hmove, hcall, hclears⟩
  have hknown := (composerAttestation_eq_typed_iff.mp htyped).1
  exact ⟨call, chunks, frame, hmove, hcall, hs.evidence hcall hclears hknown⟩

/-- A fresh session. -/
def freshRecord : DraftRecord := ⟨false, true, some 0⟩

/-- Somebody types a letter, it is echoed, and the frame shows an empty composer. -/
def typedAndErased : List ComposerMove :=
  [.enqueueRawInput [0x61] .draft, .write, .mirrorOutput, .attestCheck 0, .attestSample 0,
    .attestRead 0 (some .empty)]

theorem typedAndErased_clears : ∃ s chunks frame,
    run step (start freshRecord) typedAndErased = some s ∧ s.calls 0 = .read chunks frame ∧
      s.input.clears chunks = true ∧ s.input.composerAttestation = .typed ∧ s.Evidence frame :=
  ⟨_, _, _, rfl, rfl, rfl, rfl,
    (attest_clears_on_newer_frame freshRecord typedAndErased _ rfl).1 0 _ _ rfl rfl rfl⟩

/-- **What the attestation means**: counted from an empty composer on, it is typed
exactly when a draft with content was accepted since the last submission or successful
attestation, and not typed otherwise; an inherited draft nobody counted leaves it
unknown until the first of these. -/
theorem composerAttestation_of_log (record : DraftRecord) (moves : List ComposerMove)
    (s : ComposerSession) (h : run step (start record) moves = some s) :
    (Counted record s.log →
      (s.input.composerAttestation = .typed ↔ TypedSinceBoundary s.log) ∧
        (s.input.composerAttestation = .notTyped ↔ ¬ TypedSinceBoundary s.log)) ∧
      (record.typedDraftBytes = none → (∀ event ∈ s.log, event.isBoundary = false) →
        s.input.composerAttestation = .unknown) := by
  rw [(valid_of_run h).ledger]
  refine ⟨fun hcounted => ?_, fun hrecord hlog => ?_⟩
  · obtain ⟨hknown, n, hn, hiff⟩ := ledgerOf_counts hcounted
    rw [composerAttestation_eq_typed_iff, composerAttestation_eq_notTyped_iff, ← hiff, hn]
    simp [hknown]
  · rw [composerAttestation, ledgerOf_uncounted hrecord hlog]
    split_ifs <;> rfl

/-- A session with an inherited draft that nobody counted. -/
def inheritedRecord : DraftRecord := ⟨true, false, none⟩

theorem composerAttestation_of_typedAndErased :
    (∃ s, run step (start freshRecord) typedAndErased = some s ∧
      s.input.composerAttestation = .typed ∧ TypedSinceBoundary s.log) ∧
    ∃ s, run step (start inheritedRecord) [.enqueueRawInput [0x61] .draft] = some s ∧
      s.input.composerAttestation = .unknown := by
  refine ⟨⟨_, rfl, rfl, ?_⟩, ⟨_, rfl, ?_⟩⟩
  · exact (((composerAttestation_of_log freshRecord typedAndErased _ rfl).1
      (.inl ⟨rfl, rfl⟩)).1).mp rfl
  · refine (composerAttestation_of_log inheritedRecord [.enqueueRawInput [0x61] .draft] _ rfl).2
      rfl ?_
    intro event hevent
    cases mem_singleton.mp hevent
    rfl

end ComposerSession

end Kanna
