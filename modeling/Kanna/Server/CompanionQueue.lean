import Kanna.Server.CompanionRelay

/-!
# The queue and the map of pending companion frames

`take_companion` relies on the queue `ready` to hold each task that has a pending frame,
and no other, once. `publish_shared` takes the pending frame away before it reserves for
the new one and queues the task only if it was not queued already, so the two have to be
in step again whenever it lets go of the mutex.

They are, except on one path: a call that took a frame away and can reserve neither for
the new frame nor for the error frame returns and leaves the task queued without a frame.
`ready_matches_pending_iff` says that the runs without such a call are exactly those on
which queue and map agree whenever the mutex is free.
-/

namespace Kanna

open List

namespace CompanionFrameState

variable {state : CompanionFrameState} {task : String}

/-- The queue holds each task with a pending frame once, and no other. -/
def InStep (state : CompanionFrameState) : Prop :=
  state.ready.Nodup ∧ ∀ task, task ∈ state.ready ↔ task ∈ state.pending

/-- Queue and map agree but for one task: its frame was taken away, and it is queued
exactly if it had one. -/
structure Between (state : CompanionFrameState) (task : String) (wasPending : Bool) : Prop where
  nodup : state.ready.Nodup
  /-- its frame was taken out -/
  taken : task ∉ state.pending
  /-- its turn is kept -/
  queued : task ∈ state.ready ↔ wasPending = true
  others : ∀ other, other ≠ task → (other ∈ state.ready ↔ other ∈ state.pending)

theorem InStep.invalidate (h : state.InStep) (task : String) : (state.invalidate task).InStep := by
  refine ⟨h.1.filter _, fun other => ?_⟩
  simp only [CompanionFrameState.invalidate, mem_filter, decide_eq_true_eq, h.2 other,
    AList.mem_erase]
  exact and_comm

/-- `publish_shared` takes the pending frame away. -/
theorem InStep.between (h : state.InStep) (task : String) :
    Between { state with pending := state.pending.erase task } task
      (state.pending.lookup task).isSome where
  nodup := h.1
  taken := fun hmem => (AList.mem_erase.mp hmem).1 rfl
  queued := by
    rw [AList.lookup_isSome]
    exact h.2 task
  others := by
    intro other hother
    rw [AList.mem_erase]
    exact (h.2 other).trans (and_iff_right hother).symm

/-- `publish_shared` puts a frame in its place. -/
theorem Between.insert {wasPending : Bool} (h : state.Between task wasPending)
    (frame : PendingCompanionFrame) :
    InStep { state with
      ready := if wasPending then state.ready else state.ready ++ [task]
      pending := state.pending.insert task frame } := by
  cases wasPending with
  | true =>
    refine ⟨h.nodup, fun other => ?_⟩
    rw [AList.mem_insert]
    by_cases hother : other = task
    · exact iff_of_true (hother ▸ h.queued.mpr rfl) (.inl hother)
    · exact (h.others other hother).trans (or_iff_right hother).symm
  | false =>
    have hnot : task ∉ state.ready := fun hmem => absurd (h.queued.mp hmem) (by decide)
    refine ⟨nodup_append.mpr ⟨h.nodup, nodup_singleton task, ?_⟩, fun other => ?_⟩
    · rintro other hother _ hsingle rfl
      exact hnot (mem_singleton.mp hsingle ▸ hother)
    · change other ∈ state.ready ++ [task] ↔ _
      rw [AList.mem_insert, mem_append, mem_singleton]
      by_cases hother : other = task
      · exact iff_of_true (.inr hother) (.inl hother)
      · rw [h.others other hother]
        exact or_comm

/-- Giving up is harmless if there was no frame to take away. -/
theorem Between.inStep_of_new (h : state.Between task false) : state.InStep := by
  refine ⟨h.nodup, fun other => ?_⟩
  by_cases hother : other = task
  · subst hother
    exact iff_of_false (fun hmem => absurd (h.queued.mp hmem) (by decide)) h.taken
  · exact h.others other hother

/-- Giving up is harmful if there was one. -/
theorem Between.not_inStep (h : state.Between task true) : ¬ state.InStep :=
  fun hstep => h.taken ((hstep.2 task).mp (h.queued.mpr rfl))

theorem InStep.takeCompanion (h : state.InStep) : state.takeCompanion.2.InStep := by
  obtain ⟨pending, ready, generations⟩ := state
  cases ready with
  | nil => exact h
  | cons task ready =>
    obtain ⟨hnodup, hmem⟩ := h
    obtain ⟨hnot, hnodup⟩ := nodup_cons.mp hnodup
    have htask : task ∈ pending := (hmem task).mp mem_cons_self
    obtain ⟨frame, hframe⟩ := Option.isSome_iff_exists.mp (AList.lookup_isSome.mpr htask)
    rw [CompanionFrameState.takeCompanion, takeReady]
    rw [hframe]
    refine ⟨hnodup, fun other => ?_⟩
    rw [AList.mem_erase, ← hmem other, mem_cons]
    constructor
    · intro hother
      exact ⟨fun heq => hnot (heq ▸ hother), .inr hother⟩
    · rintro ⟨hne, rfl | hother⟩
      · exact absurd rfl hne
      · exact hother

end CompanionFrameState

namespace CompanionConnection

-- a reservation is used through its lemmas only: unfolding it compares with the limit
attribute [local irreducible] reserveRelayPendingBytes

variable {serialize : CompanionFrame → Option (List Char)} {c c' : CompanionConnection}
  {total : ℕ}

/-- Queue and map agree, up to the call of `publish_shared` that holds the mutex. -/
def Ordered (c : CompanionConnection) : Prop :=
  match c.publishing with
  | none => c.state.InStep
  | some publishing => c.state.Between publishing.sender.taskId publishing.wasPending

/-- A call that took a frame away cannot reserve even for the error frame. -/
def Strands (c : CompanionConnection) (total : ℕ) (move : CompanionMove) : Prop :=
  move = .reserveError ∧ ∃ sender, c.publishing = some (.reservingError sender true) ∧
    reserveRelayPendingBytes total (companionFrameRetainedBytes (resourceLimitFrame sender)) = none

theorem Ordered.of_free (h : c.Ordered) (hfree : c.publishing = none) : c.state.InStep := by
  rwa [Ordered, hfree] at h

theorem Ordered.of_held (h : c.Ordered) {publishing : Publishing}
    (hheld : c.publishing = some publishing) :
    c.state.Between publishing.sender.taskId publishing.wasPending := by
  rwa [Ordered, hheld] at h

theorem ordered_of_inStep (hfree : c.publishing = none) (h : c.state.InStep) : c.Ordered := by
  rwa [Ordered, hfree]

/-- What touches neither the state nor the mutex. -/
theorem Ordered.congr (h : c.Ordered) (hstate : c'.state = c.state)
    (hpublishing : c'.publishing = c.publishing) : c'.Ordered := by
  rwa [Ordered, hstate, hpublishing]

theorem Ordered.publish (h : c.Ordered) (hfree : c.publishing = none)
    (sender : CompanionAttachmentSender) (frame : CompanionFrame) :
    (c.publish total sender frame).1.Ordered := by
  rw [CompanionConnection.publish]
  split_ifs
  · exact (h.of_free hfree).between sender.taskId
  · exact h

variable {sender : CompanionAttachmentSender} {wasPending : Bool}

/-- A reservation leaves the state as it is; if it fails and the call gives up, there must
have been no frame to take away. -/
theorem Ordered.pay {frame : CompanionFrame}
    {otherwise : Option Publishing} (h : c.state.Between sender.taskId wasPending)
    (hotherwise : reserveRelayPendingBytes total (companionFrameRetainedBytes frame) = none →
      Ordered { c with publishing := otherwise }) :
    (c.pay total sender wasPending frame otherwise).1.Ordered := by
  rw [CompanionConnection.pay]
  split
  next => exact h
  next hfull => exact hotherwise hfull

theorem Ordered.reserveError (h : c.Ordered)
    (hheld : c.publishing = some (.reservingError sender wasPending))
    (hkeeps : ¬ c.Strands total .reserveError) :
    (c.reserveError total sender wasPending).1.Ordered := by
  refine Ordered.pay (h.of_held hheld) fun hfull => ?_
  cases wasPending with
  | false => exact (h.of_held hheld).inStep_of_new
  | true => exact absurd ⟨rfl, sender, hheld, hfull⟩ hkeeps

theorem Ordered.recvTake (h : c.Ordered) (hfree : c.publishing = none) : c.recvTake.Ordered := by
  have htake := (h.of_free hfree).takeCompanion
  rw [CompanionConnection.recvTake]
  split
  next hstate =>
    rw [hstate] at htake
    exact ordered_of_inStep hfree htake
  next hstate =>
    rw [hstate] at htake
    exact ordered_of_inStep hfree htake

variable {move : CompanionMove}

/-- Every move that strands no task keeps the order. -/
theorem Ordered.step (h : c.Ordered) (hkeeps : ¬ c.Strands total move)
    {after : CompanionConnection × ℕ} (hstep : c.step serialize total move = some after) :
    after.1.Ordered := by
  cases move
  all_goals simp only [CompanionConnection.step] at hstep
  case attach taskId _ _ _ | invalidate taskId =>
    split_ifs at hstep with hfree
    cases hstep
    rw [Option.not_isSome_iff_eq_none] at hfree
    exact ordered_of_inStep hfree ((h.of_free hfree).invalidate taskId)
  case publish sender frame =>
    split_ifs at hstep with hcond
    cases hstep
    exact h.publish (Option.not_isSome_iff_eq_none.mp (not_or.mp hcond).1) sender frame
  case reserve =>
    split at hstep <;> cases hstep
    next hheld =>
      have hbetween := h.of_held hheld
      exact Ordered.pay hbetween fun _ => hbetween
  case reserveError =>
    split at hstep <;> cases hstep
    next hheld => exact h.reserveError hheld hkeeps
  case insert =>
    split at hstep <;> cases hstep
    next hheld => exact (h.of_held hheld).insert _
  case recvActive =>
    split at hstep <;> cases hstep
    rw [CompanionConnection.recvActive]
    split_ifs
    · split <;> exact h.congr rfl rfl
    · exact h.congr rfl rfl
  case recvPrepared =>
    split at hstep <;> cases hstep
    next prepared _ _ _ _ =>
      obtain _ | ⟨active⟩ | ⟨frame, delivery⟩ := prepared
      · exact h.congr rfl rfl
      · rw [CompanionConnection.recvPrepared]
        split_ifs <;> exact h.congr rfl rfl
      · rw [CompanionConnection.recvPrepared]
        split_ifs <;> exact h.congr rfl rfl
  case recvTake =>
    split at hstep <;> cases hstep
    next hfree _ _ _ => exact h.recvTake hfree
  case prepare =>
    split at hstep <;> cases hstep
    exact h.congr rfl rfl
  case dropState =>
    split_ifs at hstep with hcond
    cases hstep
    rw [Bool.or_eq_true, not_or, Option.not_isSome_iff_eq_none] at hcond
    refine ordered_of_inStep hcond.1 ⟨nodup_nil, ?_⟩
    exact fun task => iff_of_false not_mem_nil (AList.notMem_empty task)
  all_goals
    split_ifs at hstep
    cases hstep
    exact h.congr rfl rfl

/-- A stranded task stays queued without a frame. -/
theorem Ordered.not_inStep_of_strands (serialize : CompanionFrame → Option (List Char))
    (h : c.Ordered) (hstrands : c.Strands total move) :
    c.step serialize total move = some ({ c with publishing := none }, total) ∧
      ¬ c.state.InStep := by
  obtain ⟨rfl, sender, hheld, hfull⟩ := hstrands
  refine ⟨?_, (h.of_held hheld).not_inStep⟩
  simp only [CompanionConnection.step, hheld, CompanionConnection.reserveError,
    CompanionConnection.pay, hfull]

end CompanionConnection

namespace CompanionRelay

variable {ι : Type} [DecidableEq ι]

/-- On every connection whose mutex is free, the queue holds each task with a pending
frame once, and no other. -/
def ReadyMatchesPending (s : CompanionRelay ι) : Prop :=
  ∀ i, (s.conns i).publishing = none → (s.conns i).state.InStep

/-- The move is one of `publish_shared` that strands its task. -/
def Strands (s : CompanionRelay ι) (move : ι × CompanionMove) : Prop :=
  (s.conns move.1).Strands s.pendingBytes move.2

/-- **Queue and map agree exactly on the runs that strand no task**: for any number of
connections and any interleaving, in every state and on every connection whose mutex is
free, the queue holds each task with a pending frame once and no other, if and only if no
call of `publish_shared` that took a frame away fails both its reservations. -/
theorem ready_matches_pending_iff (serialize : CompanionFrame → Option (List Char))
    (moves : List (ι × CompanionMove)) :
    Always (step serialize) ReadyMatchesPending (fresh : CompanionRelay ι) moves ↔
      Meets (step serialize) (fun s move => ¬ s.Strands move) fresh moves := by
  refine always_iff_meets (I := fun s => ∀ i, (s.conns i).Ordered) ?_ ?_ ?_ ?_
  · exact fun h i hfree => (h i).of_free hfree
  · intro s move s' h hkeeps hstep j
    obtain ⟨⟨c, total⟩, hc, rfl⟩ := Option.map_eq_some_iff.mp hstep
    by_cases hj : j = move.1
    · subst hj
      dsimp only
      rw [Function.update_self]
      exact (h move.1).step hkeeps hc
    · dsimp only
      rw [Function.update_of_ne hj]
      exact h j
  · intro s move h hstrands
    obtain ⟨hc, hbad⟩ := (h move.1).not_inStep_of_strands serialize (not_not.mp hstrands)
    refine ⟨_, Option.map_eq_some_iff.mpr ⟨_, hc, rfl⟩, fun hall => hbad ?_⟩
    have := hall move.1
    dsimp only at this
    rw [Function.update_self] at this
    exact this rfl
  · exact fun _ => ⟨nodup_nil, fun task => iff_of_false not_mem_nil (AList.notMem_empty task)⟩

/-- The first attachment of a task. -/
def firstAttachment (taskId : String) : CompanionAttachmentSender := ⟨taskId, 1, true, false, none⟩

/-- A snapshot that takes the whole budget. -/
def largestSnapshot : CompanionFrame :=
  .companionSnapshot "" "" "" .fragment (List.replicate 67107840 'a') none [] none

theorem largestSnapshot_bytes : companionFrameRetainedBytes largestSnapshot = 67108864 := by
  have hlen : ∀ n, byteLen (replicate n 'a') = n := by
    intro n
    induction n with
    | zero => rfl
    | succ n ih =>
      rw [replicate_succ, byteLen, ih, Nat.add_comm]
      rfl
  rw [largestSnapshot, companionFrameRetainedBytes, hlen]
  rfl

/-- The first connection has taken the pending frame of `"a"` away to replace it, and the
second one is about to reserve for a snapshot of `"b"`. -/
def replacingMoves (snapshot : CompanionFrame) : List (Bool × CompanionMove) :=
  [(true, .attach "a" true false none), (false, .attach "b" true false none),
    (true, .publish (firstAttachment "a") (.companionUnavailable "a" none)), (true, .reserve),
    (true, .insert), (true, .publish (firstAttachment "a") (.companionUnavailable "a" none)),
    (false, .publish (firstAttachment "b") snapshot)]

/-- The second connection reserves first, and then the first one tries twice. -/
def strandingMoves : List (Bool × CompanionMove) :=
  [(false, .reserve), (true, .reserve), (true, .reserveError)]

variable (serialize : CompanionFrame → Option (List Char))

theorem run_replacingMoves (snapshot : CompanionFrame) :
    ∃ s, run (step serialize) fresh (replacingMoves snapshot) = some s ∧ s.pendingBytes = 0 ∧
      (s.conns false).publishing = some (.reserving (firstAttachment "b") false snapshot) ∧
      (s.conns true).publishing =
        some (.reserving (firstAttachment "a") true (.companionUnavailable "a" none)) ∧
      (s.conns true).state.ready = ["a"] ∧ (s.conns true).state.pending = ∅ :=
  ⟨_, rfl, rfl, rfl, rfl, rfl, rfl⟩

/-- If the second connection gets the whole budget, the first one gets nothing. -/
theorem run_strandingMoves {snapshot : CompanionFrame}
    (hsnapshot : companionFrameRetainedBytes snapshot = 67108864) {s : CompanionRelay Bool}
    (htotal : s.pendingBytes = 0)
    (hsecond : (s.conns false).publishing = some (.reserving (firstAttachment "b") false snapshot))
    (hfirst : (s.conns true).publishing =
      some (.reserving (firstAttachment "a") true (.companionUnavailable "a" none))) :
    ∃ s', run (step serialize) s strandingMoves = some s' ∧
      s'.conns true = { s.conns true with publishing := none } := by
  have hall : reserveRelayPendingBytes 0 67108864 = some 67108864 := by decide
  have hframe : reserveRelayPendingBytes 67108864
      (companionFrameRetainedBytes (.companionUnavailable "a" none)) = none := by decide
  have herror : reserveRelayPendingBytes 67108864
      (companionFrameRetainedBytes (resourceLimitFrame (firstAttachment "a"))) = none := by decide
  simp [strandingMoves, run_cons, step, CompanionConnection.step, CompanionConnection.reserve,
    CompanionConnection.reserveError, CompanionConnection.pay, hsecond, hfirst, htotal,
    hsnapshot, hall, hframe, herror]

theorem ready_without_pending :
    ∃ s,
      run (step fun _ => none) fresh (replacingMoves largestSnapshot ++ strandingMoves) = some s ∧
      (s.conns true).publishing = none ∧ (s.conns true).state.ready = ["a"] ∧
      "a" ∉ (s.conns true).state.pending ∧ ¬ s.ReadyMatchesPending := by
  obtain ⟨s, hrun, htotal, hsecond, hfirst, hready, hpending⟩ :=
    run_replacingMoves (fun _ => none) largestSnapshot
  obtain ⟨s', hrun', hconn⟩ :=
    run_strandingMoves (fun _ => none) largestSnapshot_bytes htotal hsecond hfirst
  have hpublishing : (s'.conns true).publishing = none := by rw [hconn]
  have hready' : (s'.conns true).state.ready = ["a"] := by rw [hconn, hready]
  have hpending' : "a" ∉ (s'.conns true).state.pending := by
    rw [hconn, hpending]
    exact AList.notMem_empty "a"
  refine ⟨s', by rw [run_append, hrun, Option.bind_some, hrun'], hpublishing, hready', hpending',
    fun hmatches => hpending' ?_⟩
  rw [← (hmatches true hpublishing).2 "a", hready']
  exact mem_singleton_self "a"

end CompanionRelay

end Kanna
