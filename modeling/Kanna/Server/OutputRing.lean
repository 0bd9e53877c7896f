import Mathlib.Data.List.Basic
import Mathlib.Algebra.GroupWithZero.Nat

/-!
# The output ring of a terminal tap

`OutputRing` in `crates/kanna-server/src/terminal_window.rs`: the output recorded
after a snapshot, addressed by byte offset. It keeps whole chunks, drops the oldest
when it is over its capacity, and replays only from the start of a chunk.

* `OutputRing` — the operations of the source, `Wf` what they keep.
* `Records` — the ring seen as what it is for: it holds the end of all that was
  pushed since the last reset. Every operation keeps this, and `Records.replayFrom`
  says that a replay is exactly what follows the offset asked for.
* `ring_exact` — so after any pushes and resets.
-/

namespace Kanna

/-- Live output, oldest chunk first. -/
structure OutputRing where
  chunks : List (List UInt8)
  /-- total length of the chunks -/
  bytes : ℕ
  capacity : ℕ
  /-- where its first byte is in the stream -/
  startOffset : ℕ
  /-- where the next byte will be -/
  endOffset : ℕ

namespace OutputRing

/-- `OutputRing::new`. -/
def new (capacity : ℕ) : OutputRing where
  chunks := []
  bytes := 0
  capacity := capacity
  startOffset := 0
  endOffset := 0

variable (ring : OutputRing)

/-- `reset_to`: everything is forgotten. -/
def resetTo (offset : ℕ) : OutputRing :=
  { ring with chunks := [], bytes := 0, startOffset := offset, endOffset := offset }

/-- The loop of `push`: chunks, bytes and start offset that remain. -/
def evict (capacity : ℕ) : List (List UInt8) → ℕ → ℕ → List (List UInt8) × ℕ × ℕ
  | [], bytes, start => ([], bytes, start)
  | evicted :: rest, bytes, start =>
    if capacity < bytes then
      evict capacity rest (bytes - evicted.length) (start + evicted.length)
    else (evicted :: rest, bytes, start)

/-- `push`: an empty chunk is not recorded. -/
def push (data : List UInt8) : OutputRing :=
  if data = [] then ring
  else
    let kept := evict ring.capacity (ring.chunks ++ [data]) (ring.bytes + data.length)
      ring.startOffset
    { ring with
      chunks := kept.1
      bytes := kept.2.1
      startOffset := kept.2.2
      endOffset := ring.endOffset + data.length }

/-- The loop of `replay_from`: the chunks from the one that starts at `offset`. -/
def replayLoop (offset : ℕ) : ℕ → List (List UInt8) → Option (List (List UInt8))
  | _, [] => none
  | position, chunk :: rest =>
    if position = offset then some (chunk :: rest)
    else if offset < position + chunk.length then none
    else replayLoop offset (position + chunk.length) rest

/-- `replay_from`. -/
def replayFrom (offset : ℕ) : Option (List (List UInt8)) :=
  if ring.endOffset < offset ∨ offset < ring.startOffset then none
  else if offset = ring.endOffset then some []
  else replayLoop offset ring.startOffset ring.chunks

/-! ## What the operations keep -/

/-- The counters agree with the chunks. -/
structure Wf (ring : OutputRing) : Prop where
  total : ring.bytes = ring.chunks.flatten.length
  span : ring.endOffset = ring.startOffset + ring.bytes
  fits : ring.bytes ≤ ring.capacity
  nonempty : ∀ chunk ∈ ring.chunks, chunk ≠ []

variable (capacity : ℕ)

theorem wf_new : (new capacity).Wf := ⟨rfl, rfl, Nat.zero_le _, nofun⟩

theorem wf_resetTo (offset : ℕ) : (ring.resetTo offset).Wf :=
  ⟨rfl, rfl, Nat.zero_le _, nofun⟩

open List

/-- What eviction leaves: whole chunks from the end, counted, within the capacity. -/
theorem evict_spec (chunks : List (List UInt8)) (bytes start : ℕ)
    (hbytes : bytes = chunks.flatten.length) :
    ∃ evicted, chunks = evicted ++ (evict capacity chunks bytes start).1 ∧
      (evict capacity chunks bytes start).2.1 =
        (evict capacity chunks bytes start).1.flatten.length ∧
      (evict capacity chunks bytes start).2.2 = start + evicted.flatten.length ∧
      (evict capacity chunks bytes start).2.1 ≤ capacity := by
  induction chunks generalizing bytes start with
  | nil =>
    subst hbytes
    exact ⟨[], rfl, rfl, rfl, Nat.zero_le _⟩
  | cons chunk rest ih =>
    rw [flatten_cons, length_append] at hbytes
    rw [evict]
    split
    next =>
      obtain ⟨evicted, hchunks, hcount, hstart, hfits⟩ :=
        ih (bytes - chunk.length) (start + chunk.length) (by omega)
      refine ⟨chunk :: evicted, ?_, hcount, ?_, hfits⟩
      · rw [cons_append, ← hchunks]
      · rw [hstart, flatten_cons, length_append, Nat.add_assoc]
    next hfits =>
      exact ⟨[], rfl, by rw [flatten_cons, length_append]; exact hbytes, rfl,
        Nat.le_of_not_lt hfits⟩

variable {ring : OutputRing}

/-- What a push of a nonempty chunk does. -/
theorem push_spec (h : ring.Wf) {data : List UInt8} (hdata : data ≠ []) :
    ∃ evicted, ring.chunks ++ [data] = evicted ++ (ring.push data).chunks ∧
      (ring.push data).bytes = (ring.push data).chunks.flatten.length ∧
      (ring.push data).startOffset = ring.startOffset + evicted.flatten.length ∧
      (ring.push data).bytes ≤ ring.capacity ∧
      (ring.push data).endOffset = ring.endOffset + data.length := by
  have hbytes : ring.bytes + data.length = (ring.chunks ++ [data]).flatten.length := by
    rw [flatten_append, length_append, ← h.total, flatten_singleton]
  obtain ⟨evicted, hspec⟩ := evict_spec ring.capacity (ring.chunks ++ [data]) _ ring.startOffset
    hbytes
  rw [push, if_neg hdata]
  exact ⟨evicted, hspec.1, hspec.2.1, hspec.2.2.1, hspec.2.2.2, rfl⟩

theorem push_capacity (ring : OutputRing) (data : List UInt8) :
    (ring.push data).capacity = ring.capacity := by
  rw [push]
  split <;> rfl

theorem wf_push (h : ring.Wf) (data : List UInt8) : (ring.push data).Wf := by
  by_cases hdata : data = []
  · rw [push, if_pos hdata]
    exact h
  · obtain ⟨evicted, hchunks, hcount, hstart, hfits, hend⟩ := push_spec h hdata
    refine ⟨hcount, ?_, ?_, fun chunk hchunk => ?_⟩
    · have htotal := congrArg (fun cs : List (List UInt8) => cs.flatten.length) hchunks
      simp only [flatten_append, length_append, flatten_singleton] at htotal
      rw [hend, hstart, hcount, h.span, h.total]
      omega
    · rw [push_capacity]
      exact hfits
    · have hmem : chunk ∈ ring.chunks ++ [data] := by
        rw [hchunks]
        exact mem_append_right _ hchunk
      rcases mem_append.mp hmem with hold | hnew
      · exact h.nonempty chunk hold
      · cases mem_singleton.mp hnew
        exact hdata

variable {offset : ℕ} {replay : List (List UInt8)}

/-- A replay is what is left after some whole chunks. -/
theorem replayLoop_eq_some {position : ℕ} {chunks : List (List UInt8)}
    (h : replayLoop offset position chunks = some replay) :
    ∃ before, chunks = before ++ replay ∧ offset = position + before.flatten.length := by
  induction chunks generalizing position with
  | nil => cases h
  | cons chunk rest ih =>
    rw [replayLoop] at h
    split at h
    next heq =>
      cases h
      exact ⟨[], rfl, heq.symm⟩
    next =>
      split at h
      next => cases h
      next =>
        obtain ⟨before, hrest, hoffset⟩ := ih h
        refine ⟨chunk :: before, by rw [cons_append, hrest], ?_⟩
        rw [hoffset, flatten_cons, length_append, Nat.add_assoc]

/-- **Replay starts at a chunk boundary.** -/
theorem replayFrom_eq_some (h : ring.Wf) (hreplay : ring.replayFrom offset = some replay) :
    ∃ before, ring.chunks = before ++ replay ∧
      offset = ring.startOffset + before.flatten.length := by
  rw [replayFrom] at hreplay
  split at hreplay
  next => cases hreplay
  next =>
    split at hreplay
    next hend =>
      cases hreplay
      exact ⟨ring.chunks, (append_nil _).symm, by rw [hend, h.span, h.total]⟩
    next => exact replayLoop_eq_some hreplay

/-- `offset` is where a retained chunk starts. -/
def Starts (ring : OutputRing) (offset : ℕ) : Prop :=
  ∃ before chunk after, ring.chunks = before ++ chunk :: after ∧
    offset = ring.startOffset + before.flatten.length

theorem replayLoop_start {position : ℕ} {before after : List (List UInt8)} {chunk : List UInt8}
    (hbefore : ∀ other ∈ before, other ≠ []) :
    replayLoop (position + before.flatten.length) position (before ++ chunk :: after) =
      some (chunk :: after) := by
  induction before generalizing position with
  | nil => exact if_pos rfl
  | cons first before ih =>
    have hfirst := length_pos_of_ne_nil (hbefore first mem_cons_self)
    have hrest := @ih (position + first.length) fun other hother =>
      hbefore other (mem_cons_of_mem _ hother)
    rw [flatten_cons, length_append, cons_append, replayLoop,
      if_neg (by omega), if_neg (by omega), ← Nat.add_assoc, hrest]

/-- **Where a replay can start.** -/
theorem isSome_replayFrom (h : ring.Wf) :
    (ring.replayFrom offset).isSome ↔ offset = ring.endOffset ∨ ring.Starts offset := by
  constructor
  · intro hsome
    obtain ⟨replay, hreplay⟩ := Option.isSome_iff_exists.mp hsome
    obtain ⟨before, hchunks, hoffset⟩ := replayFrom_eq_some h hreplay
    cases replay with
    | nil =>
      rw [append_nil] at hchunks
      exact .inl (by rw [hoffset, h.span, h.total, hchunks])
    | cons chunk after => exact .inr ⟨before, chunk, after, hchunks, hoffset⟩
  · rintro (rfl | ⟨before, chunk, after, hchunks, rfl⟩)
    · have := h.span
      rw [replayFrom, if_neg (by omega), if_pos rfl]
      rfl
    · have htotal := h.total
      have hspan := h.span
      have hchunk := length_pos_of_ne_nil (h.nonempty chunk (by simp [hchunks]))
      simp only [hchunks, flatten_append, flatten_cons, length_append] at htotal
      rw [replayFrom, if_neg (by omega), if_neg (by omega), hchunks,
        replayLoop_start fun other hother => h.nonempty other (by simp [hchunks, hother])]
      rfl

/-! ## The ring as a record of what was pushed -/

/-- The ring holds the end of `published`, whose first byte has offset `origin`. -/
structure Records (ring : OutputRing) (origin : ℕ) (published : List UInt8) : Prop where
  wf : ring.Wf
  /-- what was evicted comes before what is held -/
  held : ∃ gone, published = gone ++ ring.chunks.flatten ∧
    ring.startOffset = origin + gone.length

theorem records_new : (new capacity).Records 0 [] := ⟨wf_new capacity, [], rfl, rfl⟩

theorem records_resetTo (ring : OutputRing) (offset : ℕ) :
    (ring.resetTo offset).Records offset [] :=
  ⟨wf_resetTo ring offset, [], rfl, rfl⟩

variable {published : List UInt8}

theorem Records.push {origin : ℕ} (h : ring.Records origin published) (data : List UInt8) :
    (ring.push data).Records origin (published ++ data) := by
  by_cases hdata : data = []
  · rw [OutputRing.push, if_pos hdata, hdata, append_nil]
    exact h
  · obtain ⟨gone, hgone, hstart⟩ := h.held
    obtain ⟨evicted, hchunks, -, hpush, -⟩ := push_spec h.wf hdata
    refine ⟨wf_push h.wf data, gone ++ evicted.flatten, ?_, ?_⟩
    · have hflat := congrArg flatten hchunks
      rw [flatten_append, flatten_append, flatten_singleton] at hflat
      rw [hgone, append_assoc, append_assoc, hflat]
    · rw [hpush, hstart, length_append, Nat.add_assoc]

/-- **A replay is exactly what follows the offset.** -/
theorem Records.replayFrom {origin : ℕ} (h : ring.Records origin published)
    (hreplay : ring.replayFrom offset = some replay) :
    ∃ before, published = before ++ replay.flatten ∧ offset = origin + before.length := by
  obtain ⟨gone, hgone, hstart⟩ := h.held
  obtain ⟨before, hchunks, hoffset⟩ := replayFrom_eq_some h.wf hreplay
  refine ⟨gone ++ before.flatten, ?_, ?_⟩
  · rw [hgone, hchunks, flatten_append, append_assoc]
  · rw [hoffset, hstart, length_append, Nat.add_assoc]

/-! ## Runs -/

/-- An operation on a ring. -/
inductive Op where
  | push (data : List UInt8)
  | resetTo (offset : ℕ)

/-- One operation. -/
def apply (ring : OutputRing) : Op → OutputRing
  | .push data => ring.push data
  | .resetTo offset => ring.resetTo offset

/-- The offset of the last reset, and all that was pushed since. -/
def record : ℕ × List UInt8 → Op → ℕ × List UInt8
  | (origin, pushed), .push data => (origin, pushed ++ data)
  | _, .resetTo offset => (offset, [])

theorem records_foldl (ops : List Op) (entry : ℕ × List UInt8) (h : ring.Records entry.1 entry.2) :
    (ops.foldl apply ring).Records (ops.foldl record entry).1 (ops.foldl record entry).2 ∧
      (ops.foldl apply ring).capacity = ring.capacity := by
  induction ops generalizing ring entry with
  | nil => exact ⟨h, rfl⟩
  | cons op ops ih =>
    cases op with
    | push data => exact (ih _ (h.push data)).imp_right (·.trans (push_capacity ring data))
    | resetTo offset => exact ih _ (records_resetTo ring offset)

/-- **Every run of a ring.** -/
theorem ring_exact (capacity : ℕ) (ops : List Op) :
    let ring := ops.foldl apply (new capacity)
    ring.bytes = (ring.chunks.map List.length).sum ∧
      ring.bytes + ring.startOffset = ring.endOffset ∧ ring.bytes ≤ capacity ∧ ∀ offset,
        ((ring.replayFrom offset).isSome ↔ offset = ring.endOffset ∨ ring.Starts offset) ∧
        ∀ replay ∈ ring.replayFrom offset, ∃ before,
          (ops.foldl record (0, [])).2 = before ++ replay.flatten ∧
          offset = (ops.foldl record (0, [])).1 + before.length := by
  obtain ⟨h, hcapacity⟩ := records_foldl ops (0, []) (records_new capacity)
  refine ⟨?_, ?_, ?_, fun offset => ⟨isSome_replayFrom h.wf, fun replay hreplay => ?_⟩⟩
  · rw [h.wf.total, length_flatten]
  · rw [h.wf.span, Nat.add_comm]
  · exact Nat.le_trans h.wf.fits (Nat.le_of_eq hcapacity)
  · exact h.replayFrom hreplay

end OutputRing

end Kanna
