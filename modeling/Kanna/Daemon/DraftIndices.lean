import Kanna.Daemon.DraftBytes
import Mathlib.Data.List.Infix

/-!
# The indices of the draft scan

`draft_content_byte_count` runs on the input path of every session, and an index out of range
panics there. Here the functions of `DraftBytes` are written once more with the indices and
slices of the source, and `none` for a panic (or for a loop that does not end).

`draftTurn_eq` says what a turn of the loop does, in range: it consumes a byte or more, and
counts no more than it consumes. The scans by index are those of `DraftBytes`.
-/

namespace Kanna

/-- `&data[start..]`. -/
def sliceFrom (data : List UInt8) (start : ℕ) : Option (List UInt8) :=
  if start ≤ data.length then some (data.drop start) else none

/-- The loop of `string_escape_len`, with this many turns. -/
def stringEscapeLoop (data : List UInt8) : ℕ → ℕ → Option (Option ℕ)
  | 0, _ => none
  | turns + 1, index =>
    if index < data.length then do
      let byte ← data[index]?
      if byte = bel then some (some (index + 1))
      else if byte = esc then
        some (if data[index + 1]? = some 0x5c then some (index + 2) else none)
      else stringEscapeLoop data turns (index + 1)
    else some none

/-- `escape_sequence`. -/
def escapeSequenceAt (data : List UInt8) : Option (ℕ × Bool) :=
  match data[1]? with
  | none => some (1, false)
  | some introducer =>
    if introducer = 0x5b then do
      let parameters ← sliceFrom data 2
      match parameters.findIdx? fun byte => 0x40 ≤ byte && byte ≤ 0x7e with
      | some offset =>
        let final ← data[offset + 2]?
        if offset = 0 ∧ final = 0x4d then some (min x10MouseReportLen data.length, false)
        else some (offset + 3, contentCapableSequenceFinals.contains final)
      | none => some (data.length, false)
    else if introducer = 0x4f then
      match data[2]? with
      | some final => some (3, contentCapableSequenceFinals.contains final)
      | none => some (data.length, false)
    else if stringEscapeIntroducers.contains introducer then do
      match ← stringEscapeLoop data data.length 2 with
      | some len => some (len, false)
      | none => some (2, false)
    else some (2, false)

/-- A turn of the loop of `draft_content_byte_count`: the next index and the new count. -/
def draftTurn (data : List UInt8) (index content : ℕ) : Option (ℕ × ℕ) := do
  let rest ← sliceFrom data index
  if pasteStart.isPrefixOf rest then
    let payload ← sliceFrom data (index + pasteStart.length)
    some (min (index + pasteStart.length + pasteLen payload + pasteEnd.length) data.length,
      content + pasteLen payload)
  else
    let byte ← rest[0]?
    if byte = esc then
      let (consumed, contentCapable) ← escapeSequenceAt rest
      some (index + consumed, if contentCapable then content + consumed else content)
    else some (index + 1, if isInertControl byte then content else content + 1)

/-- The loop of `draft_content_byte_count`, with this many turns. -/
def draftTurns (data : List UInt8) : ℕ → ℕ → ℕ → Option ℕ
  | 0, _, _ => none
  | turns + 1, index, content =>
    if index < data.length then do
      let (index, content) ← draftTurn data index content
      draftTurns data turns index content
    else some content

variable {data : List UInt8} {index content turns : ℕ}

open List

theorem sliceFrom_of_le (h : index ≤ data.length) : sliceFrom data index = some (data.drop index) :=
  if_pos h

theorem stringEscapeLoop_eq (hindex : index ≤ data.length) (h : data.length < index + turns) :
    stringEscapeLoop data turns index = some (stringEscapeScan index (data.drop index)) := by
  induction turns generalizing index with
  | zero => omega
  | succ turns ih =>
    rw [stringEscapeLoop]
    by_cases hlt : index < data.length
    · have hih := ih hlt (by omega)
      rw [if_pos hlt, drop_eq_getElem_cons hlt, stringEscapeScan, getElem?_eq_getElem hlt,
        head?_drop]
      simp only [Option.bind_eq_bind, Option.bind_some, hih]
      split_ifs <;> rfl
    · rw [if_neg hlt, drop_eq_nil_of_le (Nat.le_of_not_lt hlt), stringEscapeScan]

/-- An escape sequence is found without a panic. -/
theorem escapeSequenceAt_eq (data : List UInt8) :
    escapeSequenceAt data = some (escapeSequence data) := by
  rw [escapeSequenceAt, escapeSequence]
  cases hone : data[1]? with
  | none => rfl
  | some introducer =>
    obtain ⟨hlength, -⟩ := List.getElem?_eq_some_iff.mp hone
    dsimp only
    split_ifs with hcsi hss3 hstring
    · rw [csiSequence, sliceFrom_of_le hlength]
      simp only [Option.bind_eq_bind, Option.bind_some]
      cases hoffset : (data.drop 2).findIdx? fun byte => 0x40 ≤ byte && byte ≤ 0x7e with
      | none => rfl
      | some offset =>
        obtain ⟨hlt, -⟩ := findIdx?_eq_some_iff_getElem.mp hoffset
        rw [length_drop] at hlt
        have hfinal : offset + 2 < data.length := by omega
        obtain rfl | hzero := eq_or_ne offset 0
        · simp only [getElem?_eq_getElem hfinal, Option.bind_some, true_and, Option.some.injEq]
          split_ifs <;> rfl
        · simp only [getElem?_eq_getElem hfinal, Option.bind_some, hzero, false_and, if_false]
          rfl
    · cases data[2]? <;> rfl
    · rw [stringEscapeLoop_eq hlength (by omega), stringEscapeLen]
      cases stringEscapeScan 2 (data.drop 2) <;> rfl
    · rfl

theorem pasteLen_le (payload : List UInt8) : pasteLen payload ≤ payload.length := by
  induction payload with
  | nil => exact le_rfl
  | cons byte rest ih =>
    rw [pasteLen]
    split_ifs
    · exact Nat.zero_le _
    · exact Nat.succ_le_succ ih

/-- **A turn of the loop** stays in range: it consumes a byte or more, ends inside the write,
counts no more than it consumes, and is the turn of `draftContentLoop`. -/
theorem draftTurn_eq (h : index < data.length) (content : ℕ) :
    ∃ next count, draftTurn data index content = some (next, count) ∧
      index < next ∧ next ≤ data.length ∧ count ≤ content + (next - index) ∧
      ∀ fuel, draftContentLoop (fuel + 1) (data.drop index) content =
        draftContentLoop fuel (data.drop next) count := by
  obtain ⟨byte, tail, hrest⟩ : ∃ byte tail, data.drop index = byte :: tail :=
    ⟨_, _, drop_eq_getElem_cons h⟩
  have hdrop : ∀ n, (byte :: tail).drop n = data.drop (index + n) := by
    intro n
    rw [← hrest, drop_drop]
  have hlength : (byte :: tail).length = data.length - index := by rw [← hrest, length_drop]
  rw [draftTurn, sliceFrom_of_le h.le, hrest]
  simp only [Option.bind_eq_bind, Option.bind_some, draftContentLoop, hdrop]
  by_cases hpaste : pasteStart.isPrefixOf (byte :: tail) = true
  · have hfits := ( isPrefixOf_iff_prefix.mp hpaste).length_le
    have hpayload : index + pasteStart.length ≤ data.length := by omega
    have hle := pasteLen_le (data.drop (index + pasteStart.length))
    have hmarks : 0 < pasteStart.length := by decide
    rw [length_drop] at hle
    simp only [if_pos hpaste, sliceFrom_of_le hpayload, Option.bind_some, drop_drop]
    refine ⟨_, _, rfl, by omega, min_le_right _ _, by omega, fun fuel => ?_⟩
    -- behind the end there is nothing, however far
    rw [← Nat.add_assoc]
    obtain hend | hend := le_total (index + pasteStart.length +
      pasteLen (data.drop (index + pasteStart.length)) + pasteEnd.length) data.length
    · rw [min_eq_left hend]
    · rw [min_eq_right hend, drop_length, drop_eq_nil_of_le hend]
  · simp only [if_neg hpaste, getElem?_cons_zero, Option.bind_some]
    by_cases hesc : byte = esc
    · have hne : 0 < (byte :: tail).length := Nat.succ_pos _
      obtain ⟨hpos, hconsumed⟩ := escapeSequence_bounds hne
      simp only [if_pos hesc, escapeSequenceAt_eq, Option.bind_some]
      refine ⟨_, _, rfl, Nat.lt_add_of_pos_right hpos, by omega, ?_, fun fuel => rfl⟩
      split_ifs <;> omega
    · simp only [if_neg hesc]
      refine ⟨_, _, rfl, Nat.lt_succ_self _, h, ?_, fun fuel => ?_⟩
      · split_ifs <;> omega
      · rw [← hdrop, drop_one, tail_cons]

/-- The loop by indices is the one of `DraftBytes`, which counts no more than there is. -/
theorem draftTurns_eq {fuel : ℕ} (hindex : index ≤ data.length) (hfuel : data.length ≤ index + fuel)
    (hturns : data.length < index + turns) :
    draftTurns data turns index content =
        some (draftContentLoop fuel (data.drop index) content) ∧
      draftContentLoop fuel (data.drop index) content ≤ content + (data.length - index) := by
  induction turns generalizing index content fuel with
  | zero => omega
  | succ turns ih =>
    rw [draftTurns]
    by_cases hlt : index < data.length
    · obtain ⟨fuel, rfl⟩ : ∃ rest, fuel = rest + 1 := ⟨fuel - 1, by omega⟩
      obtain ⟨next, count, hturn, hnext, hle, hcount, hloop⟩ := draftTurn_eq hlt content
      obtain ⟨heq, hbound⟩ := @ih next count fuel hle (by omega) (by omega)
      rw [if_pos hlt, hturn, hloop]
      exact ⟨heq, by omega⟩
    · rw [if_neg hlt, drop_eq_nil_of_le (Nat.le_of_not_lt hlt)]
      cases fuel <;> exact ⟨rfl, Nat.le_add_right _ _⟩

/-- **The scan never panics, and ends**: every turn consumes at least a byte and stays inside the
write, and the count is at most the length of the write. -/
theorem draftContentByteCount_safe (data : List UInt8) :
    (∀ index content, index < data.length → ∃ next count,
      draftTurn data index content = some (next, count) ∧ index < next ∧ next ≤ data.length) ∧
    draftTurns data (data.length + 1) 0 0 = some (draftContentByteCount data) ∧
    draftContentByteCount data ≤ data.length := by
  obtain ⟨hturns, hcount⟩ := @draftTurns_eq data 0 0 (data.length + 1) data.length
    (Nat.zero_le _) (by omega) (by omega)
  refine ⟨fun index content h => ?_, hturns, by rwa [Nat.zero_add] at hcount⟩
  obtain ⟨next, count, hturn, hnext, hle, -⟩ := draftTurn_eq h content
  exact ⟨next, count, hturn, hnext, hle⟩

end Kanna
