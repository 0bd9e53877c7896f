import Mathlib.Data.List.Basic

/-!
# Byte offsets in a text

A text is a list of characters and is stored as UTF-8, so that an offset into it
counts bytes and only some offsets lie between two characters. `byteLen` is the
length in bytes, `isCharBoundary` tells the offsets between characters,
`dropBytes` and `takeBytes` cut a text at one, and `backOff` walks down from an
offset to the nearest boundary.

Each of them is characterised on a text that is already split, `pre ++ post`,
where the boundary is `byteLen pre`; `backOff_spec` says that the walk down finds
the last boundary that it passes. The bytes themselves are `utf8`.
-/

namespace Kanna

/-- The length of a text in bytes. -/
def byteLen : List Char → ℕ
  | [] => 0
  | c :: text => c.utf8Size + byteLen text

/-- The offset lies between two characters, or at an end of the text. -/
def isCharBoundary : List Char → ℕ → Bool
  | _, 0 => true
  | [], _ + 1 => false
  | c :: text, n + 1 =>
    if c.utf8Size ≤ n + 1 then isCharBoundary text (n + 1 - c.utf8Size) else false

/-- The text from an offset on. -/
def dropBytes : List Char → ℕ → List Char
  | text, 0 => text
  | [], _ + 1 => []
  | c :: text, n + 1 => dropBytes text (n + 1 - c.utf8Size)

/-- The text up to an offset. -/
def takeBytes : List Char → ℕ → List Char
  | _, 0 => []
  | [], _ + 1 => []
  | c :: text, n + 1 => c :: takeBytes text (n + 1 - c.utf8Size)

/-- Walk down from an offset to a boundary, but not below `offset`. -/
def backOff (text : List Char) (offset : ℕ) : ℕ → ℕ
  | 0 => 0
  | n + 1 =>
    if offset < n + 1 ∧ isCharBoundary text (n + 1) = false then backOff text offset n else n + 1

variable (pre post : List Char)

theorem byteLen_append : byteLen (pre ++ post) = byteLen pre + byteLen post := by
  induction pre with
  | nil => exact (Nat.zero_add _).symm
  | cons c pre ih => rw [List.cons_append, byteLen, byteLen, ih, Nat.add_assoc]

variable {text : List Char}

theorem byteLen_pos (h : text ≠ []) : 0 < byteLen text := by
  cases text with
  | nil => exact absurd rfl h
  | cons c text => exact Nat.add_pos_left c.utf8Size_pos _

/-- A text of one-byte characters has as many bytes as characters. -/
theorem byteLen_eq_length (h : ∀ c ∈ text, c.utf8Size = 1) : byteLen text = text.length := by
  induction text with
  | nil => rfl
  | cons c text ih =>
    rw [List.forall_mem_cons] at h
    rw [byteLen, h.1, ih h.2, List.length_cons, Nat.add_comm]

/-- The bytes of a string are those of its characters. -/
theorem utf8ByteSize_ofList (text : List Char) :
    (String.ofList text).utf8ByteSize = byteLen text := by
  induction text with
  | nil => rfl
  | cons c text ih =>
    have hsplit : String.ofList (c :: text) = String.singleton c ++ String.ofList text := by
      rw [String.singleton_eq_ofList, ← String.ofList_append]
      rfl
    rw [hsplit, String.utf8ByteSize_append, String.utf8ByteSize_singleton, ih, byteLen]

/-- Cutting at the size of the first character. -/
private theorem cut_cons (c : Char) (n : ℕ) : c.utf8Size + n = c.utf8Size + n - 1 + 1 := by
  have := c.utf8Size_pos
  omega

@[simp] theorem dropBytes_append : dropBytes (pre ++ post) (byteLen pre) = post := by
  induction pre with
  | nil => cases post <;> rfl
  | cons c pre ih =>
    rw [byteLen, cut_cons, List.cons_append, dropBytes, ← cut_cons, Nat.add_sub_cancel_left]
    exact ih

@[simp] theorem takeBytes_append : takeBytes (pre ++ post) (byteLen pre) = pre := by
  induction pre with
  | nil => cases post <;> rfl
  | cons c pre ih =>
    rw [byteLen, cut_cons, List.cons_append, takeBytes, ← cut_cons, Nat.add_sub_cancel_left]
    exact congrArg _ ih

@[simp] theorem isCharBoundary_append : isCharBoundary (pre ++ post) (byteLen pre) = true := by
  induction pre with
  | nil => cases post <;> rfl
  | cons c pre ih =>
    rw [byteLen, cut_cons, List.cons_append, isCharBoundary, ← cut_cons,
      if_pos (Nat.le_add_right _ _), Nat.add_sub_cancel_left]
    exact ih

/-- A boundary is where the text can be split. -/
theorem exists_split_of_isCharBoundary {n : ℕ} (h : isCharBoundary text n = true) :
    ∃ pre post, text = pre ++ post ∧ n = byteLen pre := by
  induction text generalizing n with
  | nil =>
    cases n with
    | zero => exact ⟨[], [], rfl, rfl⟩
    | succ n => cases h
  | cons c text ih =>
    cases n with
    | zero => exact ⟨[], c :: text, rfl, rfl⟩
    | succ n =>
      rw [isCharBoundary] at h
      split_ifs at h with hle
      obtain ⟨pre, post, rfl, hn⟩ := ih h
      refine ⟨c :: pre, post, rfl, ?_⟩
      rw [byteLen]
      omega

/-- Behind a split, the boundaries are those of the rest. -/
theorem exists_split_of_le {pre post : List Char} {n : ℕ}
    (h : isCharBoundary (pre ++ post) n = true) (hle : byteLen pre ≤ n) :
    ∃ chunk rest, post = chunk ++ rest ∧ n = byteLen pre + byteLen chunk := by
  induction pre generalizing n with
  | nil =>
    obtain ⟨chunk, rest, hpost, hn⟩ := exists_split_of_isCharBoundary h
    exact ⟨chunk, rest, hpost, hn.trans (Nat.zero_add _).symm⟩
  | cons c pre ih =>
    rw [byteLen] at hle
    have := c.utf8Size_pos
    cases n with
    | zero => omega
    | succ n =>
      rw [List.cons_append, isCharBoundary] at h
      split_ifs at h with hc
      obtain ⟨chunk, rest, hpost, hn⟩ := ih h (by omega)
      refine ⟨chunk, rest, hpost, ?_⟩
      rw [byteLen]
      omega

/-- **The walk down** from `n` ends at a boundary between `offset` and `n`, and at
the last one of these. -/
theorem backOff_spec {offset : ℕ} (hoffset : isCharBoundary text offset = true) :
    ∀ {n : ℕ}, offset ≤ n →
      isCharBoundary text (backOff text offset n) = true ∧ offset ≤ backOff text offset n ∧
        backOff text offset n ≤ n ∧
        ∀ m, m ≤ n → isCharBoundary text m = true → m ≤ backOff text offset n := by
  intro n
  induction n with
  | zero =>
    intro hle
    obtain rfl : offset = 0 := Nat.le_zero.mp hle
    exact ⟨hoffset, Nat.le_refl 0, Nat.le_refl 0, fun m hm _ => hm⟩
  | succ n ih =>
    intro hle
    rw [backOff]
    split_ifs with hwalk
    · obtain ⟨hboundary, hlow, hhigh, hlast⟩ := ih (Nat.le_of_lt_succ hwalk.1)
      refine ⟨hboundary, hlow, Nat.le_succ_of_le hhigh, fun m hm hmb => ?_⟩
      obtain hm | rfl := Nat.le_succ_iff.mp hm
      · exact hlast m hm hmb
      · rw [hwalk.2] at hmb
        cases hmb
    · refine ⟨?_, hle, Nat.le_refl _, fun m hm _ => hm⟩
      -- the walk stops above `offset` only at a boundary
      obtain hlt | rfl := Nat.lt_or_eq_of_le hle
      · exact (Bool.not_eq_false _).mp fun hfalse => hwalk ⟨hlt, hfalse⟩
      · exact hoffset

/-! ## The bytes themselves -/

/-- The bytes of a text. -/
def utf8 (text : String) : List UInt8 := text.toUTF8.data.toList

theorem length_utf8 (text : String) : (utf8 text).length = text.utf8ByteSize := rfl

theorem utf8_inj {text text' : String} (h : utf8 text = utf8 text') : text = text' :=
  String.toByteArray_inj.mp (ByteArray.ext (Array.toList_inj.mp h))

end Kanna
