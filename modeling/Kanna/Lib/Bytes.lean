import Mathlib.Data.List.Basic

/-!
# Big-endian numbers and length-prefixed fields

A number in a fixed number of bytes, the most significant one first, and byte strings that
are written after their length. A number below `cap width` is read back (`ofBe_toBe`), and a
length-prefixed field can be told from what follows it (`lengthPrefixed_append_inj`).
-/

namespace Kanna.Bytes

/-- The numbers that fit in so many bytes are those below this one. -/
def cap : ℕ → ℕ
  | 0 => 1
  | width + 1 => cap width * 256

/-- A number in so many bytes; what does not fit is cut off. -/
def toBe : ℕ → ℕ → List UInt8
  | 0, _ => []
  | width + 1, n => toBe width (n / 256) ++ [UInt8.ofNat n]

/-- The number that bytes stand for. -/
def ofBe (bytes : List UInt8) : ℕ := bytes.foldl (fun n byte => n * 256 + byte.toNat) 0

@[simp] theorem length_toBe (width n : ℕ) : (toBe width n).length = width := by
  induction width generalizing n with
  | zero => rfl
  | succ width ih => rw [toBe, List.length_append, ih, List.length_singleton]

theorem ofBe_append_singleton (bytes : List UInt8) (byte : UInt8) :
    ofBe (bytes ++ [byte]) = ofBe bytes * 256 + byte.toNat := by
  rw [ofBe, List.foldl_append]
  rfl

theorem ofBe_toBe {width n : ℕ} (h : n < cap width) : ofBe (toBe width n) = n := by
  induction width generalizing n with
  | zero =>
    have hn : n = 0 := Nat.lt_one_iff.mp h
    rw [hn]
    rfl
  | succ width ih =>
    rw [cap] at h
    have hdiv : n / 256 < cap width := Nat.div_lt_of_lt_mul (by rwa [Nat.mul_comm] at h)
    rw [toBe, ofBe_append_singleton, ih hdiv, UInt8.toNat_ofNat']
    exact Nat.div_add_mod' n 256

theorem toBe_inj {width m n : ℕ} (hm : m < cap width) (hn : n < cap width)
    (h : toBe width m = toBe width n) : m = n := by
  rw [← ofBe_toBe hm, h, ofBe_toBe hn]

/-- A field after its length. -/
def lengthPrefixed (width : ℕ) (field : List UInt8) : List UInt8 :=
  toBe width field.length ++ field

theorem lengthPrefixed_append_inj {width : ℕ} {field field' rest rest' : List UInt8}
    (hfield : field.length < cap width) (hfield' : field'.length < cap width)
    (h : lengthPrefixed width field ++ rest = lengthPrefixed width field' ++ rest') :
    field = field' ∧ rest = rest' := by
  rw [lengthPrefixed, lengthPrefixed, List.append_assoc, List.append_assoc] at h
  obtain ⟨hlength, htail⟩ := List.append_inj h (by rw [length_toBe, length_toBe])
  exact List.append_inj htail (toBe_inj hfield hfield' hlength)

end Kanna.Bytes
