import Mathlib.Data.List.Basic

/-!
# White space and lengths of strings

What programs in Rust and in JavaScript ask of a string: what is left of it without the white
space around it, and how long it is. The two languages differ in what is white space.
-/

namespace Kanna

/-- What is left between the white space at both ends. -/
def trimWhere {α : Type} (isSpace : α → Bool) (text : List α) : List α :=
  ((text.dropWhile isSpace).reverse.dropWhile isSpace).reverse

/-- `char::is_whitespace` of Rust: the white space of Unicode. -/
def isWhitespace (c : Char) : Bool :=
  (9 ≤ c.toNat && c.toNat ≤ 13) || c.toNat = 32 || c.toNat = 133 || c.toNat = 160 ||
    c.toNat = 5760 || (8192 ≤ c.toNat && c.toNat ≤ 8202) || c.toNat = 8232 || c.toNat = 8233 ||
    c.toNat = 8239 || c.toNat = 8287 || c.toNat = 12288

/-- `str::trim` of Rust. -/
def trim (text : String) : String := String.ofList (trimWhere isWhitespace text.toList)

/-- White space in JavaScript, with the mark of the byte order and without `NEL`. -/
def jsWhitespace (c : Char) : Bool := isWhitespace c && c.toNat ≠ 133 || c.toNat = 65279

/-- `String.prototype.trim` of JavaScript. -/
def jsTrim (text : String) : String := String.ofList (trimWhere jsWhitespace text.toList)

/-- The `length` of a string in JavaScript: its code units. -/
def utf16Length : List Char → ℕ
  | [] => 0
  | c :: text => (if c.toNat < 65536 then 1 else 2) + utf16Length text

theorem utf16Length_append (pre post : List Char) :
    utf16Length (pre ++ post) = utf16Length pre + utf16Length post := by
  induction pre with
  | nil => exact (Nat.zero_add _).symm
  | cons c pre ih => rw [List.cons_append, utf16Length, utf16Length, ih, Nat.add_assoc]

end Kanna
