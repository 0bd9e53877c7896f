import Mathlib.Data.List.Basic

/-!
# Base64

The standard alphabet with padding: three bytes are four digits, a last group of one
or two bytes is filled up with `=`.

* `encode`, `decode` — the codec, `decode_encode` its round trip.
* `length_encode`, `padding_encode` — the length of the text and the number of `=` at
  its end, from which the number of bytes can be told without decoding
  (`byteLength_encode`).
* `encodeUrl` — the alphabet for URLs, without padding; `decodeCanonical` and
  `decodeUrl` accept only what is written by `encode` and by `encodeUrl`.
-/

namespace Kanna

namespace Base64

/-- The character of a digit. -/
def digitChar (d : ℕ) : Char :=
  if d < 26 then Char.ofNat (65 + d)
  else if d < 52 then Char.ofNat (71 + d)
  else if d < 62 then Char.ofNat (d - 4)
  else if d = 62 then '+'
  else '/'

/-- The digit of a character. -/
def charDigit (c : Char) : Option ℕ :=
  let n := c.toNat
  if 65 ≤ n ∧ n ≤ 90 then some (n - 65)
  else if 97 ≤ n ∧ n ≤ 122 then some (n - 71)
  else if 48 ≤ n ∧ n ≤ 57 then some (n + 4)
  else if c = '+' then some 62
  else if c = '/' then some 63
  else none

@[simp] theorem charDigit_digitChar : ∀ {d : ℕ}, d < 64 → charDigit (digitChar d) = some d := by
  decide

theorem digitChar_ne_pad : ∀ {d : ℕ}, d < 64 → digitChar d ≠ '=' := by
  decide

/-- The bits of three bytes. -/
def pack (a b c : UInt8) : ℕ := a.toNat * 65536 + b.toNat * 256 + c.toNat

/-- The bits of four digits. -/
def join (w x y z : ℕ) : ℕ := w * 262144 + x * 4096 + y * 64 + z

/-- Bytes as text. -/
def encode : List UInt8 → List Char
  | a :: b :: c :: rest =>
    digitChar (pack a b c / 262144) :: digitChar (pack a b c / 4096 % 64) ::
      digitChar (pack a b c / 64 % 64) :: digitChar (pack a b c % 64) :: encode rest
  | [a, b] =>
    [digitChar (pack a b 0 / 262144), digitChar (pack a b 0 / 4096 % 64),
      digitChar (pack a b 0 / 64 % 64), '=']
  | [a] => [digitChar (pack a 0 0 / 262144), digitChar (pack a 0 0 / 4096 % 64), '=', '=']
  | [] => []

/-- The bytes of a text; only the last group may be padded. -/
def decode : List Char → Option (List UInt8)
  | w :: x :: y :: z :: rest =>
    match charDigit w, charDigit x, charDigit y, charDigit z with
    | some w, some x, some y, some z =>
      (decode rest).map fun bytes =>
        UInt8.ofNat (join w x y z / 65536) :: UInt8.ofNat (join w x y z / 256) ::
          UInt8.ofNat (join w x y z) :: bytes
    | some w, some x, some y, none =>
      if z = '=' ∧ rest = [] then
        some [UInt8.ofNat (join w x y 0 / 65536), UInt8.ofNat (join w x y 0 / 256)]
      else none
    | some w, some x, none, none =>
      if y = '=' ∧ z = '=' ∧ rest = [] then some [UInt8.ofNat (join w x 0 0 / 65536)] else none
    | _, _, _, _ => none
  | [] => some []
  | _ => none

/-! ## The round trip -/

theorem pack_lt (a b c : UInt8) : pack a b c < 16777216 := by
  have ha := a.toNat_lt
  have hb := b.toNat_lt
  have hc := c.toNat_lt
  rw [pack]
  omega

theorem pack_zero (a b : UInt8) : pack a b 0 = a.toNat * 65536 + b.toNat * 256 := by
  rw [pack, UInt8.toNat_zero, Nat.add_zero]

theorem join_digits (n : ℕ) : join (n / 262144) (n / 4096 % 64) (n / 64 % 64) (n % 64) = n := by
  rw [join]
  omega

/-- A group of fewer than 24 bits has no more digits than it needs. -/
theorem join_digits_of_mod {n : ℕ} (h : n % 64 = 0) :
    join (n / 262144) (n / 4096 % 64) (n / 64 % 64) 0 = n := by
  rw [join]
  omega

theorem join_digits_of_mod_mod {n : ℕ} (h : n % 4096 = 0) :
    join (n / 262144) (n / 4096 % 64) 0 0 = n := by
  rw [join]
  omega

theorem ofNat_eq_of_mod {n : ℕ} {a : UInt8} (h : n % 256 = a.toNat) : UInt8.ofNat n = a := by
  apply UInt8.toNat_inj.mp
  rw [UInt8.toNat_ofNat', ← h]

theorem charDigit_pad : charDigit '=' = none := by
  decide

variable (bytes : List UInt8)

/-- **Round trip**: what was encoded is decoded. -/
theorem decode_encode : decode (encode bytes) = some bytes := by
  induction bytes using encode.induct with
  | case1 a b c rest ih =>
    have ha := a.toNat_lt
    have hb := b.toNat_lt
    have hc := c.toNat_lt
    have hn := pack_lt a b c
    simp only [encode, decode, charDigit_digitChar (by omega : pack a b c / 262144 < 64),
      charDigit_digitChar (by omega : pack a b c / 4096 % 64 < 64),
      charDigit_digitChar (by omega : pack a b c / 64 % 64 < 64),
      charDigit_digitChar (by omega : pack a b c % 64 < 64), ih, Option.map_some, join_digits]
    rw [ofNat_eq_of_mod (a := a) (by rw [pack]; omega),
      ofNat_eq_of_mod (a := b) (by rw [pack]; omega),
      ofNat_eq_of_mod (a := c) (by rw [pack]; omega)]
  | case2 a b =>
    have hb := b.toNat_lt
    have hn := pack_lt a b 0
    have hpack := pack_zero a b
    simp only [encode, decode, charDigit_digitChar (by omega : pack a b 0 / 262144 < 64),
      charDigit_digitChar (by omega : pack a b 0 / 4096 % 64 < 64),
      charDigit_digitChar (by omega : pack a b 0 / 64 % 64 < 64), charDigit_pad, and_self, if_true,
      join_digits_of_mod (by omega : pack a b 0 % 64 = 0)]
    rw [ofNat_eq_of_mod (a := a) (by omega), ofNat_eq_of_mod (a := b) (by omega)]
  | case3 a =>
    have ha := a.toNat_lt
    have hpack := pack_zero a 0
    rw [UInt8.toNat_zero] at hpack
    simp only [encode, decode, charDigit_digitChar (by omega : pack a 0 0 / 262144 < 64),
      charDigit_digitChar (by omega : pack a 0 0 / 4096 % 64 < 64), charDigit_pad, and_self,
      if_true, join_digits_of_mod_mod (by omega : pack a 0 0 % 4096 = 0)]
    rw [ofNat_eq_of_mod (a := a) (by omega)]
  | case4 => rfl

/-! ## Lengths -/

/-- The number of `=` at the end of a text, at most two. -/
def padding (text : List Char) : ℕ :=
  if ['=', '='].isSuffixOf text then 2 else if ['='].isSuffixOf text then 1 else 0

/-- The number of bytes of a text, without decoding it. -/
def byteLength (text : List Char) : ℕ := text.length * 3 / 4 - padding text

open List

theorem length_encode : (encode bytes).length = (bytes.length + 2) / 3 * 4 := by
  induction bytes using encode.induct with
  | case1 a b c rest ih =>
    simp [encode, ih]
    omega
  | _ => simp [encode]

/-- What is long enough decides alone how the text ends. -/
theorem isSuffixOf_append (suffix front : List Char) (text : List Char)
    (h : suffix.length ≤ text.length) :
    suffix.isSuffixOf (front ++ text) = suffix.isSuffixOf text := by
  rw [Bool.eq_iff_iff, isSuffixOf_iff_suffix, isSuffixOf_iff_suffix]
  refine ⟨fun hs => ?_, fun hs => hs.trans (suffix_append front text)⟩
  exact suffix_of_suffix_length_le hs (suffix_append front text) h

theorem padding_append {front text : List Char} (h : 2 ≤ text.length) :
    padding (front ++ text) = padding text := by
  rw [padding, padding, isSuffixOf_append ['=', '='] front text h,
    isSuffixOf_append ['='] front text (Nat.le_of_succ_le h)]

theorem padding_of_last (front : List Char) {c : Char} (h : c ≠ '=') :
    padding (front ++ [c]) = 0 := by
  have hone : ['='].isSuffixOf (front ++ [c]) = false := by
    rw [isSuffixOf_append ['='] front [c] (Nat.le_refl 1)]
    simp [isSuffixOf, isPrefixOf, h.symm]
  have htwo : ['=', '='].isSuffixOf (front ++ [c]) = false := by
    rw [Bool.eq_false_iff]
    intro hs
    rw [isSuffixOf_iff_suffix] at hs
    have hsuffix : ['='] <:+ front ++ [c] := (suffix_cons '=' ['=']).trans hs
    rw [← isSuffixOf_iff_suffix, hone] at hsuffix
    cases hsuffix
  rw [padding, htwo, hone]
  rfl

theorem padding_encode : padding (encode bytes) = (bytes.length + 2) / 3 * 3 - bytes.length := by
  induction bytes using encode.induct with
  | case1 a b c rest ih =>
    rcases rest with _ | ⟨d, rest⟩
    · have hlast := padding_of_last [digitChar (pack a b c / 262144),
        digitChar (pack a b c / 4096 % 64), digitChar (pack a b c / 64 % 64)]
        (digitChar_ne_pad (by omega : pack a b c % 64 < 64))
      simpa [encode] using hlast
    · have hlen : 2 ≤ (encode (d :: rest)).length := by
        rw [length_encode, length_cons]
        omega
      have hsplit : encode (a :: b :: c :: d :: rest) =
          [digitChar (pack a b c / 262144), digitChar (pack a b c / 4096 % 64),
            digitChar (pack a b c / 64 % 64), digitChar (pack a b c % 64)] ++
            encode (d :: rest) := by
        rw [encode]
        rfl
      rw [hsplit, padding_append hlen, ih]
      simp
      omega
  | case2 a b =>
    have hne := digitChar_ne_pad (by omega : pack a b 0 / 64 % 64 < 64)
    simp [encode, padding, isSuffixOf, hne.symm]
  | case3 a => simp [encode, padding, isSuffixOf]
  | case4 => rfl

/-- **The length of the bytes** can be read off the text. -/
theorem byteLength_encode : byteLength (encode bytes) = bytes.length := by
  rw [byteLength, length_encode, padding_encode]
  omega

/-! ## The alphabet for URLs -/

/-- A character of the alphabet for URLs. -/
def toUrl (c : Char) : Char := if c = '+' then '-' else if c = '/' then '_' else c

/-- The character of the standard alphabet. -/
def ofUrl (c : Char) : Char := if c = '-' then '+' else if c = '_' then '/' else c

/-- Bytes as text, in the alphabet for URLs and without padding. -/
def encodeUrl (bytes : List UInt8) : List Char := ((encode bytes).filter (· ≠ '=')).map toUrl

/-- The bytes of a text that `encode` has written, not of one with other last bits. -/
def decodeCanonical (text : List Char) : Option (List UInt8) :=
  (decode text).bind fun bytes => if encode bytes = text then some bytes else none

/-- The bytes of a text that `encodeUrl` has written. -/
def decodeUrl (text : List Char) : Option (List UInt8) :=
  (decode (text.map ofUrl ++ List.replicate ((4 - text.length % 4) % 4) '=')).bind fun bytes =>
    if encodeUrl bytes = text then some bytes else none

/-- A text is digits, filled up to a multiple of four. -/
theorem encode_eq_digits :
    ∃ digits : List ℕ, (∀ d ∈ digits, d < 64) ∧
      encode bytes = digits.map digitChar ++ replicate ((4 - digits.length % 4) % 4) '=' := by
  induction bytes using encode.induct with
  | case1 a b c rest ih =>
    obtain ⟨digits, hdigits, htext⟩ := ih
    have hn := pack_lt a b c
    refine ⟨pack a b c / 262144 :: pack a b c / 4096 % 64 :: pack a b c / 64 % 64 ::
      pack a b c % 64 :: digits, ?_, ?_⟩
    · simp only [forall_mem_cons]
      exact ⟨by omega, by omega, by omega, by omega, hdigits⟩
    · rw [encode, htext]
      simp [Nat.add_assoc, Nat.reduceAdd]
  | case2 a b =>
    have hn := pack_lt a b 0
    refine ⟨[pack a b 0 / 262144, pack a b 0 / 4096 % 64, pack a b 0 / 64 % 64], ?_, rfl⟩
    simp only [forall_mem_cons]
    exact ⟨by omega, by omega, by omega, by simp⟩
  | case3 a =>
    have hn := pack_lt a 0 0
    refine ⟨[pack a 0 0 / 262144, pack a 0 0 / 4096 % 64], ?_, rfl⟩
    simp only [forall_mem_cons]
    exact ⟨by omega, by omega, by simp⟩
  | case4 => exact ⟨[], by simp, rfl⟩

theorem ofUrl_toUrl_digitChar : ∀ {d : ℕ}, d < 64 → ofUrl (toUrl (digitChar d)) = digitChar d := by
  decide

/-- The digits of a text are what is left without the padding. -/
theorem filter_digits {digits : List ℕ} (h : ∀ d ∈ digits, d < 64) (n : ℕ) :
    (digits.map digitChar ++ replicate n '=').filter (· ≠ '=') = digits.map digitChar := by
  rw [filter_append, filter_replicate_of_neg (by decide), append_nil, filter_eq_self]
  intro c hc
  obtain ⟨d, hd, rfl⟩ := mem_map.mp hc
  exact decide_eq_true (digitChar_ne_pad (h d hd))

theorem decodeCanonical_encode : decodeCanonical (encode bytes) = some bytes := by
  rw [decodeCanonical, decode_encode, Option.bind_some, if_pos rfl]

theorem decodeUrl_encodeUrl : decodeUrl (encodeUrl bytes) = some bytes := by
  obtain ⟨digits, hdigits, htext⟩ := encode_eq_digits bytes
  have hurl : encodeUrl bytes = (digits.map digitChar).map toUrl := by
    rw [encodeUrl, htext, filter_digits hdigits]
  have hback : (encodeUrl bytes).map ofUrl = digits.map digitChar := by
    rw [hurl, map_map, map_map]
    exact map_congr_left fun d hd => ofUrl_toUrl_digitChar (hdigits d hd)
  have hlength : (encodeUrl bytes).length = digits.length := by
    rw [hurl, length_map, length_map]
  rw [decodeUrl, hback, hlength, ← htext, decode_encode, Option.bind_some, if_pos rfl]

theorem length_encodeUrl_le : (encodeUrl bytes).length ≤ (bytes.length + 2) / 3 * 4 := by
  rw [encodeUrl, length_map, ← length_encode]
  exact length_filter_le _ _

/-- Every character of a text is one byte. -/
theorem utf8Size_of_mem_encode {bytes : List UInt8} {c : Char} (h : c ∈ encode bytes) :
    c.utf8Size = 1 ∧ (toUrl c).utf8Size = 1 := by
  have hdigit : ∀ {d : ℕ}, d < 64 →
      (digitChar d).utf8Size = 1 ∧ (toUrl (digitChar d)).utf8Size = 1 := by decide
  obtain ⟨digits, hdigits, htext⟩ := encode_eq_digits bytes
  rw [htext] at h
  obtain h | h := mem_append.mp h
  · obtain ⟨d, hd, rfl⟩ := mem_map.mp h
    exact hdigit (hdigits d hd)
  · rw [eq_of_mem_replicate h]
    decide

theorem utf8Size_of_mem_encodeUrl {bytes : List UInt8} {c : Char} (h : c ∈ encodeUrl bytes) :
    c.utf8Size = 1 := by
  obtain ⟨d, hd, rfl⟩ := mem_map.mp h
  exact (utf8Size_of_mem_encode (mem_of_mem_filter hd)).2

end Base64

end Kanna
