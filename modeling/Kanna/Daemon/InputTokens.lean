import Kanna.Daemon.DraftBytes
import Mathlib.Data.List.Infix
import Mathlib.Algebra.GroupWithZero.Nat

/-!
# What a write to the composer is made of

A write is a sequence of keys, reports and pastes. `draft_content_byte_count` has no
other way to find where one ends than to consume exactly its bytes.
`draftContentByteCount_tokens` says that it does: the count of a write is the sum of
the counts of its tokens, whatever stands next to what.

`logical_message_bytes` of `crates/daemon/src/session.rs` writes a message as a paste.
It puts the message between the markers as it is, so a message that holds the end marker
ends its own paste: `readPaste_logicalMessageBytes_iff`.
-/

namespace Kanna

variable {data rest : List UInt8}

/-! ### Where a paste ends -/

open List

theorem pasteLen_append_le (data rest : List UInt8) :
    pasteLen (data ++ (pasteEnd ++ rest)) ≤ data.length := by
  induction data with
  | nil => simp [pasteLen, pasteEnd]
  | cons byte data ih =>
    rw [cons_append, pasteLen]
    split_ifs
    · exact Nat.zero_le _
    · exact Nat.succ_le_succ ih

/-- `ESC` is the first byte of the marker and no other, so a marker does not begin in the
payload and end in the marker behind it. -/
theorem pasteEnd_prefix (h : pasteEnd <+: data ++ (pasteEnd ++ rest)) :
    pasteEnd <+: data ∨ data = [] := by
  obtain hin | ⟨tail, htail⟩ := prefix_or_prefix_of_prefix h (prefix_append data _)
  · exact .inl hin
  have hrest : tail <+: pasteEnd ++ rest := by
    rw [← prefix_append_right_inj data, htail]
    exact h
  match data, tail with
  | [], _ => exact .inr rfl
  | _, [] =>
    rw [← htail, append_nil]
    exact .inl prefix_rfl
  | first :: data, byte :: tail =>
    have hmem : byte ∈ pasteEnd.tail := by
      rw [← htail]
      exact mem_append_right _ mem_cons_self
    rw [(cons_prefix_cons.mp hrest).1] at hmem
    exact absurd hmem (by decide)

/-- The payload is read to its end if and only if it does not hold the marker. -/
theorem pasteLen_append_iff :
    pasteLen (data ++ (pasteEnd ++ rest)) = data.length ↔ ¬ pasteEnd <:+: data := by
  constructor
  · rintro hlen ⟨before, after, rfl⟩
    have hle := pasteLen_append_le before (after ++ (pasteEnd ++ rest))
    simp only [append_assoc, length_append] at hlen hle
    rw [hlen] at hle
    have : pasteEnd.length = 6 := rfl
    omega
  · intro hnot
    induction data with
    | nil => exact Nat.le_zero.mp (pasteLen_append_le [] rest)
    | cons byte data ih =>
      rw [cons_append, pasteLen, if_neg]
      · exact congrArg (· + 1) (ih fun hin => hnot (infix_cons hin))
      · intro hprefix
        rw [ isPrefixOf_iff_prefix, ← cons_append] at hprefix
        obtain hin | hnil := pasteEnd_prefix hprefix
        · exact hnot hin.isInfix
        · cases hnil

/-! ### Tokens -/

/-- What a client or a terminal sends at once. -/
inductive InputToken where
  /-- one byte that starts no sequence -/
  | byte (value : UInt8) (hvalue : value ≠ esc)
  /-- a CSI sequence that neither opens a paste nor introduces a mouse report -/
  | csi (params : List UInt8) (final : UInt8) (hparams : ∀ byte ∈ params, 0x20 ≤ byte ∧ byte ≤ 0x3f)
    (hfinal : 0x40 ≤ final ∧ final ≤ 0x7e)
    (hpaste : esc :: 0x5b :: (params ++ [final]) ≠ pasteStart)
    (hmouse : ¬ (params = [] ∧ final = 0x4d))
  /-- an X10 mouse report -/
  | mouse (button column row : UInt8)
  /-- an SS3 sequence -/
  | ss3 (final : UInt8)
  /-- a string escape, ended by `BEL` or by `ESC \` -/
  | stringEscape (introducer : UInt8) (payload terminator : List UInt8)
    (hintroducer : introducer ∈ stringEscapeIntroducers)
    (hpayload : ∀ byte ∈ payload, byte ≠ bel ∧ byte ≠ esc)
    (hterminator : terminator = [bel] ∨ terminator = [esc, 0x5c])
  /-- a bracketed paste -/
  | paste (payload : List UInt8) (hpayload : ¬ pasteEnd <:+: payload)

namespace InputToken

/-- The bytes of a token, as they are typed. -/
def bytes : InputToken → List UInt8
  | byte value _ => [value]
  | csi params final _ _ _ _ => esc :: 0x5b :: (params ++ [final])
  | mouse button column row => [esc, 0x5b, 0x4d, button, column, row]
  | ss3 final => [esc, 0x4f, final]
  | stringEscape introducer payload terminator _ _ _ =>
    esc :: introducer :: (payload ++ terminator)
  | paste payload _ => pasteStart ++ (payload ++ pasteEnd)

/-- How many bytes of the token can put content at the composer. -/
def content : InputToken → ℕ
  | byte value _ => if isInertControl value then 0 else 1
  | csi params final _ _ _ _ =>
    if final ∈ contentCapableSequenceFinals then params.length + 3 else 0
  | mouse _ _ _ => 0
  | ss3 final => if final ∈ contentCapableSequenceFinals then 3 else 0
  | stringEscape _ _ _ _ _ _ => 0
  | paste payload _ => payload.length

end InputToken

open InputToken (bytes)

/-- An escape that is no paste is consumed with the length `escape_sequence` gives it. -/
theorem draftContentLoop_escape {tail : List UInt8} {contentCapable : Bool}
    (hpaste : ¬ pasteStart <+: esc :: (tail ++ rest))
    (hsequence : escapeSequence (esc :: (tail ++ rest)) = (tail.length + 1, contentCapable))
    (fuel content : ℕ) :
    draftContentLoop (fuel + 1) (esc :: (tail ++ rest)) content =
      draftContentLoop fuel rest (content + if contentCapable then tail.length + 1 else 0) := by
  rw [draftContentLoop, if_neg (mt isPrefixOf_iff_prefix.mp hpaste), if_pos rfl, hsequence]
  dsimp only
  rw [drop_succ_cons, drop_left]
  cases contentCapable <;> rfl

theorem stringEscapeScan_payload {payload tail : List UInt8}
    (hpayload : ∀ byte ∈ payload, byte ≠ bel ∧ byte ≠ esc) (index : ℕ) :
    stringEscapeScan index (payload ++ tail) = stringEscapeScan (index + payload.length) tail := by
  induction payload generalizing index with
  | nil => rfl
  | cons byte payload ih =>
    obtain ⟨hbyte, hpayload⟩ := forall_mem_cons.mp hpayload
    rw [cons_append, stringEscapeScan, if_neg hbyte.1, if_neg hbyte.2, ih hpayload,
      length_cons, Nat.add_assoc, Nat.add_comm 1]

/-- The first byte of a CSI sequence that is no parameter ends it. -/
theorem findIdx?_csi {params : List UInt8} {final : UInt8}
    (hparams : ∀ byte ∈ params, 0x20 ≤ byte ∧ byte ≤ 0x3f) (hfinal : 0x40 ≤ final ∧ final ≤ 0x7e) :
    (params ++ final :: rest).findIdx? (fun byte => 0x40 ≤ byte && byte ≤ 0x7e) =
      some params.length := by
  have hnone : params.findIdx? (fun byte => 0x40 ≤ byte && byte ≤ 0x7e) = none := by
    rw [findIdx?_eq_none_iff]
    intro byte hbyte
    have hle := (hparams byte hbyte).2
    rw [Bool.and_eq_false_iff, decide_eq_false_iff_not, UInt8.not_le]
    exact .inl (UInt8.lt_of_le_of_lt hle (by decide))
  rw [findIdx?_append, hnone, findIdx?_cons]
  simp [hfinal]

/-- **Every token is consumed exactly**, whatever follows it. -/
theorem draftContentLoop_token (token : InputToken) (rest : List UInt8) (fuel content : ℕ) :
    draftContentLoop (fuel + 1) (token.bytes ++ rest) content =
      draftContentLoop fuel rest (content + token.content) := by
  cases token with
  | byte value hvalue =>
    have hpaste : ¬ pasteStart <+: value :: rest := fun h =>
      hvalue (cons_prefix_cons.mp h).1.symm
    rw [bytes, singleton_append, draftContentLoop,
      if_neg (mt isPrefixOf_iff_prefix.mp hpaste), if_neg hvalue, InputToken.content]
    split_ifs <;> rfl
  | csi params final hparams hfinal hpaste hmouse =>
    have hfind := @findIdx?_csi rest _ _ hparams hfinal
    have hsequence : escapeSequence (esc :: 0x5b :: (params ++ final :: rest)) =
        (params.length + 3, contentCapableSequenceFinals.contains final) := by
      rw [escapeSequence, getElem?_cons_succ, getElem?_cons_zero]
      dsimp only
      rw [if_pos rfl, csiSequence, drop_succ_cons, drop_succ_cons, drop_zero, hfind]
      dsimp only
      rw [if_neg]
      · simp
      · rintro ⟨hnil, hM⟩
        obtain rfl := length_eq_zero_iff.mp hnil
        exact hmouse ⟨rfl, Option.some.inj hM⟩
    have hnot : ¬ pasteStart <+: esc :: 0x5b :: (params ++ final :: rest) := by
      rintro ⟨after, hafter⟩
      have htail : [0x32, 0x30, 0x30] ++ 0x7e :: after = params ++ final :: rest :=
        (cons.inj (cons.inj hafter).2).2
      rw [← htail] at hfind
      obtain ⟨rfl, hlast⟩ := append_inj htail (Option.some.inj hfind)
      obtain ⟨rfl, -⟩ := cons.inj hlast
      exact hpaste rfl
    have h := @draftContentLoop_escape rest (0x5b :: (params ++ [final])) _ (by simpa using hnot)
      (by simpa using hsequence) fuel content
    simpa [bytes, InputToken.content] using h
  | mouse button column row =>
    exact @draftContentLoop_escape rest [0x5b, 0x4d, button, column, row] false
      (by simp [pasteStart])
      (by simp [escapeSequence, csiSequence, x10MouseReportLen, findIdx?_cons]) fuel content
  | ss3 final =>
    have h := @draftContentLoop_escape rest [0x4f, final] _ (by simp [pasteStart]) rfl fuel content
    simpa [bytes, InputToken.content] using h
  | stringEscape introducer payload terminator hintroducer hpayload hterminator =>
    have hcsi : introducer ≠ 0x5b := by
      rintro rfl
      exact absurd hintroducer (by decide)
    have hss3 : introducer ≠ 0x4f := by
      rintro rfl
      exact absurd hintroducer (by decide)
    have hscan (index : ℕ) :
        stringEscapeScan index (terminator ++ rest) = some (index + terminator.length) := by
      obtain rfl | rfl := hterminator <;> rfl
    have hlen : stringEscapeLen (esc :: introducer :: (payload ++ (terminator ++ rest))) =
        some (payload.length + terminator.length + 2) :=
      (stringEscapeScan_payload hpayload 2).trans ((hscan _).trans (by congr 1; omega))
    exact @draftContentLoop_escape rest (introducer :: (payload ++ terminator)) false
      (by simp [pasteStart, hcsi.symm])
      (by simp [escapeSequence, hcsi, hss3, hintroducer, hlen]) fuel content
  | paste payload hpayload =>
    have hlen : pasteLen (payload ++ (pasteEnd ++ rest)) = payload.length :=
      pasteLen_append_iff.mpr hpayload
    have hstart (after : List UInt8) : draftContentLoop (fuel + 1) (pasteStart ++ after) content =
        draftContentLoop fuel (after.drop (pasteLen after + pasteEnd.length))
          (content + pasteLen after) :=
      if_pos ( isPrefixOf_iff_prefix.mpr (prefix_append _ _))
    rw [bytes, append_assoc, append_assoc, hstart, hlen, ← drop_drop, drop_left, drop_left]
    rfl

theorem InputToken.length_bytes_pos (token : InputToken) : 0 < token.bytes.length := by
  cases token <;> exact Nat.succ_pos _

/-- **The count of a write is the sum of the counts of its tokens.** -/
theorem draftContentByteCount_tokens (tokens : List InputToken) :
    draftContentByteCount (tokens.flatMap bytes) =
      (tokens.map InputToken.content).sum := by
  have hrun : ∀ fuel content, (tokens.flatMap bytes).length ≤ fuel →
      draftContentLoop fuel (tokens.flatMap bytes) content =
        content + (tokens.map InputToken.content).sum := by
    induction tokens with
    | nil => rintro (_ | fuel) content - <;> rfl
    | cons token tokens ih =>
      intro fuel content hfuel
      have hpos := token.length_bytes_pos
      rw [flatMap_cons, length_append] at hfuel
      cases fuel with
      | zero => omega
      | succ fuel =>
        rw [flatMap_cons, draftContentLoop_token, ih _ _ (by omega), map_cons,
          sum_cons, Nat.add_assoc]
  rw [draftContentByteCount, hrun _ _ (Nat.le_refl _), Nat.zero_add]

/-! ### Messages -/

/-- `PASTE_FRAMING_MIN_LEN`. -/
def pasteFramingMinLen : ℕ := 256

/-- `logical_message_bytes`: the bytes one message puts on the terminal. Its markers are
the bytes of `PASTE_START` and `PASTE_END`. -/
def logicalMessageBytes (data : List UInt8) (bracketedPasteMode : Bool) : List UInt8 :=
  if data.isEmpty then [0x0d]
  else
    let hasNewline := data.any fun byte => byte = 0x0d || byte = 0x0a
    if !bracketedPasteMode || (!hasNewline && data.length < pasteFramingMinLen) then data ++ [0x0d]
    else pasteStart ++ (data ++ (pasteEnd ++ [0x0d]))

/-- The paste at the head of a write, as `draft_content_byte_count` reads it: its payload,
and what follows its end marker. -/
def readPaste (write : List UInt8) : Option (List UInt8 × List UInt8) :=
  if pasteStart.isPrefixOf write then
    let payload := write.drop pasteStart.length
    some (payload.take (pasteLen payload), payload.drop (pasteLen payload + pasteEnd.length))
  else none

/-- **A framed message is read back as one paste and its Enter if and only if it does not
hold the end marker.** -/
theorem readPaste_logicalMessageBytes_iff
    (hframed : logicalMessageBytes data true ≠ data ++ [0x0d]) :
    readPaste (logicalMessageBytes data true) = some (data, [0x0d]) ↔ ¬ pasteEnd <:+: data := by
  rw [logicalMessageBytes] at hframed ⊢
  dsimp only at hframed ⊢
  split_ifs at hframed ⊢ with hempty
  · exact absurd (by rw [isEmpty_iff.mp hempty]; rfl) hframed
  · exact absurd rfl hframed
  have hle := pasteLen_append_le data [0x0d]
  rw [readPaste, if_pos ( isPrefixOf_iff_prefix.mpr (prefix_append _ _)), drop_left,
    ← @pasteLen_append_iff data [0x0d]]
  dsimp only
  constructor
  · intro h
    have hlen := congrArg length (Prod.mk.inj (Option.some.inj h)).1
    rw [length_take, length_append] at hlen
    omega
  · intro hlen
    rw [hlen, take_left, ← drop_drop, drop_left, drop_left]

theorem readPaste_logicalMessageBytes_newline :
    logicalMessageBytes [0x0a] true ≠ [0x0a] ++ [0x0d] ∧
      (readPaste (logicalMessageBytes [0x0a] true) = some ([0x0a], [0x0d]) ↔
        ¬ pasteEnd <:+: [0x0a]) :=
  ⟨by decide, readPaste_logicalMessageBytes_iff (by decide)⟩

/-- A message with the marker in it ends its paste there, and the rest is typed. -/
theorem readPaste_ends_early :
    readPaste (logicalMessageBytes (0x0a :: pasteEnd ++ [0x78]) true) =
      some ([0x0a], 0x78 :: pasteEnd ++ [0x0d]) := by
  decide

end Kanna
