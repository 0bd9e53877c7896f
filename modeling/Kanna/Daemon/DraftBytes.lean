import Mathlib.Data.List.Basic

/-!
# Which draft bytes can put text at a composer

`crates/daemon/src/draft_bytes.rs`: a producer declares bytes a draft, and
`draft_content_byte_count` counts those among them that can create composer
content. Bytes that only move, scroll, delete or abandon create none. The count
being zero is what the ledger of `crates/daemon/src/session.rs` looks at.

The source walks an index over the write; here the walk is over what is left of
the write, with the write's length as its fuel. `DraftIndices` shows that
this is enough: every turn consumes at least one byte.
-/

namespace Kanna

/-- `ESC`. -/
def esc : UInt8 := 0x1b

/-- `BEL`. -/
def bel : UInt8 := 0x07

/-- `DEL`. -/
def del : UInt8 := 0x7f

/-- `PASTE_START`: `ESC [ 2 0 0 ~`. -/
def pasteStart : List UInt8 := [esc, 0x5b, 0x32, 0x30, 0x30, 0x7e]

/-- `PASTE_END`: `ESC [ 2 0 1 ~`. -/
def pasteEnd : List UInt8 := [esc, 0x5b, 0x32, 0x30, 0x31, 0x7e]

/-- `X10_MOUSE_REPORT_LEN`: `ESC [ M` and three coordinate bytes. -/
def x10MouseReportLen : ℕ := 6

/-- `CONTENT_CAPABLE_SEQUENCE_FINALS`: cursor up and down recall a line. -/
def contentCapableSequenceFinals : List UInt8 := [0x41, 0x42]

/-- `STRING_ESCAPE_INTRODUCERS`: DCS, OSC, SOS, PM and APC. -/
def stringEscapeIntroducers : List UInt8 := [0x50, 0x5d, 0x58, 0x5e, 0x5f]

/-- `is_inert_control`: the controls that cannot put a character at the composer. -/
def isInertControl (byte : UInt8) : Bool :=
  byte ≤ 0x08 || byte = 0x0b || byte = 0x0c || byte = 0x15 || byte = 0x17 || byte = 0x1a ||
    (0x1c ≤ byte && byte ≤ 0x1f) || byte = del

/-- The scan of `string_escape_len` from `index` on; `rest` is the write from there. -/
def stringEscapeScan (index : ℕ) : List UInt8 → Option ℕ
  | [] => none
  | byte :: rest =>
    if byte = bel then some (index + 1)
    else if byte = esc then
      -- only `ESC \` terminates the string
      if rest.head? = some 0x5c then some (index + 2) else none
    else stringEscapeScan (index + 1) rest

/-- `string_escape_len`: how far a terminated string escape extends. -/
def stringEscapeLen (data : List UInt8) : Option ℕ :=
  stringEscapeScan 2 (data.drop 2)

/-- The CSI arm of `escape_sequence`: parameters, then a final byte. -/
def csiSequence (data : List UInt8) : ℕ × Bool :=
  match (data.drop 2).findIdx? fun byte => 0x40 ≤ byte && byte ≤ 0x7e with
  | some offset =>
    if offset = 0 ∧ data[2]? = some 0x4d then (min x10MouseReportLen data.length, false)
    else (offset + 3, data[offset + 2]?.any contentCapableSequenceFinals.contains)
  | none => (data.length, false)

/-- `escape_sequence`: how many bytes the escape at the head of `data` occupies,
and whether it can create content. -/
def escapeSequence (data : List UInt8) : ℕ × Bool :=
  match data[1]? with
  | none => (1, false)
  | some introducer =>
    if introducer = 0x5b then csiSequence data
    else if introducer = 0x4f then
      match data[2]? with
      | some final => (3, contentCapableSequenceFinals.contains final)
      | none => (data.length, false)
    else if stringEscapeIntroducers.contains introducer then
      match stringEscapeLen data with
      | some len => (len, false)
      | none => (2, false)
    else (2, false)

/-- Where the paste in `payload` ends: at the end marker, or with the write. -/
def pasteLen : List UInt8 → ℕ
  | [] => 0
  | byte :: rest =>
    if pasteEnd.isPrefixOf (byte :: rest) then 0 else pasteLen rest + 1

/-- The loop of `draft_content_byte_count` over what is left of the write. -/
def draftContentLoop : ℕ → List UInt8 → ℕ → ℕ
  | 0, _, content => content
  | _ + 1, [], content => content
  | fuel + 1, byte :: tail, content =>
    if pasteStart.isPrefixOf (byte :: tail) then
      -- a bracketed paste is content by construction
      let payload := (byte :: tail).drop pasteStart.length
      draftContentLoop fuel (payload.drop (pasteLen payload + pasteEnd.length))
        (content + pasteLen payload)
    else if byte = esc then
      let (consumed, contentCapable) := escapeSequence (byte :: tail)
      draftContentLoop fuel ((byte :: tail).drop consumed)
        (if contentCapable then content + consumed else content)
    else draftContentLoop fuel tail (if isInertControl byte then content else content + 1)

/-- `draft_content_byte_count`: how many of the declared bytes could put content
at the composer. -/
def draftContentByteCount (data : List UInt8) : ℕ :=
  draftContentLoop data.length data 0

theorem stringEscapeScan_bounds {index len : ℕ} {rest : List UInt8}
    (h : stringEscapeScan index rest = some len) : index < len ∧ len ≤ index + rest.length := by
  induction rest generalizing index with
  | nil => cases h
  | cons byte rest ih =>
    rw [stringEscapeScan] at h
    rw [List.length_cons]
    split_ifs at h with hbel hesc hst
    · cases h
      omega
    · cases h
      obtain ⟨rest, rfl⟩ := List.head?_eq_some_iff.mp hst
      rw [List.length_cons]
      omega
    · have := ih h
      omega

variable {data : List UInt8}

theorem csiSequence_bounds (hdata : 2 ≤ data.length) :
    0 < (csiSequence data).1 ∧ (csiSequence data).1 ≤ data.length := by
  rw [csiSequence]
  split
  next offset hoffset =>
    obtain ⟨hlt, -⟩ := List.findIdx?_eq_some_iff_getElem.mp hoffset
    rw [List.length_drop] at hlt
    split_ifs
    · exact ⟨Nat.lt_min.mpr ⟨by decide, by omega⟩, Nat.min_le_right _ _⟩
    · exact ⟨Nat.succ_pos _, by dsimp only; omega⟩
  next => exact ⟨by omega, Nat.le_refl _⟩

/-- An escape sequence is never empty, so the walk goes on behind it, and ends in the write. -/
theorem escapeSequence_bounds (hdata : 0 < data.length) :
    0 < (escapeSequence data).1 ∧ (escapeSequence data).1 ≤ data.length := by
  rw [escapeSequence]
  split
  next => exact ⟨Nat.one_pos, hdata⟩
  next introducer hone =>
    obtain ⟨hlength, -⟩ := List.getElem?_eq_some_iff.mp hone
    split_ifs
    · exact csiSequence_bounds hlength
    · split
      next final htwo => exact ⟨Nat.succ_pos _, (List.getElem?_eq_some_iff.mp htwo).1⟩
      next => exact ⟨hdata, Nat.le_refl _⟩
    · split
      next len hlen =>
        obtain ⟨hlt, hle⟩ := stringEscapeScan_bounds hlen
        rw [List.length_drop, Nat.add_sub_cancel' hlength] at hle
        exact ⟨Nat.lt_trans Nat.two_pos hlt, hle⟩
      next => exact ⟨Nat.two_pos, hlength⟩
    · exact ⟨Nat.two_pos, hlength⟩

/-- A write that counts has bytes, so the writer will not drop it unwritten. -/
theorem ne_nil_of_draftContentByteCount (h : draftContentByteCount data ≠ 0) : data ≠ [] := by
  rintro rfl
  exact h rfl

-- an arrow to the right creates nothing, an arrow up may recall a line
example : draftContentByteCount [esc, 0x5b, 0x43] = 0 := by decide

example : draftContentByteCount [esc, 0x5b, 0x41] = 3 := by decide

end Kanna
