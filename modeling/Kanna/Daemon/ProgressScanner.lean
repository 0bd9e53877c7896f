import Kanna.Daemon.DraftBytes
import Kanna.Lib.Text

/-!
# Progress reports in the terminal output

`crates/daemon/src/detection/progress.rs`: an incremental scanner keeps the last report
`ESC ] 9 ; 4 ; <state> [; <percent>]` that a session has written, ended by `BEL` or by `ESC \`.

A report may come after anything. `latest_report_iff` says when it is read: unless the output
before it ends with an `ESC` inside another payload. The scanner takes the `ESC` of the report
for the byte that decides about that one, and goes back to plain text.
-/

namespace Kanna.Progress

/-- The states a report can carry. -/
inductive ProgressState where
  | removed
  | normal
  | error
  | indeterminate
  | paused
  deriving DecidableEq

/-- `ProgressState::from_code`. -/
def ProgressState.fromCode : ℕ → Option ProgressState
  | 0 => some .removed
  | 1 => some .normal
  | 2 => some .error
  | 3 => some .indeterminate
  | 4 => some .paused
  | _ => none

/-- A report, whose percentage is at most 100. -/
structure ProgressReport where
  state : ProgressState
  percent : Option (Fin 101)
  deriving DecidableEq

/-- `MAX_PAYLOAD`. -/
def maxPayload : ℕ := 64

/-- Where the scanner is in a sequence. -/
inductive ScanState where
  | text
  /-- after `ESC` -/
  | escape
  /-- inside `ESC ] ...` -/
  | payload
  /-- after `ESC` in there -/
  | payloadEscape
  deriving DecidableEq

/-- The scanner; its payload is ASCII. -/
structure ProgressScanner where
  state : ScanState
  /-- of the sequence that is being read -/
  payload : List UInt8
  /-- the payload is not a report, and the rest of it is skipped -/
  ignoring : Bool
  /-- the report read last -/
  latest : Option ProgressReport

/-- `str::trim` of an ASCII text. -/
def trim (text : List UInt8) : List UInt8 :=
  trimWhere (fun byte => isWhitespace (Char.ofNat byte.toNat)) text

/-- `parse::<u8>`: digits, perhaps after a plus. -/
def parseU8 (text : List UInt8) : Option ℕ :=
  let digits := if text.head? = some 0x2b then text.tail else text
  if digits = [] ∨ ¬ digits.all (fun byte => 0x30 ≤ byte && byte ≤ 0x39) then none
  else
    let value := digits.foldl (fun value byte => 10 * value + (byte.toNat - 0x30)) 0
    if value < 256 then some value else none

/-- The report of a payload `9;4;state;percent`. -/
def parseProgress (payload : List UInt8) : Option ProgressReport :=
  match payload.splitOn 0x3b with
  | [0x39] :: [0x34] :: state :: rest => do
    let state ← (parseU8 (trim state)).bind ProgressState.fromCode
    let percent := (rest.head?.bind fun value => parseU8 (trim value)).bind fun percent =>
      if h : percent < 101 then some ⟨percent, h⟩ else none
    return ⟨state, percent⟩
  | _ => none

namespace ProgressScanner

/-- Nothing was read yet. -/
def new : ProgressScanner := ⟨.text, [], false, none⟩

/-- A byte of the payload; a payload that is too long or not ASCII is ignored. -/
def accumulate (s : ProgressScanner) (byte : UInt8) : ProgressScanner :=
  if s.ignoring then s
  else if s.payload.length ≥ maxPayload then { s with ignoring := true, payload := [] }
  else if byte < 0x80 then { s with payload := s.payload ++ [byte] }
  else { s with ignoring := true, payload := [] }

/-- The sequence is terminated. -/
def finish (s : ProgressScanner) : ProgressScanner where
  latest := if s.ignoring then s.latest else (parseProgress s.payload).or s.latest
  payload := []
  ignoring := false
  state := .text

/-- One byte. -/
def push (s : ProgressScanner) (byte : UInt8) : ProgressScanner :=
  match s.state with
  | .text => if byte = esc then { s with state := .escape } else s
  | .escape =>
    if byte = 0x5d then { s with payload := [], ignoring := false, state := .payload }
    else if byte = esc then s
    else { s with state := .text }
  | .payload =>
    if byte = bel then s.finish
    else if byte = esc then { s with state := .payloadEscape }
    else s.accumulate byte
  | .payloadEscape =>
    if byte = 0x5c then s.finish
    else if byte = 0x5d then { s with payload := [], ignoring := false, state := .payload }
    -- an `ESC` as well
    else { s with payload := [], state := .text }

/-- A chunk of output. -/
def write (s : ProgressScanner) (bytes : List UInt8) : ProgressScanner := bytes.foldl push s

end ProgressScanner

/-! ### Reports -/

/-- The code of a state, and the percentage in decimal. -/
def ProgressReport.payload (report : ProgressReport) : List UInt8 :=
  let state : UInt8 := match report.state with
    | .removed => 0x30
    | .normal => 0x31
    | .error => 0x32
    | .indeterminate => 0x33
    | .paused => 0x34
  0x39 :: 0x3b :: 0x34 :: 0x3b :: state :: match report.percent with
  | none => []
  | some percent => 0x3b :: (Nat.toDigits 10 percent).map Char.toUInt8

/-- The report ends with `ESC \`, or with `BEL`. -/
def ProgressReport.bytes (report : ProgressReport) (stringTerminated : Bool) : List UInt8 :=
  esc :: 0x5d :: report.payload ++ if stringTerminated then [esc, 0x5c] else [bel]

/-- What the payload of a report consists of. -/
def isPlain (byte : UInt8) : Bool := byte ≠ esc ∧ byte ≠ bel ∧ byte < 0x80

variable (report : ProgressReport)

theorem payload_ok : parseProgress report.payload = some report ∧
    report.payload.length ≤ maxPayload ∧ report.payload.all isPlain = true := by
  obtain ⟨state, percent⟩ := report
  cases percent with
  | none => cases state <;> decide
  | some percent =>
    revert percent
    cases state <;> decide

namespace ProgressScanner

variable {s : ProgressScanner} {bytes payload : List UInt8} {latest : Option ProgressReport}

/-- A payload that is short and plain is buffered. -/
theorem write_payload (hlength : payload.length + bytes.length ≤ maxPayload)
    (hplain : bytes.all isPlain = true) :
    write ⟨.payload, payload, false, latest⟩ bytes =
      ⟨.payload, payload ++ bytes, false, latest⟩ := by
  induction bytes generalizing payload with
  | nil => rw [List.append_nil]; rfl
  | cons byte bytes ih =>
    rw [List.all_cons, Bool.and_eq_true] at hplain
    obtain ⟨hesc, hbel, hascii⟩ := of_decide_eq_true hplain.1
    rw [List.length_cons] at hlength
    have hpush : push ⟨.payload, payload, false, latest⟩ byte =
        ⟨.payload, payload ++ [byte], false, latest⟩ := by
      have hroom : ¬ payload.length ≥ maxPayload := by omega
      simp [push, accumulate, hbel, hesc, hroom, hascii]
    rw [write, List.foldl_cons, hpush]
    refine (ih ?_ hplain.2).trans (by rw [List.append_assoc]; rfl)
    rw [List.length_append, List.length_singleton]
    omega

/-- Without `ESC` there is only text. -/
theorem write_text (hstate : s.state = .text) (hplain : bytes.all isPlain = true) :
    s.write bytes = s := by
  induction bytes with
  | nil => rfl
  | cons byte bytes ih =>
    rw [List.all_cons, Bool.and_eq_true] at hplain
    obtain ⟨hesc, -⟩ := of_decide_eq_true hplain.1
    have hpush : s.push byte = s := by simp [push, hstate, hesc]
    rw [write, List.foldl_cons, hpush]
    exact ih hplain.2

theorem write_append (s : ProgressScanner) (bytes bytes' : List UInt8) :
    s.write (bytes ++ bytes') = (s.write bytes).write bytes' := List.foldl_append

/-- From any other state, what came before does not matter. -/
theorem latest_report (stringTerminated : Bool) (hstate : s.state ≠ .payloadEscape) :
    (s.write (report.bytes stringTerminated)).latest = some report := by
  obtain ⟨hparse, hlength, hplain⟩ := payload_ok report
  have hstart : s.write [esc, 0x5d] = ⟨.payload, [], false, s.latest⟩ := by
    obtain ⟨state, payload, ignoring, latest⟩ := s
    cases state with
    | payloadEscape => exact absurd rfl hstate
    | _ => rfl
  have hread : s.write (esc :: 0x5d :: report.payload) =
      ⟨.payload, report.payload, false, s.latest⟩ := by
    refine (s.write_append [esc, 0x5d] report.payload).trans ?_
    rw [hstart]
    exact write_payload (by simpa using hlength) hplain
  rw [ProgressReport.bytes, write_append, hread]
  cases stringTerminated <;> simp [write, push, finish, hparse, esc, bel]

/-- After an `ESC` in a payload, the report is text. -/
theorem latest_of_payloadEscape (stringTerminated : Bool) (hstate : s.state = .payloadEscape) :
    (s.write (report.bytes stringTerminated)).latest = s.latest := by
  have hpush : s.push esc = { s with payload := [], state := .text } := by
    simp [push, hstate, esc]
  have hplain : (0x5d :: report.payload).all isPlain = true :=
    (payload_ok report).2.2
  have htext : s.write (esc :: 0x5d :: report.payload) =
      { s with payload := [], state := .text } := by
    rw [write, List.foldl_cons, hpush]
    exact write_text rfl hplain
  rw [ProgressReport.bytes, write_append, htext]
  cases stringTerminated <;> rfl

end ProgressScanner

open ProgressScanner

/-- **When a report is read**, in whatever chunks it and the output before it come: unless the
output ends with an `ESC` inside a payload, and the last report before was another one. -/
theorem latest_report_iff {before : List UInt8} {report : ProgressReport} {stringTerminated : Bool}
    {chunks : List (List UInt8)}
    (hchunks : chunks.flatten = before ++ report.bytes stringTerminated) :
    (chunks.foldl write new).latest = some report ↔
      (new.write before).state ≠ .payloadEscape ∨ (new.write before).latest = some report := by
  have hwrite : chunks.foldl write new =
      (new.write before).write (report.bytes stringTerminated) := by
    rw [← write_append, ← hchunks]
    exact List.foldl_flatten.symm
  rw [hwrite]
  by_cases hstate : (new.write before).state = .payloadEscape
  · rw [latest_of_payloadEscape report stringTerminated hstate]
    exact ⟨.inr, fun h => h.resolve_left (not_not.mpr hstate)⟩
  · exact iff_of_true (latest_report report stringTerminated hstate) (.inl hstate)

/-- A report in two chunks, after a title that was not ended. -/
theorem latest_report_iff_split :
    ([[esc, 0x5d, 0x30, esc], [0x5b] ++ ProgressReport.bytes ⟨.error, some 0⟩ true].foldl write
      new).latest = some ⟨.error, some 0⟩ :=
  (@latest_report_iff [esc, 0x5d, 0x30, esc, 0x5b] ⟨.error, some 0⟩ true _ rfl).mpr
    (.inl (by decide))

/-- After a title that ends with an `ESC`, a report is not seen. -/
theorem report_after_escape_lost :
    (new.write ([esc, 0x5d, 0x30, esc] ++ ProgressReport.bytes ⟨.error, some 0⟩ false)).latest =
      none := by
  decide

end Kanna.Progress
