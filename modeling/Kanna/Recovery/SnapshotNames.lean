import Kanna.Recovery.SnapshotStore
import Mathlib.Data.List.Nodup

/-!
# The file names of the snapshot store

A session id is turned into two file names, of the snapshot and of the temporary file it is
written to first, and the names found in the directory are read back to find stale temporary
files (`snapshot_store.rs`). Ids come from outside, and the file system may not tell upper and
lower case apart.
-/

namespace Kanna

/-- `str::rsplit_once`: around the last occurrence of the pattern. -/
def rsplitOnce (pattern : List Char) : List Char → Option (List Char × List Char)
  | [] => none
  | c :: rest =>
    match rsplitOnce pattern rest with
    | some (before, after) => some (c :: before, after)
    | none =>
      if pattern.isPrefixOf (c :: rest) then some ([], (c :: rest).drop pattern.length) else none

/-- `Path::with_extension` on a file name; a dot in front does not start an extension. -/
def withExtension (name extension : List Char) : List Char :=
  match rsplitOnce ['.'] name with
  | some (stem, _) => (if stem = [] then name else stem) ++ '.' :: extension
  | none => name ++ '.' :: extension

/-- `parse::<u64>`. -/
def parseU64 (text : List Char) : Option ℕ :=
  let digits := if text.head? = some '+' then text.tail else text
  let value := Nat.ofDigitChars 10 digits 0
  if digits ≠ [] ∧ digits.all Char.isDigit ∧ value < UInt64.size then some value else none

/-- `is_snapshot_temp_file`, for an age that counts as stale. -/
def isSnapshotTempFile (now staleAge : ℕ) (name : List Char) : Bool :=
  match rsplitOnce ".json.tmp-".toList name with
  | none => false
  | some (_, timestamp) =>
    match rsplitOnce ['-'] timestamp with
    | none => false
    | some (_, millis) => (parseU64 millis).any fun millis => staleAge ≤ now - millis

/-- The file name in `file_path`. -/
def snapshotName (sessionId : String) : List Char := sessionId.toList ++ ".json".toList

/-- The file name of the temporary file in `write`. -/
def tempName (sessionId : String) (pid now : ℕ) : List Char :=
  withExtension (snapshotName sessionId)
    ("json.tmp-".toList ++ (toString pid).toList ++ '-' :: (toString now).toList)

/-- The path leads to a file of the directory itself. -/
def IsChild (root path : String) (name : List Char) : Prop :=
  path.toList = root.toList ++ '/' :: name ∧ '/' ∉ name ∧ name ∉ [[], ['.'], ['.', '.']]

open List

variable {c : Char} {before after pattern text : List Char} {sessionId : String} {pid now : ℕ}

theorem rsplitOnce_eq_none (h : c ∉ after) : rsplitOnce [c] after = none := by
  induction after with
  | nil => rfl
  | cons d after ih =>
    rw [mem_cons, not_or] at h
    simp [rsplitOnce, ih h.2, h.1]

theorem rsplitOnce_append (before : List Char) (h : c ∉ after) :
    rsplitOnce [c] (before ++ c :: after) = some (before, after) := by
  induction before with
  | nil => simp [rsplitOnce, rsplitOnce_eq_none h]
  | cons d before ih => simp [rsplitOnce, ih]

theorem rsplitOnce_eq_some (h : rsplitOnce pattern text = some (before, after)) :
    text = before ++ pattern ++ after := by
  induction text generalizing before with
  | nil => cases h
  | cons c text ih =>
    rw [rsplitOnce] at h
    split at h
    next hsome =>
      cases h
      simp [ih hsome]
    next =>
      split_ifs at h with hprefix
      cases h
      obtain ⟨rest, hrest⟩ := isPrefixOf_iff_prefix.mp hprefix
      simp [← hrest]

theorem isDigit_of_mem {n : ℕ} (h : c ∈ (toString n).toList) : c.isDigit = true := by
  rw [Nat.toString_eq_repr, Nat.toList_repr] at h
  exact Nat.isDigit_of_mem_toDigits (by decide) (by decide) h

theorem not_mem_digits (h : c.isDigit = false) (n : ℕ) : c ∉ (toString n).toList := by
  intro hmem
  rw [isDigit_of_mem hmem] at h
  cases h

theorem isSafe_spec (h : isSafe sessionId = true) : sessionId.toList ≠ [] ∧
    '/' ∉ sessionId.toList ∧ sessionId.toList.any Char.isUpper = false := by
  simp only [isSafe, Bool.and_eq_true, Bool.not_eq_true', contains_eq_mem,
    decide_eq_false_iff_not, isEmpty_eq_false_iff] at h
  exact ⟨h.1.1.1.1.1.1.1, h.1.1.1.1.1.2, h.1.1.2⟩

theorem tempName_eq (h : sessionId.toList ≠ []) : tempName sessionId pid now =
    sessionId.toList ++ ".json.tmp".toList ++ '-' :: (toString pid).toList ++
      '-' :: (toString now).toList := by
  have hsplit : rsplitOnce ['.'] (snapshotName sessionId) =
      some (sessionId.toList, "json".toList) := rsplitOnce_append _ (by decide)
  simp [tempName, withExtension, hsplit, h]

/-- A snapshot's name ends in a letter. -/
theorem mem_of_snapshotName_eq (h : snapshotName sessionId = before ++ '-' :: after) :
    'n' ∈ after := by
  have hlast : (snapshotName sessionId).getLast? = some 'n' := by simp [snapshotName]
  rw [h, getLast?_append_cons] at hlast
  obtain heq | hmem := mem_cons.mp (mem_of_getLast? hlast)
  · cases heq
  · exact hmem

theorem parseU64_eq_none (h : 'n' ∈ text) : parseU64 text = none := by
  have hdigits : 'n' ∈ (if text.head? = some '+' then text.tail else text) := by
    split_ifs with hplus
    · obtain ⟨rest, rfl⟩ := head?_eq_some_iff.mp hplus
      simpa using h
    · exact h
  rw [parseU64, if_neg]
  rintro ⟨-, hall, -⟩
  exact absurd (all_eq_true.mp hall _ hdigits) (by decide)

/-- A snapshot is never taken for a temporary file. -/
theorem isSnapshotTempFile_snapshotName (now staleAge : ℕ) (sessionId : String) :
    isSnapshotTempFile now staleAge (snapshotName sessionId) = false := by
  rw [isSnapshotTempFile]
  split
  next => rfl
  next timestamp hpattern =>
  split
  next => rfl
  next middle millis hdash =>
    have hname := rsplitOnce_eq_some hpattern
    rw [rsplitOnce_eq_some hdash, append_assoc middle, singleton_append, ← append_assoc] at hname
    rw [parseU64_eq_none (mem_of_snapshotName_eq hname), Option.any_none]

theorem snapshotName_ne_tempName {other : String} (h : other.toList ≠ []) :
    snapshotName sessionId ≠ tempName other pid now := by
  intro heq
  rw [tempName_eq h] at heq
  exact absurd (isDigit_of_mem (mem_of_snapshotName_eq heq)) (by decide)

/-- The two ids of one temporary name are the same. -/
theorem tempName_inj {other : String} {otherPid otherNow : ℕ} (h : sessionId.toList ≠ [])
    (hother : other.toList ≠ [])
    (heq : tempName sessionId pid now = tempName other otherPid otherNow) : sessionId = other := by
  rw [tempName_eq h, tempName_eq hother] at heq
  -- the numbers hold no dash, so the last two dashes are found again
  have hnow := congrArg (rsplitOnce ['-']) heq
  have hdash := not_mem_digits (show '-'.isDigit = false by decide)
  rw [rsplitOnce_append _ (hdash _), rsplitOnce_append _ (hdash _)] at hnow
  have hpid := congrArg (rsplitOnce ['-']) (Prod.mk.inj (Option.some.inj hnow)).1
  rw [rsplitOnce_append _ (hdash _), rsplitOnce_append _ (hdash _)] at hpid
  exact String.toList_injective (append_cancel_right (Prod.mk.inj (Option.some.inj hpid)).1)

theorem map_toLower (h : text.any Char.isUpper = false) : text.map Char.toLower = text := by
  refine (map_congr_left fun c hc => ?_).trans (map_id _)
  exact dif_neg (of_decide_eq_false (Bool.eq_false_iff.mpr (any_eq_false.mp h c hc)))

/-- There are no upper case letters in the names, so the file system may ignore case. -/
theorem map_toLower_names (pid now : ℕ) (h : isSafe sessionId = true) :
    (snapshotName sessionId).map Char.toLower = snapshotName sessionId ∧
      (tempName sessionId pid now).map Char.toLower = tempName sessionId pid now := by
  obtain ⟨hne, -, hlower⟩ := isSafe_spec h
  have hdigits : ∀ n : ℕ, (toString n).toList.any Char.isUpper = false := by
    intro n
    refine any_eq_false.mpr fun c hc => ?_
    have hdigit := isDigit_of_mem hc
    show ¬ decide (65 ≤ c.val ∧ c.val ≤ 90) = true
    grind [Char.isDigit]
  rw [tempName_eq hne, snapshotName]
  constructor
  · exact map_toLower (by rw [any_append, hlower]; decide)
  · refine map_toLower ?_
    rw [any_append, any_append, any_append, hlower, any_cons, any_cons, hdigits, hdigits]
    decide

theorem isChild_of_mem {root path : String} {name : List Char}
    (hpath : path.toList = root.toList ++ '/' :: name) (hslash : '/' ∉ name) (h : 'j' ∈ name) :
    IsChild root path name := by
  refine ⟨hpath, hslash, fun hdots => ?_⟩
  simp only [mem_cons, not_mem_nil, or_false] at hdots
  obtain rfl | rfl | rfl := hdots <;> simp at h

/-- **Safe ids have their own files.** Both files of a session are in the store's directory; of
two sessions no two files have the same name, whatever the process and the time and even if case
is ignored; and no snapshot is taken for a temporary file. -/
theorem snapshot_names_apart :
    (∀ {F : Type} {C : Type} (ops : FileOps F C) (store : SnapshotStore) (sessionId : String)
      (now : ℕ), isSafe sessionId = true →
      (∃ path, store.filePath ops sessionId = .ok path ∧
        IsChild store.root path (snapshotName sessionId)) ∧
      IsChild store.root (store.tempPath ops sessionId now) (tempName sessionId ops.pid now)) ∧
    (∀ (a b : String) (pidA pidB nowA nowB : ℕ), isSafe a = true → isSafe b = true → a ≠ b →
      ([snapshotName a, tempName a pidA nowA, snapshotName b, tempName b pidB nowB].map
        (List.map Char.toLower)).Nodup) ∧
    ∀ (now staleAge : ℕ) (sessionId : String),
      isSnapshotTempFile now staleAge (snapshotName sessionId) = false := by
  refine ⟨fun ops store sessionId now h => ?_, fun a b pidA pidB nowA nowB ha hb hne => ?_,
    isSnapshotTempFile_snapshotName⟩
  · obtain ⟨hne, hslash, -⟩ := isSafe_spec h
    have hdigits := not_mem_digits (show '/'.isDigit = false by decide)
    refine ⟨⟨_, if_pos h, isChild_of_mem ?_ ?_ ?_⟩, isChild_of_mem ?_ ?_ ?_⟩
    · simp [snapshotName]
    · simp [snapshotName, hslash]
    · simp [snapshotName]
    · simp [tempName_eq hne, SnapshotStore.tempPath]
    · simp only [tempName_eq hne, mem_append, mem_cons, not_or]
      exact ⟨⟨⟨hslash, by decide⟩, by decide, hdigits _⟩, by decide, hdigits _⟩
    · simp [tempName_eq hne]
  · obtain ⟨hneA, -⟩ := isSafe_spec ha
    obtain ⟨hneB, -⟩ := isSafe_spec hb
    simp only [map_cons, map_nil, map_toLower_names pidA nowA ha, map_toLower_names pidB nowB hb,
      nodup_cons, mem_cons, not_mem_nil, or_false, not_or, nodup_nil, and_true, not_false_eq_true]
    refine ⟨⟨snapshotName_ne_tempName hneA, fun heq => hne ?_, snapshotName_ne_tempName hneB⟩,
      ⟨(snapshotName_ne_tempName hneA).symm, fun heq => hne (tempName_inj hneA hneB heq)⟩,
      snapshotName_ne_tempName hneB⟩
    exact String.toList_injective (append_cancel_right heq)

theorem snapshot_names_apart_pair :
    (isSafe "a" = true ∧ isSafe "b" = true) ∧
      ([snapshotName "a", tempName "a" 1 2, snapshotName "b", tempName "b" 1 2].map
        (List.map Char.toLower)).Nodup := by
  obtain ⟨-, hapart, -⟩ := snapshot_names_apart
  exact ⟨by decide, hapart "a" "b" 1 1 2 2 (by decide) (by decide) (by decide)⟩

end Kanna
