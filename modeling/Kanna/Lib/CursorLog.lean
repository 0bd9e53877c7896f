import Mathlib.Tactic.Common

/-!
# Logs that are read with a cursor

A log of records with increasing numbers, to which records are only ever appended, and its page
reads: the next records of interest after a cursor, at most so many, and the cursor to go on from.
The cursor of a page is the number of its last record if the page was cut, and the head of the log
otherwise; either way the page has exactly the records of interest between the two cursors
(`page_records`). What lies between two cursors of the log does not change any more
(`between_append`), pages that follow each other join (`between_trans`), and so does a part of a
page that is cut again (`take_between`).
-/

namespace Kanna

/-- A log of records, numbered by `seq` from one on. -/
structure CursorLog (α : Type) (seq : α → ℕ) where
  records : List α
  /-- the highest number given out -/
  head : ℕ
  sorted : records.Pairwise fun a b => seq a < seq b
  bounded : ∀ a ∈ records, 0 < seq a ∧ seq a ≤ head

/-- A page of a log. -/
structure LogPage (α : Type) where
  records : List α
  /-- where to go on -/
  cursor : ℕ
  /-- there are more records of interest -/
  more : Bool

namespace CursorLog

variable {α : Type} {seq : α → ℕ}

/-- A log without records. -/
def empty : CursorLog α seq := ⟨[], 0, .nil, nofun⟩

/-- A record with a new number is appended. -/
def append (log : CursorLog α seq) (a : α) (h : log.head < seq a) : CursorLog α seq where
  records := log.records ++ [a]
  head := seq a
  sorted := by
    refine List.pairwise_append.mpr ⟨log.sorted, List.pairwise_singleton _ _, fun b hb c hc => ?_⟩
    rw [List.mem_singleton.mp hc]
    exact Nat.lt_of_le_of_lt (log.bounded b hb).2 h
  bounded b hb := by
    rcases List.mem_append.mp hb with hb | hb
    · exact ⟨(log.bounded b hb).1, Nat.le_of_lt (Nat.lt_of_le_of_lt (log.bounded b hb).2 h)⟩
    · rw [List.mem_singleton.mp hb]
      exact ⟨Nat.zero_lt_of_lt h, Nat.le_refl _⟩

/-- The records of interest with numbers in `(a, b]`. -/
def between (log : CursorLog α seq) (keep : α → Bool) (a b : ℕ) : List α :=
  log.records.filter fun r => keep r && decide (a < seq r) && decide (seq r ≤ b)

/-- The records of interest up to a number. -/
def upTo (log : CursorLog α seq) (keep : α → Bool) (b : ℕ) : List α :=
  log.records.filter fun r => keep r && decide (seq r ≤ b)

/-- The next records of interest after a cursor. -/
def page (log : CursorLog α seq) (keep : α → Bool) (after limit : ℕ) : LogPage α :=
  let rows := (log.between keep after log.head).take (limit + 1)
  if limit < rows.length then
    ⟨rows.take limit, ((rows.take limit).getLast?.map seq).getD after, true⟩
  else ⟨rows, log.head, false⟩

variable {log : CursorLog α seq} {keep : α → Bool} {a b c : ℕ} {r : α}

theorem mem_between : r ∈ log.between keep a b ↔
    r ∈ log.records ∧ keep r = true ∧ a < seq r ∧ seq r ≤ b := by
  simp [between, and_assoc]

open List

/-- Every number is at least one. -/
theorem between_zero : log.between keep 0 b = log.upTo keep b := by
  refine filter_congr fun r hr => ?_
  simp [(log.bounded r hr).1]

theorem between_of_le (h : b ≤ a) : log.between keep a b = [] := by
  refine filter_eq_nil_iff.mpr fun r _ => ?_
  simp
  omega

theorem sorted_between : (log.between keep a b).Pairwise fun r s => seq r < seq s :=
  log.sorted.filter _

/-- Two filters of a sorted list, of which the second one starts where the first one stops. -/
theorem filter_append_filter {R : α → α → Prop} {p q : α → Bool} {l : List α} (hl : l.Pairwise R)
    (hstops : ∀ x y, R x y → q x = true → p y = false) (hdisjoint : ∀ x, p x = true → q x = false) :
    l.filter p ++ l.filter q = l.filter fun x => p x || q x := by
  induction l with
  | nil => rfl
  | cons x l ih =>
    obtain ⟨hx, hl⟩ := pairwise_cons.mp hl
    by_cases hp : p x = true
    · rw [filter_cons_of_pos hp, filter_cons_of_neg (by simp [hdisjoint x hp]),
        filter_cons_of_pos (by simp [hp]), cons_append, ih hl]
    · by_cases hq : q x = true
      · have hnone : l.filter p = [] :=
          filter_eq_nil_iff.mpr fun y hy => by simp [hstops x y (hx y hy) hq]
        rw [filter_cons_of_neg hp, filter_cons_of_pos hq,
          filter_cons_of_pos (by simp [hq]), ← ih hl, hnone, nil_append, nil_append]
      · rw [filter_cons_of_neg hp, filter_cons_of_neg hq,
          filter_cons_of_neg (by simp [hp, hq]), ih hl]

/-- What is between three cursors. -/
theorem between_trans (hab : a ≤ b) (hbc : b ≤ c) :
    log.between keep a b ++ log.between keep b c = log.between keep a c := by
  rw [between, between, filter_append_filter log.sorted]
  · refine filter_congr fun r _ => ?_
    rw [Bool.eq_iff_iff]
    cases keep r with
    | false => simp
    | true =>
      simp
      omega
  · intro x y hlt hx
    simp only [Bool.and_eq_true, decide_eq_true_eq] at hx
    simp
    omega
  · intro x hx
    simp only [Bool.and_eq_true, decide_eq_true_eq] at hx
    simp
    omega

/-- What is between two cursors of the log stays. -/
theorem between_append (h : log.head < seq r) (hb : b ≤ log.head) :
    (log.append r h).between keep a b = log.between keep a b := by
  rw [between, append, filter_append]
  have hnone : ([r].filter fun r => keep r && decide (a < seq r) && decide (seq r ≤ b)) = [] := by
    refine filter_eq_nil_iff.mpr fun s hs => ?_
    rw [mem_singleton.mp hs]
    simp
    omega
  rw [hnone, append_nil]
  rfl

/-- The first elements of a sorted list are those up to the last one of them. -/
theorem take_eq_filter {l : List α} (hl : l.Pairwise fun r s => seq r < seq s) {n : ℕ}
    (hlast : (l.take n).getLast? = some r) :
    l.take n = l.filter fun s => decide (seq s ≤ seq r) := by
  obtain ⟨before, hbefore⟩ := getLast?_eq_some_iff.mp hlast
  have hsorted := hl
  rw [← take_append_drop n l] at hsorted
  obtain ⟨htake, -, hcross⟩ := pairwise_append.mp hsorted
  have hfirst : (l.take n).filter (fun s => decide (seq s ≤ seq r)) = l.take n := by
    refine filter_eq_self.mpr fun s hs => decide_eq_true ?_
    rw [hbefore] at htake hs
    rcases mem_append.mp hs with hs | hs
    · exact Nat.le_of_lt ((pairwise_append.mp htake).2.2 s hs r mem_cons_self)
    · exact Nat.le_of_eq (congrArg seq (mem_singleton.mp hs))
  have hrest : (l.drop n).filter (fun s => decide (seq s ≤ seq r)) = [] := by
    refine filter_eq_nil_iff.mpr fun s hs => ?_
    have hlt := hcross r (mem_of_getLast? hlast) s hs
    simpa using hlt
  calc l.take n = (l.take n).filter (fun s => decide (seq s ≤ seq r)) ++
          (l.drop n).filter (fun s => decide (seq s ≤ seq r)) := by
        rw [hfirst, hrest, append_nil]
    _ = l.filter fun s => decide (seq s ≤ seq r) := by
        rw [← filter_append, take_append_drop]

/-- The first records between two cursors are those up to the last one of them. -/
theorem take_between {n : ℕ} (hlast : ((log.between keep a b).take n).getLast? = some r) :
    (log.between keep a b).take n = log.between keep a (seq r) := by
  have hmem := mem_between.mp (mem_of_mem_take (mem_of_getLast? hlast))
  rw [take_eq_filter sorted_between hlast, between, between, filter_filter]
  refine filter_congr fun s _ => ?_
  rw [Bool.eq_iff_iff]
  simp only [Bool.and_eq_true, decide_eq_true_eq]
  have hle := hmem.2.2.2
  exact ⟨fun h => ⟨h.2.1, h.1⟩, fun h => ⟨h.2, h.1, Nat.le_trans h.2 hle⟩⟩

/-- A page that is cut has the first records. -/
theorem take_page (limit : ℕ) :
    ((log.between keep a log.head).take (limit + 1)).take limit =
      (log.between keep a log.head).take limit := by
  rw [take_take, Nat.min_eq_left (Nat.le_succ limit)]

/-- **A page has exactly the records of interest between the two cursors.** -/
theorem page_records (keep : α → Bool) (limit : ℕ) (ha : a ≤ log.head) :
    (log.page keep a limit).records = log.between keep a (log.page keep a limit).cursor ∧
      a ≤ (log.page keep a limit).cursor ∧ (log.page keep a limit).cursor ≤ log.head := by
  rw [page]
  split
  next hmore =>
    rw [take_page]
    cases hlast : ((log.between keep a log.head).take limit).getLast? with
    | none =>
      rw [getLast?_eq_none_iff.mp hlast]
      exact ⟨(between_of_le (Nat.le_refl a)).symm, Nat.le_refl a, ha⟩
    | some r =>
      have hmem := mem_between.mp (mem_of_mem_take (mem_of_getLast? hlast))
      exact ⟨take_between hlast, Nat.le_of_lt hmem.2.2.1, hmem.2.2.2⟩
  next hall =>
    refine ⟨take_of_length_le ?_, ha, Nat.le_refl _⟩
    rw [length_take] at hall
    omega

theorem length_page (keep : α → Bool) (a limit : ℕ) :
    (log.page keep a limit).records.length ≤ limit := by
  rw [page]
  split
  next => exact length_take_le _ _
  next hall => exact Nat.not_lt.mp hall

/-- While there are records of interest, a page has some of them and moves the cursor. -/
theorem page_advances {limit : ℕ} (hlimit : 0 < limit) (hr : r ∈ log.between keep a log.head) :
    (log.page keep a limit).records ≠ [] ∧ a < (log.page keep a limit).cursor := by
  have htake : ∀ n, 0 < n → (log.between keep a log.head).take n ≠ [] := by
    intro n hn hnil
    rcases take_eq_nil_iff.mp hnil with hzero | hnil
    · omega
    · rw [hnil] at hr
      cases hr
  rw [page]
  split
  next =>
    rw [take_page]
    refine ⟨htake limit hlimit, ?_⟩
    cases hlast : ((log.between keep a log.head).take limit).getLast? with
    | none => exact absurd (getLast?_eq_none_iff.mp hlast) (htake limit hlimit)
    | some last =>
      exact (mem_between.mp (mem_of_mem_take (mem_of_getLast? hlast))).2.2.1
  next =>
    obtain ⟨-, -, hlt, hle⟩ := mem_between.mp hr
    exact ⟨htake _ (Nat.succ_pos limit), Nat.lt_of_lt_of_le hlt hle⟩

end CursorLog

end Kanna
