import Mathlib.Order.PiLex
import Mathlib.Order.Compare

/-!
# Comparing CLI versions

`crates/daemon/src/detection/version.rs`: detection rules are measured against ranges of CLI
releases. A release is a list of numbers, and a missing one counts as zero, so that `2.1` and
`2.1.0` are the same release.

`cmp_compares` reads the comparison as the lexicographic order of the components, padded with
zeros; everything else is that order's.
-/

namespace Kanna

/-- `CliVersion`: the components, most significant first, and what the CLI printed. -/
structure CliVersion where
  parts : List ℕ
  raw : String

namespace CliVersion

/-- `component`: the components, padded with zeros. -/
def component (version : CliVersion) (index : ℕ) : ℕ := version.parts[index]?.getD 0

/-- The loop of `cmp`: this many components, from `index` on. -/
def cmpFrom (left right : CliVersion) : ℕ → ℕ → Ordering
  | 0, _ => .eq
  | rest + 1, index =>
    let ordering := compare (left.component index) (right.component index)
    if ordering ≠ .eq then ordering else cmpFrom left right rest (index + 1)

/-- `cmp`. -/
def cmp (left right : CliVersion) : Ordering :=
  cmpFrom left right (max left.parts.length right.parts.length) 0

/-- `eq`: equality is ordering, not string identity. -/
def eq (left right : CliVersion) : Bool := (left.cmp right).isEq

/-- The same version with more zeros printed. -/
def appendZeros (version : CliVersion) (zeros : ℕ) : CliVersion :=
  { version with parts := version.parts ++ List.replicate zeros 0 }

end CliVersion

/-- `Comparator`. -/
inductive Comparator where
  | greaterOrEqual
  | greater
  | lessOrEqual
  | less
  | equal
  | notEqual

/-- `Comparator::admits`. -/
def Comparator.admits (comparator : Comparator) (candidate bound : CliVersion) : Bool :=
  let ordering := candidate.cmp bound
  match comparator with
  | greaterOrEqual => ordering.isGE
  | greater => ordering.isGT
  | lessOrEqual => ordering.isLE
  | less => ordering.isLT
  | equal => ordering.isEq
  | notEqual => !ordering.isEq

/-- `VersionRange`: all bounds have to admit a version. -/
structure VersionRange where
  bounds : List (Comparator × CliVersion)
  raw : String

/-- `VersionRange::admits`; an unknown version is admitted by every range. -/
def VersionRange.admits (range : VersionRange) : Option CliVersion → Bool
  | none => true
  | some version => range.bounds.all fun (comparator, bound) => comparator.admits version bound

namespace CliVersion

variable {a b : CliVersion}

theorem cmpFrom_compares {rest index : ℕ}
    (hbefore : ∀ j < index, a.component j = b.component j)
    (hbehind : ∀ j, index + rest ≤ j → a.component j = b.component j) :
    (cmpFrom a b rest index).Compares (toLex a.component) (toLex b.component) := by
  induction rest generalizing index with
  | zero =>
    have heq : a.component = b.component := by
      funext j
      obtain hj | hj := Nat.lt_or_ge j index
      · exact hbefore j hj
      · exact hbehind j hj
    simp [cmpFrom, heq]
  | succ rest ih =>
    rw [cmpFrom]
    cases hcompare : compare (a.component index) (b.component index) with
    | lt => exact ⟨index, hbefore, Nat.compare_eq_lt.mp hcompare⟩
    | gt => exact ⟨index, fun j hj => (hbefore j hj).symm, Nat.compare_eq_gt.mp hcompare⟩
    | eq =>
      refine ih (fun j hj => ?_) fun j hj => hbehind j (by omega)
      obtain hj | rfl := Nat.lt_succ_iff_lt_or_eq.mp hj
      · exact hbefore j hj
      · exact Nat.compare_eq_eq.mp hcompare

/-- **The comparison is the lexicographic order** of the components, padded with zeros. -/
theorem cmp_compares (a b : CliVersion) :
    (a.cmp b).Compares (toLex a.component) (toLex b.component) := by
  refine cmpFrom_compares (fun j hj => absurd hj (Nat.not_lt_zero j)) fun j hj => ?_
  have ha : a.parts.length ≤ j := by omega
  have hb : b.parts.length ≤ j := by omega
  simp [component, ha, hb]

theorem eq_iff : a.eq b = true ↔ a.component = b.component := by
  rw [eq, Ordering.isEq_iff_eq_eq, (cmp_compares a b).eq_eq, toLex_inj]

theorem component_appendZeros (version : CliVersion) (zeros : ℕ) :
    (version.appendZeros zeros).component = version.component := by
  funext j
  obtain hj | hj := Nat.lt_or_ge j version.parts.length
  · simp [component, appendZeros, List.getElem?_append_left, hj]
  · simp only [component, appendZeros, List.getElem?_append_right hj, List.getElem?_replicate]
    split <;> simp [hj]

/-- The comparison with a bound depends on the padded components alone. -/
theorem cmp_congr (h : a.component = b.component) (bound : CliVersion) :
    a.cmp bound = b.cmp bound := by
  have hb := cmp_compares b bound
  rw [← h] at hb
  exact (cmp_compares a bound).inj hb

/-- **Versions are totally preordered**: the comparison is the lexicographic order of the
components, padded with infinitely many zeros. So it is transitive and total, zeros at the end
make no difference to equality, and no range tells equal versions apart. -/
theorem cliVersion_preorder :
    (∀ a b : CliVersion, (a.cmp b).Compares (toLex a.component) (toLex b.component)) ∧
    (∀ a b c : CliVersion, a.cmp b ≠ .gt → b.cmp c ≠ .gt → a.cmp c ≠ .gt) ∧
    (∀ a b : CliVersion, a.cmp b ≠ .gt ∨ b.cmp a ≠ .gt) ∧
    (∀ (a b : CliVersion) (m n : ℕ), (a.appendZeros m).eq (b.appendZeros n) = a.eq b) ∧
    ∀ (range : VersionRange) (a b : CliVersion), a.eq b = true →
      range.admits (some a) = range.admits (some b) := by
  refine ⟨cmp_compares, fun a b c => ?_, fun a b => ?_, fun a b m n => ?_,
    fun range a b h => ?_⟩
  · rw [(cmp_compares a b).ne_gt, (cmp_compares b c).ne_gt, (cmp_compares a c).ne_gt]
    exact le_trans
  · rw [(cmp_compares a b).ne_gt, (cmp_compares b a).ne_gt]
    exact le_total _ _
  · rw [Bool.eq_iff_iff, eq_iff, eq_iff, component_appendZeros, component_appendZeros]
  · simp [VersionRange.admits, Comparator.admits, cmp_congr (eq_iff.mp h)]

-- `2.1` precedes `2.1.1` and equals `2.1.0`
example : (⟨[2, 1], "2.1"⟩ : CliVersion).cmp ⟨[2, 1, 1], "2.1.1"⟩ = .lt ∧
    (⟨[2, 1], "2.1"⟩ : CliVersion).eq ⟨[2, 1, 0], "2.1.0"⟩ = true := by decide

end CliVersion

end Kanna
