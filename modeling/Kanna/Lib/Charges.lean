import Mathlib.Algebra.BigOperators.Group.Finset.Basic
import Mathlib.Data.List.AList

/-!
# Charges against a shared counter

Many holders are charged to one counter: each entry of a map, and each member of an
indexed family. That the counter equals the sum of the charges is kept by an update
of one holder that moves the counter by the same amount; the lemmas here are the sums
such an argument needs. They are stated with addition on both sides, so that no
subtraction of natural numbers appears.
-/

namespace Kanna

open Finset

universe u v

variable {ι : Type u} {α : Type v} (charge : α → ℕ)

/-- Updating one holder of a family changes the total by the difference of its charges. -/
theorem sum_charge_update [Fintype ι] [DecidableEq ι] (f : ι → α) (i : ι) (x : α) :
    ∑ j, charge (Function.update f i x j) + charge (f i) = ∑ j, charge (f j) + charge x := by
  have hrest : ∑ j ∈ univ.erase i, charge (Function.update f i x j) =
      ∑ j ∈ univ.erase i, charge (f j) := by
    refine sum_congr rfl fun j hj => ?_
    rw [Function.update_of_ne (ne_of_mem_erase hj)]
  rw [← add_sum_erase univ _ (mem_univ i),
    ← add_sum_erase univ (fun j => charge (f j)) (mem_univ i), hrest, Function.update_self]
  omega

/-- What one holder is charged is part of the total. -/
theorem charge_le_sum [Fintype ι] [DecidableEq ι] (f : ι → α) (i : ι) :
    charge (f i) ≤ ∑ j, charge (f j) := by
  rw [← add_sum_erase univ (fun j => charge (f j)) (mem_univ i)]
  exact Nat.le_add_right _ _

section Map

variable {κ : Type u} [DecidableEq κ]

/-- The total charge of a list of entries. -/
def chargeOf (charge : α → ℕ) (entries : List (Sigma fun _ : κ => α)) : ℕ :=
  entries.foldr (fun e total => charge e.2 + total) 0

/-- The total charge of a map's entries. -/
def mapCharge (charge : α → ℕ) (m : AList fun _ : κ => α) : ℕ :=
  chargeOf charge m.entries

/-- What a lookup is charged: nothing if there is no entry. -/
def optionCharge (charge : α → ℕ) : Option α → ℕ
  | none => 0
  | some x => charge x

@[simp] theorem optionCharge_some (x : α) : optionCharge charge (some x) = charge x := rfl

theorem chargeOf_kerase (k : κ) (entries : List (Sigma fun _ : κ => α)) :
    chargeOf charge (entries.kerase k) + optionCharge charge (entries.dlookup k) =
      chargeOf charge entries := by
  induction entries with
  | nil => rfl
  | cons e entries ih =>
    obtain ⟨k', x⟩ := e
    by_cases hk : k = k'
    · subst hk
      have hhead : (⟨k, x⟩ :: entries : List (Sigma fun _ : κ => α)).kerase k = entries :=
        List.kerase_cons_eq rfl
      rw [hhead, List.dlookup_cons_eq, optionCharge_some, Nat.add_comm]
      rfl
    · rw [List.kerase_cons_ne hk, List.dlookup_cons_ne _ _ hk]
      change charge x + chargeOf charge (entries.kerase k) + _ = charge x + chargeOf charge entries
      rw [Nat.add_assoc, ih]

/-- Removing an entry takes its charge off the total. -/
theorem mapCharge_erase (k : κ) (m : AList fun _ : κ => α) :
    mapCharge charge (m.erase k) + optionCharge charge (m.lookup k) = mapCharge charge m :=
  chargeOf_kerase charge k m.entries

/-- A new entry adds its charge. -/
theorem mapCharge_insert {k : κ} {m : AList fun _ : κ => α} (h : k ∉ m) (x : α) :
    mapCharge charge (m.insert k x) = charge x + mapCharge charge m := by
  rw [mapCharge, AList.entries_insert_of_notMem h]
  rfl

end Map

end Kanna
