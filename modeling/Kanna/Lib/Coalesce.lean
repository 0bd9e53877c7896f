import Mathlib.Data.List.Basic

/-!
# Latest-value coalescing

A stream in which some items are *latest values*: an item that is followed by
another one of its kind may be dropped in its favour. `Coalesced c as bs` says
that `bs` is `as` with such items dropped, built up from the front as the items
arrive: an item is appended, or takes the place of a latest value right before
it.

An order-preserving queue that coalesces keeps `Coalesced c accepted (out ++
rest)`, where `out` went out and `rest` is still inside: accepting an item is
`keep` or `replace`, and letting one out only moves the boundary.
-/

namespace Kanna

universe u

variable {E : Type u}

/-- `bs` is `as` with every dropped item replaced by the next one; `c` marks the
items that may be dropped and may replace. -/
inductive Coalesced (c : E → Prop) : List E → List E → Prop where
  /-- nothing arrived -/
  | nil : Coalesced c [] []
  /-- an item arrives and is kept -/
  | keep {as bs : List E} (e : E) : Coalesced c as bs → Coalesced c (as ++ [e]) (bs ++ [e])
  /-- a latest value arrives and takes the place of the one before it -/
  | replace {as bs : List E} {g : E} (e : E) : Coalesced c as (bs ++ [g]) → c g → c e →
      Coalesced c (as ++ [e]) (bs ++ [e])

/-- The item `a` of `as` is directly followed by another latest value. -/
def SupersededIn (c : E → Prop) (as : List E) (a : E) : Prop :=
  ∃ l g r, as = l ++ a :: g :: r ∧ c a ∧ c g

variable {c : E → Prop} {as bs : List E}

/-- A later arrival does not undo that an item was superseded. -/
theorem SupersededIn.append {a : E} (h : SupersededIn c as a) (e : E) :
    SupersededIn c (as ++ [e]) a := by
  obtain ⟨l, g, r, rfl, ha, hg⟩ := h
  exact ⟨l, g, r ++ [e], by simp, ha, hg⟩

/-- What is kept is in the order of arrival. -/
theorem Coalesced.sublist (h : Coalesced c as bs) : bs.Sublist as := by
  induction h with
  | nil => exact List.Sublist.refl _
  | keep e _ ih => exact ih.append (List.Sublist.refl _)
  | replace e _ _ _ ih =>
    exact ((List.sublist_append_left _ _).trans ih).append (List.Sublist.refl _)

/-- The item kept last is the item that arrived last. -/
theorem Coalesced.last {g : E} (h : Coalesced c as (bs ++ [g])) : ∃ as', as = as' ++ [g] := by
  generalize hl : bs ++ [g] = l at h
  cases h with
  | nil => simp at hl
  | keep e h' =>
    obtain ⟨-, hg⟩ := List.append_inj' hl rfl
    cases hg
    exact ⟨_, rfl⟩
  | replace e h' _ _ =>
    obtain ⟨-, hg⟩ := List.append_inj' hl rfl
    cases hg
    exact ⟨_, rfl⟩

/-- **Nothing is dropped without a successor**: an item that arrived and was not
kept is a latest value, and so is the item right after it. -/
theorem Coalesced.superseded (h : Coalesced c as bs) {a : E} (ha : a ∈ as) (hb : a ∉ bs) :
    SupersededIn c as a := by
  induction h with
  | nil => cases ha
  | keep e _ ih =>
    simp only [List.mem_append, List.mem_singleton, not_or] at ha hb
    obtain ⟨hbs, hne⟩ := hb
    exact (ih (ha.resolve_right hne) hbs).append e
  | @replace as bs g e h' hg he ih =>
    simp only [List.mem_append, List.mem_singleton, not_or] at ha hb
    obtain ⟨hbs, hne⟩ := hb
    have has : a ∈ as := ha.resolve_right hne
    by_cases hag : a = g
    · -- the dropped item is the one just replaced
      subst hag
      obtain ⟨as', rfl⟩ := h'.last
      exact ⟨as', e, [], by simp, hg, he⟩
    · exact (ih has (by simp [hbs, hag])).append e

end Kanna
