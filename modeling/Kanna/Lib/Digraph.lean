import Mathlib.Logic.Relation
import Mathlib.Data.List.Basic

/-!
# Reachability in directed graphs

A graph is given by the list of successors of each vertex. Reachability is
`Relation.ReflTransGen` of the edge relation.

* `hasPath` — depth-first search with a list of visited vertices. `hasPath_iff` says that it
  decides reachability once the fuel exceeds the number of vertices.
* `Rerouted` — the edges out of one vertex are replaced. `Rerouted.reach` splits a path of the
  new graph at the first and the last edge that is new, and `Rerouted.acyclic` says when no
  cycle arises.
-/

namespace Kanna.Digraph

open Relation

universe u

variable {ι : Type u}

/-- There is an edge from the first vertex to the second. -/
def Edge (next : ι → List ι) (x y : ι) : Prop := y ∈ next x

/-! ### Depth-first search -/

section Search

variable [DecidableEq ι]

/-- Visits the vertices in turn until one of the visits finds the target. -/
def visitAll (visit : ι → List ι → Bool × List ι) : List ι → List ι → Bool × List ι
  | [], visited => (false, visited)
  | vertex :: rest, visited =>
    if (visit vertex visited).1 then (true, (visit vertex visited).2)
    else visitAll visit rest (visit vertex visited).2

/-- Looks for the target from a vertex, going on from the vertices that were not visited.
Returns whether it was found, and the vertices visited so far. -/
def visit (next : ι → List ι) (target : ι) : ℕ → ι → List ι → Bool × List ι
  | 0, _, visited => (false, visited)
  | fuel + 1, current, visited =>
    if current = target then (true, visited)
    else if current ∈ visited then (false, visited)
    else visitAll (visit next target fuel) (next current) (current :: visited)

/-- Whether the search finds a path. -/
def hasPath (next : ι → List ι) (fuel : ℕ) (source target : ι) : Bool :=
  (visit next target fuel source []).1

variable {next : ι → List ι} {target : ι}

variable {vertices visited : List ι}

open List

omit [DecidableEq ι] in
theorem exists_visit_of_visitAll {visit : ι → List ι → Bool × List ι}
    (h : (visitAll visit vertices visited).1 = true) :
    ∃ vertex ∈ vertices, ∃ visited, (visit vertex visited).1 = true := by
  induction vertices generalizing visited with
  | nil => cases h
  | cons vertex rest ih =>
    rw [visitAll] at h
    split at h
    next hfound => exact ⟨vertex, mem_cons_self, visited, hfound⟩
    next =>
      obtain ⟨other, hother, hvisit⟩ := ih h
      exact ⟨other, mem_cons_of_mem _ hother, hvisit⟩

variable {fuel : ℕ}

/-- What the search finds is there. -/
theorem reach_of_visit {current : ι} (h : (visit next target fuel current visited).1 = true) :
    ReflTransGen (Edge next) current target := by
  induction fuel generalizing current visited with
  | zero => cases h
  | succ fuel ih =>
    rw [visit] at h
    split at h
    next heq => exact heq ▸ .refl
    next =>
    split at h
    next => cases h
    next =>
      obtain ⟨vertex, hedge, _, hfound⟩ := exists_visit_of_visitAll h
      exact .head hedge (ih hfound)

/-- What a visit that found nothing has done: the vertices it added are not the target, and
their successors were visited too. -/
structure Explored (next : ι → List ι) (target : ι) (before after : List ι) : Prop where
  subset : before ⊆ after
  missed : ∀ x ∈ after, x ∉ before → x ≠ target
  closed : ∀ x ∈ after, x ∉ before → next x ⊆ after

omit [DecidableEq ι] in
theorem Explored.refl (visited : List ι) : Explored next target visited visited :=
  ⟨fun _ h => h, fun _ h hnot => absurd h hnot, fun _ h hnot => absurd h hnot⟩

theorem Explored.trans {before mid after : List ι} (h : Explored next target before mid)
    (h' : Explored next target mid after) : Explored next target before after := by
  refine ⟨fun _ hx => h'.subset (h.subset hx), fun x hx hnot => ?_, fun x hx hnot => ?_⟩
  · by_cases hmid : x ∈ mid
    · exact h.missed x hmid hnot
    · exact h'.missed x hx hmid
  · by_cases hmid : x ∈ mid
    · exact fun _ hy => h'.subset (h.closed x hmid hnot hy)
    · exact h'.closed x hx hmid

/-- The number of vertices that were not visited. -/
def unvisited (vertices visited : List ι) : ℕ := (vertices.filter (· ∉ visited)).length

theorem unvisited_le (vertices : List ι) {visited' : List ι} (h : visited ⊆ visited') :
    unvisited vertices visited' ≤ unvisited vertices visited := by
  refine List.Sublist.length_le (monotone_filter_right vertices fun x hx => ?_)
  rw [decide_eq_true_iff] at hx ⊢
  exact fun hmem => hx (h hmem)

theorem unvisited_cons_lt {vertex : ι} (hmem : vertex ∈ vertices) (hnot : vertex ∉ visited) :
    unvisited vertices (vertex :: visited) < unvisited vertices visited := by
  have hle := unvisited_le vertices (subset_cons_self vertex visited)
  refine Nat.lt_of_le_of_ne hle fun heq => ?_
  -- filters of one length, one inside the other, are equal
  have hsub : (vertices.filter (· ∉ vertex :: visited)).Sublist
      (vertices.filter (· ∉ visited)) := by
    refine monotone_filter_right vertices fun x hx => ?_
    rw [decide_eq_true_iff] at hx ⊢
    exact fun hx' => hx (mem_cons_of_mem _ hx')
  have hin : vertex ∈ vertices.filter (· ∉ visited) := mem_filter.mpr ⟨hmem, decide_eq_true hnot⟩
  rw [← hsub.eq_of_length heq] at hin
  have hout := of_decide_eq_true (mem_filter.mp hin).2
  exact hout mem_cons_self

/-- The successors of the vertices are among them. -/
def Closed (next : ι → List ι) (vertices : List ι) : Prop := ∀ x ∈ vertices, next x ⊆ vertices

/-- Visits that find nothing explore every vertex they are given. -/
theorem explored_visitAll {visit : ι → List ι → Bool × List ι} {starts : List ι}
    (hstarts : starts ⊆ vertices)
    (hvisit : ∀ vertex ∈ vertices, ∀ visited, unvisited vertices visited < fuel →
      (visit vertex visited).1 = false → Explored next target visited (visit vertex visited).2 ∧
          vertex ∈ (visit vertex visited).2) (hfuel : unvisited vertices visited < fuel)
    (h : (visitAll visit starts visited).1 = false) :
    Explored next target visited (visitAll visit starts visited).2 ∧
      starts ⊆ (visitAll visit starts visited).2 := by
  induction starts generalizing visited with
  | nil => exact ⟨.refl visited, nofun⟩
  | cons vertex rest ih =>
    rw [visitAll] at h ⊢
    split at h
    next => cases h
    next hnot =>
      rw [if_neg hnot]
      obtain ⟨hfirst, hmem⟩ := hvisit vertex (hstarts mem_cons_self) visited hfuel
        (Bool.eq_false_iff.mpr hnot)
      have hfuel' := Nat.lt_of_le_of_lt (unvisited_le vertices hfirst.subset) hfuel
      obtain ⟨hrest, hall⟩ := ih (fun _ hx => hstarts (mem_cons_of_mem _ hx)) hfuel' h
      refine ⟨hfirst.trans hrest, fun x hx => ?_⟩
      rcases mem_cons.mp hx with rfl | hx
      · exact hrest.subset hmem
      · exact hall hx

/-- A visit that finds nothing and does not run out of fuel has explored its vertex. -/
theorem explored_visit (hclosed : Closed next vertices) {current : ι} (hmem : current ∈ vertices)
    (hfuel : unvisited vertices visited < fuel)
    (h : (visit next target fuel current visited).1 = false) :
    Explored next target visited (visit next target fuel current visited).2 ∧
      current ∈ (visit next target fuel current visited).2 := by
  induction fuel generalizing current visited with
  | zero => cases hfuel
  | succ fuel ih =>
    rw [visit] at h ⊢
    split at h
    next => cases h
    next hne =>
    rw [if_neg hne]
    split at h
    next hvisited =>
      rw [if_pos hvisited]
      exact ⟨.refl visited, hvisited⟩
    next hnot =>
      rw [if_neg hnot]
      have hless := unvisited_cons_lt hmem hnot
      obtain ⟨hexplored, hall⟩ := explored_visitAll (hclosed current hmem)
        (fun vertex hvertex visited hfuel hfalse => ih hvertex hfuel hfalse) (by omega) h
      refine ⟨⟨fun _ hx => hexplored.subset (mem_cons_of_mem _ hx), ?_, ?_⟩,
        hexplored.subset mem_cons_self⟩
      · intro x hx hfresh
        by_cases hcurrent : x = current
        · exact hcurrent ▸ hne
        · exact hexplored.missed x hx fun hmem => (mem_cons.mp hmem).elim hcurrent hfresh
      · intro x hx hfresh
        by_cases hcurrent : x = current
        · exact hcurrent ▸ hall
        · exact hexplored.closed x hx fun hmem => (mem_cons.mp hmem).elim hcurrent hfresh

/-- **The search decides reachability**, when there are fewer vertices than fuel. -/
theorem hasPath_iff (hclosed : Closed next vertices)
    (hfuel : vertices.length < fuel) {source : ι} (hsource : source ∈ vertices) (target : ι) :
    hasPath next fuel source target = true ↔ ReflTransGen (Edge next) source target := by
  refine ⟨reach_of_visit, fun hreach => ?_⟩
  by_contra hnot
  have hfuel' : unvisited vertices [] < fuel := Nat.lt_of_le_of_lt (length_filter_le _ _) hfuel
  obtain ⟨hexplored, hmem⟩ := explored_visit hclosed hsource hfuel' (Bool.eq_false_iff.mpr hnot)
  -- the visited vertices are closed under edges, so the target is among them
  have hall : ∀ x, ReflTransGen (Edge next) source x →
      x ∈ (visit next target fuel source []).2 := by
    intro x hx
    induction hx with
    | refl => exact hmem
    | tail _ hedge ih => exact hexplored.closed _ ih (not_mem_nil) hedge
  exact hexplored.missed target (hall target hreach) (not_mem_nil) rfl

end Search

/-! ### Rerouting the edges out of a vertex -/

/-- No vertex reaches itself along at least one edge. -/
def Acyclic (r : ι → ι → Prop) : Prop := ∀ x, ¬ TransGen r x x

theorem Acyclic.mono {r r' : ι → ι → Prop} (h : Acyclic r) (hsub : ∀ x y, r' x y → r x y) :
    Acyclic r' :=
  fun x hcycle => h x (TransGen.mono hsub x x hcycle)

/-- Nothing reaches a vertex without an edge into it, other than itself. -/
theorem eq_of_reach {r : ι → ι → Prop} {x y : ι} (hreach : ReflTransGen r x y)
    (hnone : ∀ z, ¬ r z y) : x = y := by
  rcases hreach.cases_tail with heq | ⟨z, -, hedge⟩
  · exact heq.symm
  · exact absurd hedge (hnone z)

/-- Every edge of `r'` is one of `r`, or goes from `source` to one of `targets`. -/
def Rerouted (r r' : ι → ι → Prop) (source : ι) (targets : ι → Prop) : Prop :=
  ∀ x y, r' x y → r x y ∨ x = source ∧ targets y

variable {r r' : ι → ι → Prop} {source : ι} {targets : ι → Prop}

/-- A path of the new graph is one of the old graph, or the old graph has a path to where the
new edges leave and one from where one of them arrives. -/
theorem Rerouted.reach (h : Rerouted r r' source targets) {x z : ι} (hpath : ReflTransGen r' x z) :
    ReflTransGen r x z ∨ ReflTransGen r x source ∧ ∃ y, targets y ∧ ReflTransGen r y z := by
  induction hpath using ReflTransGen.head_induction_on with
  | refl => exact .inl .refl
  | head hedge _ ih =>
    rcases h _ _ hedge with hold | ⟨rfl, htarget⟩
    · rcases ih with hrest | ⟨hleave, harrive⟩
      · exact .inl (.head hold hrest)
      · exact .inr ⟨.head hold hleave, harrive⟩
    · rcases ih with hrest | ⟨-, harrive⟩
      · exact .inr ⟨.refl, _, htarget, hrest⟩
      · exact .inr ⟨.refl, harrive⟩

/-- No cycle arises when none of the new targets reaches the source. -/
theorem Rerouted.acyclic (h : Rerouted r r' source targets) (hacyclic : Acyclic r)
    (hfree : ∀ y, targets y → ¬ ReflTransGen r y source) : Acyclic r' := by
  intro x hcycle
  obtain ⟨w, hedge, hback⟩ := TransGen.head'_iff.mp hcycle
  rcases h _ _ hedge with hold | ⟨rfl, htarget⟩
  · rcases h.reach hback with hrest | ⟨hleave, y, htarget, harrive⟩
    · exact hacyclic x (TransGen.head' hold hrest)
    · exact hfree y htarget (harrive.trans (.head hold hleave))
  · rcases h.reach hback with hrest | ⟨-, y, htarget', harrive⟩
    · exact hfree w htarget hrest
    · exact hfree y htarget' harrive

end Kanna.Digraph
