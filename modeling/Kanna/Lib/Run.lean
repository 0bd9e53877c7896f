import Mathlib.Data.List.Basic

/-!
# Runs of a labelled step function

A system is a partial step function `step : σ → α → Option σ`: the label says
which party moves and with which argument, and `none` says that the move is not
enabled. Interleavings are label lists, so "for every interleaving" is "for
every list".

* `run` — the state a label list leads to, if every move is enabled.
* `Always` — a property holds in every state the run passes through.
* `Meets` — every move of the run is taken in a state that satisfies a guard.
* `Reaches` — some run that meets a guard leads from one state to another.

The rules below reduce a statement about runs to one about a single move: a
plain invariant (`always_of_invariant`), one that holds only along moves that meet a
guard (`always_of_meets`), and the exact form (`always_iff_meets`), where the
guard is also necessary.
-/

namespace Kanna

universe u v

variable {σ : Type u} {α : Type v}

/-- The state reached from `s` by the moves `as`, if all of them are enabled. -/
def run (step : σ → α → Option σ) : σ → List α → Option σ
  | s, [] => some s
  | s, a :: as => (step s a).bind fun s' => run step s' as

/-- `P` holds in every state the run from `s` along `as` passes through. -/
def Always (step : σ → α → Option σ) (P : σ → Prop) : σ → List α → Prop
  | s, [] => P s
  | s, a :: as => P s ∧ ∀ s', step s a = some s' → Always step P s' as

/-- Every move of the run from `s` along `as` is taken where `G` allows it. -/
def Meets (step : σ → α → Option σ) (G : σ → α → Prop) : σ → List α → Prop
  | _, [] => True
  | s, a :: as => G s a ∧ ∀ s', step s a = some s' → Meets step G s' as

/-- Whether a run meets a decidable guard can be computed. -/
instance decidableMeets (step : σ → α → Option σ) (G : σ → α → Prop)
    [∀ s a, Decidable (G s a)] : (s : σ) → (as : List α) → Decidable (Meets step G s as)
  | _, [] => .isTrue trivial
  | s, a :: as =>
    match h : step s a with
    | none => decidable_of_iff (G s a)
        ⟨fun hG => ⟨hG, fun s' hs' => by rw [h] at hs'; cases hs'⟩, fun hM => hM.1⟩
    | some s' =>
      have := decidableMeets step G s' as
      decidable_of_iff (G s a ∧ Meets step G s' as)
        ⟨fun hM => ⟨hM.1, fun t ht => by rw [h] at ht; cases ht; exact hM.2⟩,
          fun hM => ⟨hM.1, hM.2 s' h⟩⟩

variable {step : σ → α → Option σ}

@[simp] theorem run_nil (s : σ) : run step s [] = some s := rfl

theorem run_cons (s : σ) (a : α) (as : List α) :
    run step s (a :: as) = (step s a).bind fun s' => run step s' as := rfl

section Guards

variable {ε : Type v} {p : Prop} [Decidable p] {s t : σ}

/-- Inversion for a move that is enabled where `p` holds. -/
theorem guard_eq_some (h : (if p then some s else none) = some t) : p ∧ s = t := by
  obtain ⟨hp, hst⟩ := Option.ite_none_right_eq_some.mp h
  exact ⟨hp, Option.some.inj hst⟩

/-- Inversion for a check that must pass. -/
theorem of_check {x : Option σ} (h : (if p then x else none) = some t) : p ∧ x = some t :=
  Option.ite_none_right_eq_some.mp h

/-- Inversion for an early exit that was not taken. -/
theorem of_exit {x : Option σ} (h : (if p then none else x) = some t) : ¬ p ∧ x = some t :=
  Option.ite_none_left_eq_some.mp h

/-- Inversion for an error that was not raised. -/
theorem of_throw {e : ε} {x : Except ε σ} (h : (if p then .error e else x) = .ok t) :
    ¬ p ∧ x = .ok t := by
  split at h
  next => cases h
  next hp => exact ⟨hp, h⟩

/-- Inversion for a result that was changed by a function. -/
theorem of_map {τ : Type u} {f : σ → τ} {x : Except ε σ} {t : τ} (h : x.map f = .ok t) :
    ∃ s, x = .ok s ∧ f s = t := by
  cases x with
  | error => cases h
  | ok s => exact ⟨s, rfl, Except.ok.inj h⟩

/-- Inversion for a result that another step went on with. -/
theorem of_bind {τ : Type u} {f : σ → Except ε τ} {x : Except ε σ} {t : τ}
    (h : x >>= f = .ok t) : ∃ s, x = .ok s ∧ f s = .ok t := by
  cases x with
  | error => cases h
  | ok s => exact ⟨s, rfl, h⟩

/-- The value there is, or the error for there being none. -/
def okOr (x : Option σ) (e : ε) : Except ε σ :=
  match x with
  | none => .error e
  | some s => .ok s

/-- Inversion for a value that had to be there. -/
theorem of_okOr {τ : Type u} {f : σ → Except ε τ} {x : Option σ} {e : ε} {t : τ}
    (h : okOr x e >>= f = .ok t) : ∃ s, x = some s ∧ f s = .ok t := by
  cases x with
  | none => cases h
  | some s => exact ⟨s, rfl, h⟩

theorem eq_some_of_okOr {x : Option σ} {e : ε} (h : okOr x e = .ok t) : x = some t := by
  cases x with
  | none => cases h
  | some s => exact congrArg some (Except.ok.inj h)

@[simp] theorem ok_bind {τ : Type u} (s : σ) (f : σ → Except ε τ) : .ok s >>= f = f s := rfl

@[simp] theorem okOr_some (s : σ) (e : ε) : okOr (some s) e = .ok s := rfl

end Guards

/-- Inversion for a run that starts with a move. -/
theorem run_cons_eq_some {s t : σ} {a : α} {as : List α} (h : run step s (a :: as) = some t) :
    ∃ s', step s a = some s' ∧ run step s' as = some t := by
  rw [run_cons] at h
  exact Option.bind_eq_some_iff.mp h

theorem run_append (s : σ) (as bs : List α) :
    run step s (as ++ bs) = (run step s as).bind fun t => run step t bs := by
  induction as generalizing s with
  | nil => rfl
  | cons a as ih =>
    rw [List.cons_append, run_cons, run_cons, Option.bind_assoc]
    exact congrArg _ (funext ih)

variable {G : σ → α → Prop}

/-- A run meets a guard that its first move meets and the rest of it does. -/
theorem Meets.cons {s s' : σ} {a : α} {as : List α} (hG : G s a)
    (hstep : step s a = some s') (h : Meets step G s' as) : Meets step G s (a :: as) := by
  refine ⟨hG, fun t ht => ?_⟩
  rw [hstep] at ht
  cases ht
  exact h

variable {I P : σ → Prop}

/-- **Invariant rule**: what every enabled move preserves holds all along every run. -/
theorem always_of_invariant (hstep : ∀ {s : σ} {a : α} {s' : σ}, I s → step s a = some s' → I s') :
    ∀ (as : List α) {s : σ}, I s → Always step I s as := by
  intro as
  induction as with
  | nil =>
    intro s hs
    exact hs
  | cons a as ih =>
    intro s hs
    exact ⟨hs, fun s' hs' => ih (hstep hs hs')⟩

/-- A weaker property holds along the same runs. -/
theorem Always.mono {Q : σ → Prop} (hPQ : ∀ {s : σ}, P s → Q s) :
    ∀ {as : List α} {s : σ}, Always step P s as → Always step Q s as := by
  intro as
  induction as with
  | nil =>
    intro s h
    exact hPQ h
  | cons a as ih =>
    intro s h
    exact ⟨hPQ h.1, fun s' hs' => ih (h.2 s' hs')⟩

/-- **Guarded invariant rule**: an invariant kept by the moves that meet `G`
holds all along a run whose moves all meet `G`. -/
theorem always_of_meets (hP : ∀ {s : σ}, I s → P s)
    (hstep : ∀ {s : σ} {a : α} {s' : σ}, I s → G s a → step s a = some s' → I s') :
    ∀ {as : List α} {s : σ}, I s → Meets step G s as → Always step P s as := by
  intro as
  induction as with
  | nil =>
    intro s hs _
    exact hP hs
  | cons a as ih =>
    intro s hs hG
    refine ⟨hP hs, fun s' hs' => ?_⟩
    exact ih (hstep hs hG.1 hs') (hG.2 s' hs')

/-- **Exact guard rule**: if in addition every enabled move that misses `G`
falsifies `P`, then `P` holds all along exactly the runs that meet `G`. The
guard only has to hold where the move is enabled. -/
theorem always_iff_meets (hP : ∀ {s : σ}, I s → P s)
    (hstep : ∀ {s : σ} {a : α} {s' : σ}, I s → G s a → step s a = some s' → I s')
    (hmiss : ∀ {s : σ} {a : α}, I s → ¬ G s a → ∃ s', step s a = some s' ∧ ¬ P s') :
    ∀ {as : List α} {s : σ}, I s → (Always step P s as ↔ Meets step G s as) := by
  intro as s hs
  refine ⟨fun h => ?_, always_of_meets hP hstep hs⟩
  induction as generalizing s with
  | nil => trivial
  | cons a as ih =>
    have hG : G s a := by
      by_contra hG
      obtain ⟨s', hs', hbad⟩ := hmiss hs hG
      -- the run passes through `s'`, where `P` was assumed
      have := h.2 s' hs'
      cases as with
      | nil => exact hbad this
      | cons b bs => exact hbad this.1
    exact ⟨hG, fun s' hs' => ih (hstep hs hG hs') (h.2 s' hs')⟩

/-- The state a run ends in satisfies what holds all along the run. -/
theorem Always.last :
    ∀ {as : List α} {s t : σ}, Always step P s as → run step s as = some t → P t := by
  intro as
  induction as with
  | nil =>
    intro s t h ht
    rw [run_nil] at ht
    cases ht
    exact h
  | cons a as ih =>
    intro s t h ht
    obtain ⟨s', hs', ht'⟩ := run_cons_eq_some ht
    exact ih (h.2 s' hs') ht'

/-- Moves that meet `G` lead from one state to another. -/
inductive Reaches (step : σ → α → Option σ) (G : σ → α → Prop) : σ → σ → Prop where
  | refl (s : σ) : Reaches step G s s
  | head {s s' t : σ} (a : α) (hG : G s a) (hs : step s a = some s') (h : Reaches step G s' t) :
    Reaches step G s t

theorem Reaches.trans {s t u : σ} (h : Reaches step G s t)
    (h' : Reaches step G t u) : Reaches step G s u := by
  induction h with
  | refl => exact h'
  | head a hG hs _ ih => exact .head a hG hs (ih h')

/-- What the moves that meet `G` keep holds in the states that they lead to. -/
theorem Reaches.invariant
    (hstep : ∀ {s : σ} {a : α} {s' : σ}, I s → G s a → step s a = some s' → I s') {s t : σ}
    (h : Reaches step G s t) (hI : I s) : I t := by
  induction h with
  | refl => exact hI
  | head a hG hs _ ih => exact ih (hstep hI hG hs)

end Kanna
