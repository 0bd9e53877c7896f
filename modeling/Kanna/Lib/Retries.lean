import Kanna.Lib.Run

/-!
# A work item that is retried

A handler does its work in steps over a durable store. Each step is told how its operation
ends, and it goes on or finishes. An attempt that fails is repeated up to a bound; a crash
loses the place of the running attempt and nothing else, and the item is taken up again.

* `always_of_handler` — what the steps keep, given where the attempt is, holds along every
  run whose moves meet a guard.
* `always_of_phase` — a phase that is claimed before an effect: what is finished has had the
  effect, if no attempt is cut off between the two.
-/

namespace Kanna.Retries

/-- The status of an item. -/
inductive Status where
  | pending
  | running
  | done
  | failed
  deriving DecidableEq

/-- Where a step leads. -/
inductive Next (π : Type) where
  | goto (place : π)
  | finish (ok : Bool)

/-- The place the attempt is at then. -/
def Next.place {π : Type} : Next π → Option π
  | .goto place => some place
  | .finish _ => none

/-- A handler with places `π` over stores `σ`; `ω` says how an operation ends. -/
structure Handler (σ π ω : Type) where
  /-- where an attempt starts -/
  start : π
  /-- one operation, and where the attempt goes on -/
  exec : σ → π → ω → σ × Next π
  maxAttempts : ℕ

/-- An item, the place of its running attempt and the store. -/
structure Item (σ π : Type) where
  status : Status
  attempts : ℕ
  place : Option π
  store : σ
  deriving DecidableEq

/-- The item is claimed, its handler takes a step, or the process dies. -/
inductive Move (ω : Type) where
  | claim
  | perform (outcome : ω)
  | crash
  deriving DecidableEq

variable {σ π ω : Type} (H : Handler σ π ω)

/-- An item that waits for its first attempt. -/
def Item.new (store : σ) : Item σ π := ⟨.pending, 0, none, store⟩

/-- The status after an attempt went on or ended. -/
def Item.settle (item : Item σ π) : Next π → Status
  | .goto _ => item.status
  | .finish true => .done
  | .finish false => if item.attempts ≥ H.maxAttempts then .failed else .pending

/-- One move, if it is enabled. -/
def step (item : Item σ π) : Move ω → Option (Item σ π)
  | .claim =>
    if item.status = .pending then
      some { item with
        status := .running, attempts := item.attempts + 1, place := some H.start }
    else none
  | .perform outcome =>
    item.place.map fun place =>
      let (store, next) := H.exec item.store place outcome
      { item with status := item.settle H next, place := next.place, store := store }
  | .crash => some { item with
      status := if item.status = .running then .pending else item.status, place := none }

variable {H} {J : Option π → σ → Prop} {P : Item σ π → Prop} {G : Item σ π → Move ω → Prop}

/-- An attempt runs as long as it is somewhere. -/
theorem settle_eq_running {item : Item σ π} (h : item.status = .running) (next : Next π) :
    next.place ≠ none ↔ item.settle H next = .running := by
  rcases next with _ | _ | _
  · simp [Item.settle, Next.place, h]
  · simp only [Item.settle, Next.place]
    split <;> simp
  · simp [Item.settle, Next.place]

variable {moves : List (Move ω)}

/-- **Handler rule**: `J` says what holds at each place, and between attempts. -/
theorem always_of_handler (hP : ∀ {item : Item σ π}, (item.place ≠ none → item.status = .running) →
      J item.place item.store → P item) (hstart : ∀ {store}, J none store → J (some H.start) store)
    (hexec : ∀ {item place outcome}, item.place = some place → G item (.perform outcome) →
      J (some place) item.store → J (H.exec item.store place outcome).2.place
        (H.exec item.store place outcome).1)
    (hcrash : ∀ {item place}, item.place = some place → G item .crash →
      J (some place) item.store → J none item.store) {store : σ} (hnew : J none store)
    (hmeets : Meets (step H) G (Item.new store) moves) :
    Always (step H) P (Item.new store) moves := by
  let I (item : Item σ π) : Prop :=
    (item.place ≠ none ↔ item.status = .running) ∧ J item.place item.store
  have hnew' : I (Item.new store) := ⟨by simp [Item.new], hnew⟩
  refine always_of_meets (fun hI => hP hI.1.mp hI.2) ?_ hnew' hmeets
  rintro item (_ | outcome | _) item' ⟨hrunning, hJ⟩ hG hstep
  · obtain ⟨hpending, rfl⟩ := guard_eq_some hstep
    have hplace : item.place = none := by
      by_contra hplace
      rw [hrunning.mp hplace] at hpending
      cases hpending
    rw [hplace] at hJ
    exact ⟨by simp, hstart hJ⟩
  · obtain ⟨place, hplace, rfl⟩ := Option.map_eq_some_iff.mp hstep
    exact ⟨settle_eq_running (hrunning.mp (by simp [hplace])) _, hexec hplace hG (hplace ▸ hJ)⟩
  · cases hstep
    refine ⟨by simp; split <;> simp_all, ?_⟩
    cases hplace : item.place with
    | none => exact hplace ▸ hJ
    | some place => exact @hcrash item place hplace hG (hplace ▸ hJ)

/-- A phase that is claimed before an effect, and the places about it. -/
structure Phase (σ π : Type) where
  /-- the claim is stored -/
  claimed : σ → Bool
  /-- the effect was had -/
  effect : σ → Bool
  /-- the item counts as done -/
  finished : σ → Bool
  /-- the effect is under way -/
  acts : π → Bool
  /-- the effect failed, and the claim is given back -/
  undoes : π → Bool
  /-- the effect is taken for granted -/
  past : π → Bool

/-- No crash while the effect is under way; and giving the claim back succeeds. -/
def Phase.Settles (Φ : Phase σ π) (ok : ω) (item : Item σ π) (move : Move ω) : Prop :=
  ∀ place ∈ item.place, (Φ.acts place → move ≠ .crash) ∧ (Φ.undoes place → move = .perform ok)

instance [DecidableEq ω] (Φ : Phase σ π) (ok : ω) (item : Item σ π) (move : Move ω) :
    Decidable (Φ.Settles ok item move) :=
  match h : item.place with
  | none => .isTrue fun place hplace => by rw [h] at hplace; cases hplace
  | some place =>
    decidable_of_iff
      ((Φ.acts place → move ≠ .crash) ∧ (Φ.undoes place → move = .perform ok))
      (by simp [Phase.Settles, h])

/-- Where the phase is claimed and the effect has not been had, an attempt is about it. -/
structure Phase.Ok (Φ : Phase σ π) (place : Option π) (s : σ) : Prop where
  done : Φ.finished s → Φ.effect s
  claimed : Φ.claimed s → Φ.effect s ∨ ∃ p ∈ place, Φ.acts p ∨ Φ.undoes p
  past : ∀ p ∈ place, Φ.past p → Φ.effect s

/-- **Phase rule**: the steps keep `Phase.Ok`. -/
theorem always_of_phase {Φ : Phase σ π} {ok : ω}
    (hP : ∀ {item : Item σ π}, (Φ.finished item.store → Φ.effect item.store) → P item)
    (hstart : Φ.past H.start = false)
    (hexec : ∀ {s place outcome}, (Φ.undoes place → outcome = ok) → Φ.Ok (some place) s →
      Φ.Ok (H.exec s place outcome).2.place (H.exec s place outcome).1) {s : σ}
    (hclaimed : Φ.claimed s = false) (hfinished : Φ.finished s = false)
    (hmeets : Meets (step H) (Φ.Settles ok) (Item.new s) moves) :
    Always (step H) P (Item.new s) moves := by
  refine always_of_handler (J := Φ.Ok) (fun _ h => hP h.done) ?_ ?_ ?_ ?_ hmeets
  · intro s h
    exact ⟨h.done, fun hs => .inl (by simpa using h.claimed hs), by simp [hstart]⟩
  · intro item place outcome hplace hG h
    exact hexec (fun hundoes => Move.perform.inj ((hG place hplace).2 hundoes)) h
  · intro item place hplace hG h
    refine ⟨h.done, fun hs => .inl ?_, by simp⟩
    obtain heffect | ⟨p, hp, hacts | hundoes⟩ := h.claimed hs
    · exact heffect
    · cases hp
      exact absurd rfl ((hG place hplace).1 hacts)
    · cases hp
      cases (hG place hplace).2 hundoes
  · exact ⟨by simp [hfinished], by simp [hclaimed], by simp⟩

end Kanna.Retries
