import Kanna.Daemon.SessionSize

/-!
# Settling: the applied size follows the proposed one

Every operation of `SessionSizeState` returns the resize the daemon has to
perform, and the daemon records it with `mark_applied` once the PTY took it.
Each mutator picks its own conditions for asking. `Settled` says that nothing
was missed: the applied size is the proposed one.

Most mutators end in `pending_resize` and settle by `settled_settle`. The ones
that return without asking need an argument: a follower's `resize` cannot move
the controller to somebody else (`resize_controller`), and a departure that
does not touch the controller leaves the proposal alone (`settled_depart`) — with
one exception. When the departing peer is the *last registered* viewer, and it
was hidden or degenerate (so it controlled nothing), the proposal falls back to
the minimum of the legacy sizes, and `remove` does not ask (`Strands`).
-/

namespace Kanna

namespace SessionSizeState

/-- The size last applied to the PTY is the size the state proposes. -/
def Settled (s : SessionSizeState) : Prop := s.lastApplied = s.proposedSize

/-- Perform the resize an operation asked for. -/
def settle (r : Option Size × SessionSizeState) : SessionSizeState :=
  match r.1 with
  | some size => r.2.markApplied size
  | none => r.2

/-- One operation, with the resize it asks for performed at once. -/
def settleStep (s : SessionSizeState) (op : SizeOp) : Option SessionSizeState :=
  some (settle (op.apply s))

/-- The departure `remove` gets wrong: the peer is the only registered viewer
and not eligible, it has no legacy size of its own, and the legacy sizes of the
others do not amount to the applied size. -/
def Strands (s : SessionSizeState) : SizeOp → Prop
  | .remove w =>
    (∃ v, s.viewers.lookup w = some v ∧ v.eligible = false) ∧ s.viewers.keys = [w] ∧
      w ∉ s.legacySizes ∧ effectiveTerminalSize s.legacySizes s.lastApplied ≠ s.lastApplied
  | _ => False

/-! ## Reading the proposal -/

variable {s : SessionSizeState}

/-- A registered controller's size is the proposal. -/
theorem proposedSize_controller {c : ℕ} {v : TerminalViewer}
    (hc : s.controller = some c) (hv : s.viewers.lookup c = some v) :
    s.proposedSize = (v.cols, v.rows) := by
  simp [proposedSize, hc, hv]

/-- Without a controller, registered viewers freeze the applied size. -/
theorem proposedSize_frozen (hc : s.controller = none)
    (hv : s.viewers.entries.isEmpty = false) : s.proposedSize = s.lastApplied := by
  simp [proposedSize, hc, hv]

/-- Without viewers, the legacy minimum is the proposal. -/
theorem proposedSize_legacy (hc : s.controller = none) (hv : s.viewers.entries.isEmpty = true) :
    s.proposedSize = effectiveTerminalSize s.legacySizes s.lastApplied := by
  simp [proposedSize, hc, hv]

/-- The fallback only matters when there is no legacy size at all. -/
theorem effectiveTerminalSize_idem (sizes : AList fun _ : ℕ => Size) (fallback : Size) :
    effectiveTerminalSize sizes (effectiveTerminalSize sizes fallback) =
      effectiveTerminalSize sizes fallback := by
  unfold effectiveTerminalSize
  rcases sizes.entries with _ | ⟨e, es⟩ <;> rfl

/-- Applying the proposal does not change it. -/
theorem proposedSize_markApplied (s : SessionSizeState) :
    (s.markApplied s.proposedSize).proposedSize = s.proposedSize := by
  rcases hc : s.controller.bind fun w => s.viewers.lookup w with _ | v
  · rcases hv : s.viewers.entries.isEmpty with _ | _
    · simp [proposedSize, markApplied, hc, hv]
    · simp [proposedSize, markApplied, hc, hv, effectiveTerminalSize_idem]
  · simp [proposedSize, markApplied, hc]

/-- An operation that ends in `pending_resize` settles. -/
theorem settled_settle (s : SessionSizeState) : Settled (settle (s.pendingResize, s)) := by
  unfold pendingResize settle Settled
  split
  · rename_i size h
    split at h
    · cases h
      exact (proposedSize_markApplied s).symm
    · cases h
  · rename_i h
    split at h
    · cases h
    · rename_i hsame
      exact (not_not.mp hsame).symm

/-! ## A follower's resize -/

/-- Election leaves the controller of a state that already satisfies the
invariant alone. -/
theorem elect_controller_of_elected (h : Elected s) : s.elect.2.controller = s.controller := by
  simp only [elect]
  split
  · rename_i e he
    have hc := h.explicit_controls he
    rw [if_pos (eligibleAt_iff.mpr (h.controller_eligible hc)), hc]
  · rename_i he
    rcases s.electByClass_controller with ⟨hsame, -⟩ | ⟨hnew, hmove⟩
    · exact hsame
    · rw [hnew]
      rcases hc : s.controller with _ | c
      · -- nobody controls, so nobody is eligible and nobody is elected
        rcases hel : s.electedCandidate with _ | w
        · rfl
        · obtain ⟨v, hv, hvel, -⟩ := electedCandidate_some hel
          have := h.eligible_controlled hv hvel
          rw [hc] at this
          cases this
      · -- only an explicit controller can be remote beside an eligible local viewer
        obtain ⟨v, hv, hvel⟩ := h.controller_eligible hc
        obtain ⟨hrole, hloc⟩ := hmove c v hc hv hvel
        have := h.remote_explicit hc hv hrole hloc
        rw [he] at this
        cases this

variable {w cols rows : ℕ} {viewer : TerminalViewer}

open AList

/-- A registered viewer's resize leaves the controller where it was or makes
that viewer the controller. -/
theorem resize_controller (h : Elected s) (hw : s.viewers.lookup w = some viewer) :
    (s.remeasure w viewer cols rows).elect.2.controller = some w ∨
      (s.remeasure w viewer cols rows).elect.2.controller = s.controller := by
  simp only [remeasure]
  split
  case isFalse => exact Or.inr (elect_controller_of_elected h)
  case isTrue hdims =>
  -- the remeasured viewer is eligible; nobody else's entry changed
  set s₁ : SessionSizeState :=
    { s with viewers := s.viewers.insert w { viewer with cols := cols, rows := rows } } with hs₁
  have hself : s₁.viewers.lookup w = some { viewer with cols := cols, rows := rows } :=
    lookup_insert s.viewers
  have hother : ∀ {u : ℕ}, u ≠ w → s₁.viewers.lookup u = s.viewers.lookup u :=
    fun hne => lookup_insert_ne hne
  have hel₁ : s₁.eligibleAt w = true :=
    eligibleAt_iff.mpr ⟨_, hself, by simpa [TerminalViewer.eligible] using hdims⟩
  have hkeep : ∀ {u : ℕ}, s.controller = some u → s₁.eligibleAt u = true := by
    intro u hu
    rcases eq_or_ne u w with rfl | hne
    · exact hel₁
    · obtain ⟨v, hv, hvel⟩ := h.controller_eligible hu
      exact eligibleAt_iff.mpr ⟨v, by rw [hother hne, hv], hvel⟩
  simp only [elect]
  split
  · -- an explicit controller stays
    rename_i e he
    have hc : s.controller = some e := h.explicit_controls he
    rw [if_pos (hkeep hc)]
    exact Or.inr hc.symm
  · rename_i he
    rcases s₁.electByClass_controller with ⟨hsame, -⟩ | ⟨hnew, hmove⟩
    · exact Or.inr hsame
    · rw [hnew]
      rcases hel : s₁.electedCandidate with _ | u
      · -- impossible: `w` is eligible
        obtain ⟨v, hv, hvel⟩ := eligibleAt_iff.mp hel₁
        rw [electedCandidate_none hel hv] at hvel
        cases hvel
      · by_cases hne : u = w
        · exact Or.inl (by rw [hne])
        · -- somebody else won, so it was eligible before and somebody controlled
          exfalso
          obtain ⟨v, hv, hvel, hloc⟩ := electedCandidate_some hel
          rw [hother hne] at hv
          obtain ⟨c, hc⟩ := Option.isSome_iff_exists.mp (h.eligible_controlled hv hvel)
          -- that controller lost although eligible: it is remote, the winner local
          obtain ⟨x, hx, hxel⟩ := eligibleAt_iff.mp (hkeep hc)
          obtain ⟨hrole, hloc₁⟩ := hmove c x hc hx hxel
          have hlocal : s.LocalEligible := by
            refine ⟨u, v, hv, hvel, ?_⟩
            rcases hr : v.role with _ | _
            · rfl
            · exact absurd hloc₁ (hloc hr)
          have hremote : ∃ y, s.viewers.lookup c = some y ∧ y.role = .Remote := by
            by_cases hcw : c = w
            · subst hcw
              rw [hself] at hx
              cases hx
              exact ⟨viewer, hw, hrole⟩
            · exact ⟨x, by rw [← hother hcw, hx], hrole⟩
          obtain ⟨y, hy, hyrole⟩ := hremote
          have := h.remote_explicit hc hy hyrole hlocal
          rw [show s.explicitController = none from he] at this
          cases this

@[simp] theorem remeasure_lastApplied (s : SessionSizeState) (w : ℕ) (viewer : TerminalViewer)
    (cols rows : ℕ) : (s.remeasure w viewer cols rows).lastApplied = s.lastApplied := by
  simp only [remeasure]
  split <;> rfl

/-- A follower's resize leaves the state settled without asking. -/
theorem settled_follower (h : Elected s) (hs : Settled s) (hw : s.viewers.lookup w = some viewer)
    (hfollow : (s.remeasure w viewer cols rows).elect.2.controller ≠ some w) :
    Settled (s.remeasure w viewer cols rows).elect.2 := by
  set s₁ := s.remeasure w viewer cols rows with hs₁
  have hlast : s₁.elect.2.lastApplied = s.lastApplied := by
    rw [elect_lastApplied, hs₁, remeasure_lastApplied]
  have hc : s₁.elect.2.controller = s.controller := (resize_controller h hw).resolve_left hfollow
  have hother : ∀ {u : ℕ}, u ≠ w → s₁.elect.2.viewers.lookup u = s.viewers.lookup u := by
    intro u hne
    rw [elect_viewers, hs₁, remeasure]
    split
    · exact lookup_insert_ne hne
    · rfl
  rw [Settled, hlast]
  rcases hctl : s.controller with _ | c
  · -- nobody controls: `w` is registered, so the size is frozen
    rw [proposedSize_frozen (hc.trans hctl), hlast]
    have hmem : w ∈ s₁.elect.2.viewers := by
      rw [elect_viewers, hs₁]
      simp only [remeasure]
      split
      · exact (mem_insert _).mpr (Or.inl rfl)
      · exact lookup_isSome.mp (by simp [hw])
    rcases he : s₁.elect.2.viewers.entries with _ | ⟨e, es⟩
    · rw [mem_keys, keys, he] at hmem
      exact absurd hmem List.not_mem_nil
    · rfl
  · -- the controller is somebody else, whose size did not move
    obtain ⟨v, hv, -⟩ := h.controller_eligible hctl
    have hne : c ≠ w := fun heq => hfollow (by rw [hc, hctl, heq])
    rw [proposedSize_controller (hc.trans hctl) ((hother hne).trans hv), hs,
      proposedSize_controller hctl hv]

/-! ## A departure that controls nothing -/

/-- The state after a peer that controls nothing left. -/
def depart (s : SessionSizeState) (w : ℕ) : SessionSizeState :=
  { s with viewers := s.viewers.erase w, legacySizes := s.legacySizes.erase w }

/-- A peer with no legacy size takes nothing from the legacy minimum. -/
theorem effectiveTerminalSize_erase {sizes : AList fun _ : ℕ => Size}
    (hw : w ∉ sizes) (fallback : Size) :
    effectiveTerminalSize (sizes.erase w) fallback = effectiveTerminalSize sizes fallback := by
  have : (sizes.erase w).entries = sizes.entries := List.kerase_of_notMem_keys hw
  simp only [effectiveTerminalSize, this]

/-- If nobody is left once `w` leaves, `w` was the only registered viewer. -/
theorem keys_eq_singleton {v : TerminalViewer}
    (hv : s.viewers.lookup w = some v) (hempty : (s.viewers.erase w).entries.isEmpty = true) :
    s.viewers.keys = [w] := by
  have hmem : w ∈ s.viewers.keys := mem_keys.mp (lookup_isSome.mp (by simp [hv]))
  have hperm : s.viewers.keys.Perm (w :: s.viewers.keys.erase w) := List.perm_cons_erase hmem
  have herase : s.viewers.keys.erase w = [] := by
    rw [← keys_erase, keys, List.isEmpty_iff.mp hempty]
    rfl
  rw [herase] at hperm
  exact List.perm_singleton.mp hperm

/-- Unless it strands the legacy sizes, a departure that does not touch the
controller leaves the state settled without asking. -/
theorem settled_depart (h : Elected s) (hs : Settled s)
    (hctl : s.controller ≠ some w) (hns : ¬ Strands s (.remove w))
    (hask : ¬ ((s.legacySizes.lookup w).isSome = true ∧
      (s.viewers.erase w).entries.isEmpty = true)) : Settled (s.depart w) := by
  rcases hc : s.controller with _ | c
  · rcases hempty : (s.viewers.erase w).entries.isEmpty with _ | _
    · exact (proposedSize_frozen (s := s.depart w) hc hempty).symm
    · -- nobody is registered any more: the legacy minimum counts again
      have hleg : w ∉ s.legacySizes := by
        intro hmem
        exact hask ⟨lookup_isSome.mpr hmem, hempty⟩
      have hprop : (s.depart w).proposedSize =
          effectiveTerminalSize s.legacySizes s.lastApplied := by
        rw [proposedSize_legacy (s := s.depart w) hc hempty]
        exact effectiveTerminalSize_erase hleg _
      rw [Settled, hprop]
      rcases hv : s.viewers.lookup w with _ | v
      · -- nobody was registered before either
        have hsame : (s.viewers.erase w).entries = s.viewers.entries :=
          List.kerase_of_notMem_keys (lookup_eq_none.mp hv)
        rw [hsame] at hempty
        rw [← proposedSize_legacy hc hempty]
        exact hs
      · -- `w` was the last registered viewer, and not eligible
        by_contra hne
        refine hns ⟨⟨v, hv, ?_⟩, ?_, hleg, fun heq => hne heq.symm⟩
        · rcases he : v.eligible with _ | _
          · rfl
          · have := h.eligible_controlled hv he
            rw [hc] at this
            cases this
        · exact keys_eq_singleton hv hempty
  · obtain ⟨v, hv, -⟩ := h.controller_eligible hc
    have hne : c ≠ w := fun heq => hctl (by rw [hc, heq])
    have hv' : (s.depart w).viewers.lookup c = some v := (lookup_erase_ne hne).trans hv
    rw [Settled, proposedSize_controller (s := s.depart w) hc hv', ← proposedSize_controller hc hv]
    exact hs

/-! ## Every operation, and every run -/

theorem Elected.settle {r : Option Size × SessionSizeState} (h : Elected r.2) :
    Elected (settle r) := by
  rw [SessionSizeState.settle]
  split
  · exact h.of_same rfl rfl rfl
  · exact h

/-- An operation that does not strand the legacy sizes keeps the state elected
and settled. -/
theorem settled_settleStep {s' : SessionSizeState} {op : SizeOp}
    (h : Elected s ∧ Settled s) (hns : ¬ Strands s op) (hstep : settleStep s op = some s') :
    Elected s' ∧ Settled s' := by
  obtain ⟨hel, hs⟩ := h
  cases hstep
  refine ⟨(elected_apply hel op).settle, ?_⟩
  cases op with
  | register w vid role cols rows visible generation =>
    simp only [SizeOp.apply, register]
    split
    · exact hs
    · exact settled_settle _
  | resize w cols rows =>
    simp only [SizeOp.apply, resize]
    split
    · rename_i viewer hw
      split
      · exact settled_settle _
      · rename_i hfollow
        exact settled_follower hel hs hw hfollow
    · exact settled_settle _
  | takeover w =>
    simp only [SizeOp.apply, takeover]
    split
    · exact settled_settle _
    · exact hs
  | release w =>
    simp only [SizeOp.apply, release]
    split
    · exact settled_settle _
    · exact hs
  | remove w =>
    simp only [SizeOp.apply, remove]
    split
    · exact settled_settle _
    · rename_i hctl
      split
      · exact settled_settle _
      · rename_i hask
        refine settled_depart hel hs (fun hw => hctl (Or.inl hw)) hns ?_
        simpa [Bool.and_eq_true] using hask

/-- The departure `remove` gets wrong does unsettle the state: nobody is
registered any more, the legacy minimum is not applied, and no resize is asked
for. -/
theorem not_settled_of_strands {op : SizeOp} (h : Elected s)
    (hst : Strands s op) : ∃ s', settleStep s op = some s' ∧ ¬ Settled s' := by
  cases op with
  | remove w =>
    obtain ⟨⟨v, hv, hve⟩, hkeys, hleg, hne⟩ := hst
    have hc : s.controller = none := by
      rcases hc : s.controller with _ | c
      · rfl
      · obtain ⟨x, hx, hxe⟩ := h.controller_eligible hc
        have hmem : c ∈ s.viewers.keys := mem_keys.mp (lookup_isSome.mp (by simp [hx]))
        rw [hkeys, List.mem_singleton] at hmem
        rw [hmem, hv] at hx
        cases hx
        rw [hve] at hxe
        cases hxe
    have hex : s.explicitController ≠ some w := by
      intro he
      rw [h.explicit_controls he] at hc
      cases hc
    have hnoleg : s.legacySizes.lookup w = none := lookup_eq_none.mpr hleg
    have hempty : (s.viewers.erase w).entries.isEmpty = true := by
      have : (s.viewers.erase w).keys = [] := by
        rw [keys_erase, hkeys]
        simp
      simpa [keys, List.keys] using this
    refine ⟨s.depart w, ?_, ?_⟩
    · simp [settleStep, SizeOp.apply, remove, hc, hex, hnoleg, settle, depart]
    · rw [Settled, proposedSize_legacy (s := s.depart w) hc hempty]
      intro heq
      refine hne ?_
      rw [← effectiveTerminalSize_erase hleg]
      exact heq.symm
  | _ => cases hst

/-- **Settling, exactly**: with every resize that is asked for performed at
once, the applied size is the proposed size after every operation of a run if
and only if no operation of the run is a departure that strands the legacy
sizes. -/
theorem settled_iff_no_strand (spawnSize : Size) (ops : List SizeOp) :
    Always settleStep Settled (new spawnSize) ops ↔
      Meets settleStep (fun s op => ¬ Strands s op) (new spawnSize) ops := by
  refine always_iff_meets (I := fun s => Elected s ∧ Settled s) (fun h => h.2)
    settled_settleStep ?_ ⟨elected_new spawnSize, rfl⟩
  intro s op h hst
  exact not_settled_of_strands h.1 (not_not.mp hst)

instance (s : SessionSizeState) : Decidable (Settled s) :=
  inferInstanceAs (Decidable (s.lastApplied = s.proposedSize))

/-- A hidden viewer is the last registered one: while it was registered, a
legacy peer's new size was held back, and when it leaves nobody applies it. -/
theorem hidden_viewer_strands_legacy :
    ¬ Always settleStep Settled (new (80, 24))
      [.resize 1 100 40, .register 2 "phone" .Remote 120 30 false 1, .resize 1 60 20,
        .remove 2] := by
  intro h
  have := h.last (t := ⟨(100, 40), ∅, singleton 1 (60, 20), none, none⟩) (by rfl)
  exact absurd this (by decide)

end SessionSizeState

end Kanna
