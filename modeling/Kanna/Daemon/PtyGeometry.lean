import Kanna.Daemon.SizeSettling

/-!
# Daemon commands that touch a session's geometry

`crates/daemon/src/connection.rs`: the handlers of `Spawn`, `Resize`,
`ResizeNoReply`, `RegisterViewer`, `TakeoverViewer`, `ReleaseViewer`, `Detach`,
and the cleanup of a dropped connection, seen from one session id. The daemon
keeps the session's PTY in the session manager and its size policy in a separate
map, so each may exist without the other. Commands on one session are serialised
by its lifecycle lock; a PTY resize is taken to succeed.

The size entry is created by whichever of four handlers comes first, each with
its own idea of the size the PTY has: `Spawn` seeds it with the spawn size,
`Resize` and `ResizeNoReply` with the size *asked for*, `RegisterViewer` with
`rows_cols()`, which is `(rows, cols)`. `sizes_match_iff_seeded` says exactly
which runs keep the entry and the PTY together.
-/

namespace Kanna

open SessionSizeState

/-- The grid of a live PTY. -/
structure Pty where
  /-- actual width -/
  cols : ℕ
  /-- actual height -/
  rows : ℕ

/-- The PTY's size, in the order the size policy uses. -/
def Pty.size (p : Pty) : Size := (p.cols, p.rows)

/-- `SessionHandle::rows_cols`: the PTY's grid, rows first. -/
def Pty.rowsCols (p : Pty) : ℕ × ℕ := (p.rows, p.cols)

/-- What the daemon holds about one session id. -/
structure SessionSlot where
  /-- the session's PTY, while the session lives -/
  pty : Option Pty
  /-- the session's entry in the size map -/
  sizes : Option SessionSizeState

/-- The commands, with the writer id of the connection they arrive on. -/
inductive GeometryCommand where
  /-- start the session -/
  | spawn (cols rows : ℕ)
  /-- ask for a size, and wait for the answer -/
  | resize (writerId cols rows : ℕ)
  /-- ask for a size -/
  | resizeNoReply (writerId cols rows : ℕ)
  /-- declare a viewer -/
  | registerViewer (writerId : ℕ) (viewerId : String) (role : TerminalViewerRole)
      (generation cols rows : ℕ) (visible : Bool)
  /-- take control -/
  | takeoverViewer (writerId : ℕ)
  /-- give control back -/
  | releaseViewer (writerId : ℕ)
  /-- stop watching -/
  | detach (writerId : ℕ)
  /-- the connection dropped -/
  | disconnect (writerId : ℕ)

/-- What the handler writes back on the connection. -/
inductive GeometryReply where
  /-- done -/
  | ok
  /-- the session was started -/
  | sessionCreated
  /-- the session is already running -/
  | sessionAlreadyExists
  /-- there is no such session -/
  | sessionNotFound

namespace SessionSlot

/-- Nothing is known about the session id yet. -/
def vacant : SessionSlot := ⟨none, none⟩

variable (slot : SessionSlot)

/-- Store the entry an operation leaves behind and perform the resize it asks
for: resize the PTY, then mark the size as applied in whatever entry there is. -/
def perform (entry : Option SessionSizeState) (resize : Option Size) : SessionSlot :=
  match resize, slot.pty with
  | some size, some _ =>
    { pty := some ⟨size.1, size.2⟩, sizes := entry.map fun st => st.markApplied size }
  | _, _ => { slot with sizes := entry }

/-- Whether `perform` finds the PTY it has to resize. -/
def resizable (resize : Option Size) : Bool :=
  resize.isNone || slot.pty.isSome

/-- An operation on the entry, if there is one. -/
def onEntry (op : SizeOp) : SessionSlot :=
  match slot.sizes with
  | some st => slot.perform (some (op.apply st).2) (op.apply st).1
  | none => slot

/-- The shared body of `Resize` and `ResizeNoReply`: a missing entry is created
with the size asked for. -/
def resizeEntry (writerId cols rows : ℕ) : Option Size × SessionSizeState :=
  (slot.sizes.getD (new (cols, rows))).resize writerId cols rows

/-- Handle one command: the new slot and the reply, if any is sent. -/
def handle : GeometryCommand → SessionSlot × Option GeometryReply
  | .spawn cols rows =>
    if slot.pty.isSome then (slot, some .sessionAlreadyExists)
    else
      (⟨some ⟨cols, rows⟩, some (slot.sizes.getD (new (cols, rows)))⟩, some .sessionCreated)
  | .resize w cols rows =>
    let r := slot.resizeEntry w cols rows
    (slot.perform (some r.2) r.1,
      some (if slot.resizable r.1 then .ok else .sessionNotFound))
  | .resizeNoReply w cols rows =>
    let r := slot.resizeEntry w cols rows
    (slot.perform (some r.2) r.1,
      if slot.resizable r.1 then none else some .sessionNotFound)
  | .registerViewer w vid role generation cols rows visible =>
    match slot.pty with
    | some p =>
      let r := (slot.sizes.getD (new p.rowsCols)).register w vid role cols rows visible generation
      (slot.perform (some r.2) r.1, none)
    | none => (slot, some .sessionNotFound)
  | .takeoverViewer w => (slot.onEntry (.takeover w), none)
  | .releaseViewer w => (slot.onEntry (.release w), none)
  | .detach w =>
    if slot.pty.isSome then (slot.onEntry (.remove w), some .ok)
    else (slot, some .sessionNotFound)
  | .disconnect w =>
    match slot.sizes with
    | some st =>
      -- only an entry that knows the writer is updated, but every entry without
      -- viewers and legacy sizes is dropped before the resize is performed
      let r := if w ∈ st.viewers ∨ w ∈ st.legacySizes then st.remove w else (none, st)
      let entry := if r.2.viewers.entries.isEmpty && r.2.legacySizes.entries.isEmpty then none
        else some r.2
      (slot.perform entry r.1, none)
    | none => (slot, none)

/-- Every command is handled in every state. -/
def geometryStep (cmd : GeometryCommand) : Option SessionSlot :=
  some (slot.handle cmd).1

/-- While the session lives, its size entry records the PTY's actual size as
applied, and proposes no other: whatever was proposed reached the PTY. -/
def SizesMatch : Prop :=
  ∀ p st, slot.pty = some p → slot.sizes = some st →
    st.lastApplied = p.size ∧ st.proposedSize = p.size

/-- The commands that keep entry and PTY together.

* `Spawn` finds no leftover entry, or one that already stands at the spawn size.
* `Resize` and `ResizeNoReply` create the entry only for the size the PTY has.
* `RegisterViewer` creates the entry only for a square PTY (rows and columns are
  the same), or with an eligible viewer whose size is not the transposed one.
* `Detach` and a dropped connection do not strand the legacy sizes. -/
def Seeded : GeometryCommand → Prop
  | .spawn cols rows => slot.pty = none → ∀ st, slot.sizes = some st →
      st.lastApplied = (cols, rows) ∧ st.proposedSize = (cols, rows)
  | .resize _ cols rows => ∀ p, slot.pty = some p → slot.sizes = none → (cols, rows) = p.size
  | .resizeNoReply _ cols rows =>
    ∀ p, slot.pty = some p → slot.sizes = none → (cols, rows) = p.size
  | .registerViewer _ _ _ _ cols rows visible =>
    ∀ p, slot.pty = some p → slot.sizes = none →
      p.cols = p.rows ∨
        (visible = true ∧ 0 < cols ∧ 0 < rows ∧ (cols, rows) ≠ p.rowsCols)
  | .takeoverViewer _ => True
  | .releaseViewer _ => True
  | .detach w => ∀ p st, slot.pty = some p → slot.sizes = some st → ¬ Strands st (.remove w)
  | .disconnect w => ∀ p st, slot.pty = some p → slot.sizes = some st → ¬ Strands st (.remove w)

/-! ## One operation on the entry -/

/-- What the runs below maintain: the entry is elected, and while the session
lives it is settled at the PTY's size. -/
def Tracked : Prop :=
  ∀ st, slot.sizes = some st →
    Elected st ∧ ∀ p, slot.pty = some p → st.lastApplied = p.size ∧ Settled st

variable {slot : SessionSlot}

theorem Tracked.sizesMatch (h : slot.Tracked) : slot.SizesMatch := by
  intro p st hp hst
  obtain ⟨-, hlive⟩ := h st hst
  obtain ⟨hlast, hset⟩ := hlive p hp
  exact ⟨hlast, by rw [← hset, hlast]⟩

variable {p : Pty}

variable {r : Option Size × SessionSizeState}

/-- An outcome that is elected, settled, and either resized the PTY or stood at
its size leaves the slot tracked. -/
theorem tracked_perform (hp : slot.pty = some p)
    (hel : Elected (settle r)) (hset : Settled (settle r))
    (hr : r.1.isSome = true ∨ r.2.lastApplied = p.size) :
    (slot.perform (some r.2) r.1).Tracked := by
  obtain ⟨resize, st⟩ := r
  cases resize with
  | none =>
    rintro _ ⟨⟩
    refine ⟨hel, fun q hq => ?_⟩
    cases hp.symm.trans hq
    exact ⟨hr.resolve_left nofun, hset⟩
  | some size =>
    simp only [perform, hp]
    rintro _ ⟨⟩
    refine ⟨hel, ?_⟩
    rintro _ ⟨⟩
    exact ⟨rfl, hset⟩

/-- The operations do not touch the applied size themselves. -/
theorem apply_lastApplied (s : SessionSizeState) (op : SizeOp) :
    (op.apply s).2.lastApplied = s.lastApplied := by
  cases op with
  | register w vid role cols rows visible generation =>
    simp only [SizeOp.apply, register]
    split
    · rfl
    · rw [elect_lastApplied]
  | resize w cols rows =>
    simp only [SizeOp.apply, SessionSizeState.resize]
    split
    · rw [elect_lastApplied, remeasure_lastApplied]
    · rfl
  | takeover w =>
    simp only [SizeOp.apply, takeover]
    split <;> rfl
  | release w =>
    simp only [SizeOp.apply, release]
    split
    · rw [elect_lastApplied]
    · rfl
  | remove w =>
    simp only [SizeOp.apply, remove]
    split
    · rw [elect_lastApplied]
    · split <;> rfl

theorem remove_legacySizes (s : SessionSizeState) (w : ℕ) :
    (s.remove w).2.legacySizes = s.legacySizes.erase w := by
  simp only [remove]
  split
  · rw [elect_legacySizes]
  · split <;> rfl

variable {st : SessionSizeState}

/-- An operation on a tracked entry that does not strand the legacy sizes
leaves the slot tracked. -/
theorem Tracked.op (hel : Elected st)
    (hlive : ∀ p, slot.pty = some p → st.lastApplied = p.size ∧ Settled st) (op : SizeOp)
    (hns : ∀ p, slot.pty = some p → ¬ Strands st op) :
    (slot.perform (some (op.apply st).2) (op.apply st).1).Tracked := by
  rcases hp : slot.pty with _ | p
  · -- without a PTY nothing is resized
    have hsame : slot.perform (some (op.apply st).2) (op.apply st).1 =
        { slot with sizes := some (op.apply st).2 } := by
      cases (op.apply st).1 <;> simp [perform, hp]
    rw [hsame]
    rintro _ ⟨⟩
    refine ⟨elected_apply hel op, fun p hp' => ?_⟩
    rw [hp] at hp'
    cases hp'
  · obtain ⟨hlast, hset⟩ := hlive p hp
    obtain ⟨hel', hset'⟩ := settled_settleStep ⟨hel, hset⟩ (hns p hp) rfl
    exact tracked_perform hp hel' hset' (Or.inr (by rw [apply_lastApplied, hlast]))

/-! ## The entry's first size -/

open Option

section New

variable (seed : Size) (w : ℕ) (vid : String) (role : TerminalViewerRole) (cols rows : ℕ)
  (visible : Bool) (generation : ℕ)

/-- What a fresh entry proposes once its first viewer registered: the viewer's
size if it is eligible, and the seed otherwise. -/
theorem register_new_proposedSize :
    ((new seed).register w vid role cols rows visible generation).2.proposedSize =
      if visible = true ∧ 0 < cols ∧ 0 < rows then (cols, rows) else seed := by
  set viewer : TerminalViewer := ⟨vid, role, cols, rows, visible, generation⟩ with hviewer
  set s := ({ new seed with viewers := (new seed).viewers.insert w viewer } :
    SessionSizeState) with hs
  have hreg : ((new seed).register w vid role cols rows visible generation).2 = s.elect.2 := rfl
  have hself : s.elect.2.viewers.lookup w = some viewer := by
    rw [elect_viewers]
    exact AList.lookup_insert _
  have honly : ∀ {u : ℕ} {v : TerminalViewer}, s.elect.2.viewers.lookup u = some v → u = w := by
    intro u v hu
    by_contra hne
    rw [elect_viewers, hs, AList.lookup_insert_ne hne] at hu
    cases hu
  have hinv : Elected s.elect.2 := elected_elect s
  have heligible : viewer.eligible = true ↔ visible = true ∧ 0 < cols ∧ 0 < rows := by
    simp [TerminalViewer.eligible, hviewer, and_assoc]
  rw [hreg]
  split
  · rename_i hok
    -- the only viewer is eligible, so it controls
    obtain ⟨c, hc⟩ := isSome_iff_exists.mp (hinv.eligible_controlled hself (heligible.mpr hok))
    obtain ⟨v, hv, -⟩ := hinv.controller_eligible hc
    obtain rfl := honly hv
    rw [proposedSize_controller hc hself]
  · rename_i hbad
    -- nobody is eligible, so nobody controls and the seed stays
    have hc : s.elect.2.controller = none := by
      rcases hc : s.elect.2.controller with _ | c
      · rfl
      · obtain ⟨v, hv, hve⟩ := hinv.controller_eligible hc
        obtain rfl := honly hv
        rw [hself] at hv
        cases hv
        exact absurd (heligible.mp hve) hbad
    have hsome : s.elect.2.viewers.entries.isEmpty = false := by
      rw [elect_viewers]
      rfl
    rw [proposedSize_frozen hc hsome, elect_lastApplied]
    rfl

/-- A fresh entry's first registration asks for a resize exactly if the viewer
is eligible and its size is not the seed. -/
theorem register_new_isSome :
    ((new seed).register w vid role cols rows visible generation).1.isSome = true ↔
      visible = true ∧ 0 < cols ∧ 0 < rows ∧ (cols, rows) ≠ seed := by
  have hprop := register_new_proposedSize seed w vid role cols rows visible generation
  have hlast := apply_lastApplied (new seed) (.register w vid role cols rows visible generation)
  have hres : ((new seed).register w vid role cols rows visible generation).1 =
      ((new seed).register w vid role cols rows visible generation).2.pendingResize := rfl
  simp only [SizeOp.apply] at hlast
  rw [hres, pendingResize, hprop, hlast]
  by_cases hok : visible = true ∧ 0 < cols ∧ 0 < rows
  · obtain ⟨hv, hc, hr⟩ := hok
    simp [hv, hc, hr, new]
  · have : ¬ (visible = true ∧ 0 < cols ∧ 0 < rows ∧ (cols, rows) ≠ seed) :=
      fun h => hok ⟨h.1, h.2.1, h.2.2.1⟩
    simp [hok, new, this]

end New

/-! ## Every command, and every run -/

variable {w cols rows : ℕ}

/-- An operation on the entry of a tracked slot, if there is one. -/
theorem tracked_onEntry (h : slot.Tracked) (op : SizeOp)
    (hns : ∀ p st, slot.pty = some p → slot.sizes = some st → ¬ Strands st op) :
    (slot.onEntry op).Tracked := by
  rcases hst : slot.sizes with _ | st
  · simp only [onEntry, hst]
    exact h
  · obtain ⟨hel, hlive⟩ := h st hst
    simp only [onEntry, hst]
    exact Tracked.op hel hlive op fun p hp => hns p st hp hst

/-- Dropping the entry keeps the slot tracked. -/
theorem tracked_drop (slot : SessionSlot) (resize : Option Size) :
    (slot.perform none resize).Tracked := by
  intro st hst
  rcases hp : slot.pty with _ | p <;> rcases resize with _ | size <;>
    simp [perform, hp] at hst

/-- A session is spawned, into an entry of its own or into a seeded one. -/
theorem tracked_spawn (h : slot.Tracked) (hseed : ∀ st, slot.sizes = some st →
      st.lastApplied = (cols, rows) ∧ st.proposedSize = (cols, rows)) :
    Tracked { pty := some ⟨cols, rows⟩, sizes := some (slot.sizes.getD (new (cols, rows))) } := by
  intro st hst
  rcases hsz : slot.sizes with _ | st₀
  · simp only [hsz, getD_none, some.injEq] at hst
    subst hst
    refine ⟨elected_new _, fun p hp => ?_⟩
    cases hp
    exact ⟨rfl, rfl⟩
  · simp only [hsz, getD_some, some.injEq] at hst
    subst hst
    obtain ⟨hlast, hprop⟩ := hseed _ hsz
    refine ⟨(h _ hsz).1, fun p hp => ?_⟩
    cases hp
    exact ⟨hlast, by rw [Settled, hlast, hprop]⟩

/-- A registration that creates the entry: its seed is the transposed size, so the
PTY has to be square, or resized at once. -/
theorem tracked_register_new (hp : slot.pty = some p)
    {vid : String} {role : TerminalViewerRole} {visible : Bool} {generation : ℕ}
    (hseed : p.cols = p.rows ∨ (visible = true ∧ 0 < cols ∧ 0 < rows ∧ (cols, rows) ≠ p.rowsCols)) :
    (slot.perform (some ((new p.rowsCols).register w vid role cols rows visible generation).2)
      ((new p.rowsCols).register w vid role cols rows visible generation).1).Tracked := by
  have hreg := settled_settle ((new p.rowsCols).register w vid role cols rows visible generation).2
  have hel := elected_apply (elected_new p.rowsCols)
    (.register w vid role cols rows visible generation)
  refine tracked_perform hp hel.settle hreg ?_
  obtain hsq | hok := hseed
  · have hlast := apply_lastApplied (new p.rowsCols)
      (.register w vid role cols rows visible generation)
    simp only [SizeOp.apply] at hlast
    exact .inr (by rw [hlast, new, Pty.rowsCols, Pty.size, hsq])
  · exact .inl ((register_new_isSome _ _ _ _ _ _ _ _).mpr hok)

variable {cmd : GeometryCommand}

/-- **A seeded command keeps the slot tracked.** -/
theorem tracked_step {slot' : SessionSlot} (h : slot.Tracked) (hseed : slot.Seeded cmd)
    (hstep : geometryStep slot cmd = some slot') : slot'.Tracked := by
  cases hstep
  cases cmd with
  | spawn cols rows =>
    simp only [handle]
    split
    next => exact h
    next hp =>
      have hnone : slot.pty = none := by simpa using hp
      exact tracked_spawn h (hseed hnone)
  | resize w cols rows | resizeNoReply w cols rows =>
    rcases hst : slot.sizes with _ | st
    · simp only [handle, resizeEntry, hst, getD_none]
      exact Tracked.op (elected_new _) (fun p hp => ⟨hseed p hp hst, rfl⟩) (.resize w cols rows)
        (fun _ _ hs => hs)
    · obtain ⟨hel, hlive⟩ := h st hst
      simp only [handle, resizeEntry, hst, getD_some]
      exact Tracked.op hel hlive (.resize w cols rows) (fun _ _ hs => hs)
  | registerViewer w vid role generation cols rows visible =>
    simp only [handle]
    split
    next p hp =>
      rcases hst : slot.sizes with _ | st
      · exact tracked_register_new hp (hseed p hp hst)
      · obtain ⟨hel, hlive⟩ := h st hst
        exact Tracked.op hel hlive (.register w vid role cols rows visible generation)
          (fun _ _ hs => hs)
    next => exact h
  | takeoverViewer w => exact tracked_onEntry h (.takeover w) fun _ _ _ _ hs => hs
  | releaseViewer w => exact tracked_onEntry h (.release w) fun _ _ _ _ hs => hs
  | detach w =>
    simp only [handle]
    split
    · exact tracked_onEntry h (.remove w) hseed
    · exact h
  | disconnect w =>
    simp only [handle]
    split
    · rename_i st hst
      obtain ⟨hel, hlive⟩ := h st hst
      split
      · -- the entry knows the writer
        split
        · exact tracked_drop _ _
        · exact Tracked.op hel hlive (.remove w) fun p hp => hseed p st hp hst
      · split
        · exact tracked_drop _ _
        · intro st' hst'
          cases hst'
          exact ⟨hel, hlive⟩
    · exact h

/-- An entry that stands at another size than the PTY, or proposes another, does
not match. -/
theorem not_sizesMatch_perform (hp : slot.pty = some p) (hr : r.1 = none)
    (hne : r.2.lastApplied ≠ p.size ∨ r.2.proposedSize ≠ p.size) :
    ¬ (slot.perform (some r.2) r.1).SizesMatch := by
  intro h
  have hpty : (slot.perform (some r.2) r.1).pty = some p := by simp [perform, hr, hp]
  have hsz : (slot.perform (some r.2) r.1).sizes = some r.2 := by simp [perform, hr]
  obtain ⟨hlast, hprop⟩ := h p r.2 hpty hsz
  rcases hne with hne | hne
  · exact hne hlast
  · exact hne hprop

/-- A departure that strands the legacy sizes of a tracked entry asks for no
resize and leaves an entry that proposes another size. -/
theorem remove_of_strands (hel : Elected st) (hst : Strands st (.remove w)) :
    (st.remove w).1 = none ∧ (st.remove w).2.proposedSize ≠ st.lastApplied := by
  obtain ⟨s', hs', hns⟩ := not_settled_of_strands hel hst
  have hlast := apply_lastApplied st (.remove w)
  simp only [SizeOp.apply] at hlast
  simp only [settleStep, SizeOp.apply, some.injEq] at hs'
  obtain ⟨⟨v, hv, hve⟩, hkeys, hleg, hne⟩ := hst
  rcases hr : (st.remove w).1 with _ | size
  · refine ⟨rfl, fun heq => hns ?_⟩
    simp only [settle, hr] at hs'
    rw [← hs', Settled, hlast, heq]
  · -- a resize that is asked for is the pending one, so performing it settles
    exfalso
    refine hns ?_
    rw [← hs']
    simp only [remove] at hr ⊢
    split
    · exact settled_settle _
    · rename_i hctl
      rw [if_neg hctl] at hr
      split
      · exact settled_settle _
      · rename_i hask
        rw [if_neg hask] at hr
        cases hr

/-- Who strands the legacy sizes leaves some of them, so the entry is not dropped. -/
theorem remove_keeps_legacySizes
    (hst : Strands st (.remove w)) : (st.remove w).2.legacySizes.entries.isEmpty = false := by
  obtain ⟨-, -, hleg, hne⟩ := hst
  have hsame : (st.legacySizes.erase w).entries = st.legacySizes.entries :=
    List.kerase_of_notMem_keys hleg
  rw [remove_legacySizes, hsame]
  rcases hent : st.legacySizes.entries with _ | ⟨e, es⟩
  · refine absurd ?_ hne
    simp [effectiveTerminalSize, hent]
  · rfl

/-- **A command that is not seeded breaks the match.** -/
theorem not_sizesMatch_of_not_seeded (h : slot.Tracked) (hseed : ¬ slot.Seeded cmd) :
    ∃ slot', geometryStep slot cmd = some slot' ∧ ¬ slot'.SizesMatch := by
  refine ⟨_, rfl, ?_⟩
  cases cmd with
  | spawn cols rows =>
    simp only [Seeded, not_forall] at hseed
    obtain ⟨hnone, st, hst, hne⟩ := hseed
    intro hmatch
    have := hmatch ⟨cols, rows⟩ st (by simp [handle, hnone]) (by simp [handle, hnone, hst])
    exact hne this
  | resize w cols rows | resizeNoReply w cols rows =>
    simp only [Seeded, not_forall] at hseed
    obtain ⟨p, hp, hst, hne⟩ := hseed
    simp only [handle, resizeEntry, hst, getD_none]
    refine not_sizesMatch_perform hp ?_ (Or.inl hne)
    -- the entry was seeded with the very size the peer proposes
    simp [SessionSizeState.resize, new, pendingResize, proposedSize, effectiveTerminalSize,
      AList.insert_empty]
  | registerViewer w vid role generation cols rows visible =>
    simp only [Seeded, not_forall, not_or] at hseed
    obtain ⟨p, hp, hst, hsq, hbad⟩ := hseed
    have hnone : ((new p.rowsCols).register w vid role cols rows visible generation).1 = none := by
      rcases hr : ((new p.rowsCols).register w vid role cols rows visible generation).1
        with _ | size
      · rfl
      · refine absurd ((register_new_isSome _ w vid role _ _ _ generation).mp ?_) hbad
        rw [hr]
        rfl
    have hlast := apply_lastApplied (new p.rowsCols)
      (.register w vid role cols rows visible generation)
    simp only [SizeOp.apply] at hlast
    simp only [handle, hp, hst, getD_none]
    refine not_sizesMatch_perform hp hnone (Or.inl ?_)
    rw [hlast]
    intro heq
    -- the seed is the transposed size, so the PTY would be square
    exact hsq (Prod.ext_iff.mp heq).2
  | detach w =>
    simp only [Seeded, not_forall, not_not] at hseed
    obtain ⟨p, st, hp, hst, hstrand⟩ := hseed
    obtain ⟨hel, hlive⟩ := h st hst
    obtain ⟨hnone, hprop⟩ := remove_of_strands hel hstrand
    rw [(hlive p hp).1] at hprop
    simp only [handle, hp, isSome_some, if_true, onEntry, hst, SizeOp.apply]
    exact not_sizesMatch_perform hp hnone (Or.inr hprop)
  | disconnect w =>
    simp only [Seeded, not_forall, not_not] at hseed
    obtain ⟨p, st, hp, hst, hstrand⟩ := hseed
    obtain ⟨hel, hlive⟩ := h st hst
    obtain ⟨hnone, hprop⟩ := remove_of_strands hel hstrand
    have hkept := remove_keeps_legacySizes hstrand
    obtain ⟨⟨v, hv, -⟩, -⟩ := hstrand
    have hmem : w ∈ st.viewers ∨ w ∈ st.legacySizes :=
      Or.inl (AList.lookup_isSome.mp (by simp [hv]))
    rw [(hlive p hp).1] at hprop
    simp only [handle, hst, if_pos hmem, hkept, Bool.and_false, Bool.false_eq_true, if_false]
    exact not_sizesMatch_perform hp hnone (Or.inr hprop)
  | _ => exact absurd trivial hseed

/-- **Entry and PTY stay together, exactly**: along a run of commands on one
session, the size entry records the PTY's actual size after every command, and
what it proposes has reached the PTY, if and only if every command of the run is
seeded. -/
theorem sizes_match_iff_seeded (cmds : List GeometryCommand) :
    Always geometryStep SizesMatch vacant cmds ↔ Meets geometryStep Seeded vacant cmds := by
  refine always_iff_meets (I := Tracked) (fun h => h.sizesMatch) tracked_step
    not_sizesMatch_of_not_seeded ?_
  intro st hst
  cases hst

/-- A resize that finds no entry is swallowed: the session was spawned at 80×24,
the last client left and took the entry along, and the next client's 120×40 is
recorded as applied while the PTY stays at 80×24. -/
theorem recreated_entry_swallows_resize :
    ¬ Always geometryStep SizesMatch vacant [.spawn 80 24, .disconnect 1, .resize 2 120 40] := by
  intro h
  have := h.last (t := ⟨some ⟨80, 24⟩, some ⟨(120, 40), ∅, AList.singleton 2 (120, 40), none,
    none⟩⟩) (by rfl)
  have := (this ⟨80, 24⟩ _ rfl rfl).1
  exact absurd this (by decide)

end SessionSlot

end Kanna
