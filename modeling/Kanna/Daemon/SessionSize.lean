import Mathlib.Data.List.AList
import Mathlib.Data.List.Sort
import Mathlib.Data.Prod.Lex
import Mathlib.Data.String.Basic
import Kanna.Lib.Run

/-!
# The size policy of one PTY

`crates/daemon/src/client.rs`: the daemon owns the size of each PTY. Viewers
that declare geometry support register under the id of their connection's
writer; one of them is the **controller**, and the PTY takes the controller's
size. Undeclared peers only leave a *legacy* size, and the minimum of those
counts while nobody has registered.

The maps are association lists with distinct keys (`AList`); nothing below
depends on their order. Sizes are `(cols, rows)`.

* `Elected` — the election invariant; every mutator restores it
  (`elected_apply`).
* `Settled` — the size last applied to the PTY is the size the state proposes.
  One branch of `remove` loses it, and `settled_iff_no_strand` says exactly
  when.
-/

namespace Kanna

/-- A terminal size, `(cols, rows)`. -/
abbrev Size : Type := ℕ × ℕ

/-- Where a viewer sits relative to the daemon. -/
inductive TerminalViewerRole where
  /-- on the machine the daemon runs on -/
  | Local
  /-- behind the network -/
  | Remote
  deriving DecidableEq

/-- A live, measured terminal viewer. `generation` rejects stale messages from
a replaced viewer on a connection that is being reused. -/
structure TerminalViewer where
  /-- the name the viewer registered under -/
  viewerId : String
  /-- where the viewer sits -/
  role : TerminalViewerRole
  /-- measured width -/
  cols : ℕ
  /-- measured height -/
  rows : ℕ
  /-- whether the viewer is on screen -/
  visible : Bool
  /-- the registration's generation -/
  generation : ℕ

/-- Only a visible viewer with a non-degenerate grid may control the PTY. -/
def TerminalViewer.eligible (viewer : TerminalViewer) : Bool :=
  viewer.visible && decide (0 < viewer.cols) && decide (0 < viewer.rows)

/-- The daemon-owned size policy for one PTY. -/
structure SessionSizeState where
  /-- the size the PTY was last given -/
  lastApplied : Size
  /-- registered viewers, by writer id -/
  viewers : AList fun _ : ℕ => TerminalViewer
  /-- sizes of undeclared peers, by writer id -/
  legacySizes : AList fun _ : ℕ => Size
  /-- the viewer whose size the PTY takes -/
  controller : Option ℕ
  /-- the controller, if it got there by an explicit takeover -/
  explicitController : Option ℕ

/-- Compatibility-only minimum policy for sessions whose viewers have not
registered geometry support yet: column-wise and row-wise minimum. -/
def effectiveTerminalSize (clientSizes : AList fun _ : ℕ => Size) (fallback : Size) : Size :=
  ((clientSizes.entries.map fun e => e.2.1).min?.getD fallback.1,
    (clientSizes.entries.map fun e => e.2.2).min?.getD fallback.2)

namespace SessionSizeState

/-- A fresh state for a PTY of the given size. -/
def new (spawnSize : Size) : SessionSizeState where
  lastApplied := spawnSize
  viewers := ∅
  legacySizes := ∅
  controller := none
  explicitController := none

/-! ## Election -/

/-- The election class of a role: local viewers come first. -/
def electionClass : TerminalViewerRole → ℕ
  | .Local => 0
  | .Remote => 1

/-- The election key of an eligible viewer: class, then viewer id, then writer
id. Writer ids are distinct, so the order is strict on one state's keys. -/
def candidateKey (writerId : ℕ) (viewer : TerminalViewer) : ℕ ×ₗ String ×ₗ ℕ :=
  toLex (electionClass viewer.role, toLex (viewer.viewerId, writerId))

variable (s : SessionSizeState)

/-- The eligible viewers' election keys. -/
def candidates : List (ℕ ×ₗ String ×ₗ ℕ) :=
  (s.viewers.entries.filter fun e => e.2.eligible).map fun e => candidateKey e.1 e.2

/-- The eligible viewer that comes first in the election order. -/
def electedCandidate : Option ℕ :=
  (s.candidates.insertionSort (· ≤ ·)).head?.map fun key => (ofLex (ofLex key).2).2

/-- Some eligible viewer is local. -/
def hasEligibleLocal : Bool :=
  s.viewers.entries.any fun e => e.2.eligible && decide (e.2.role = .Local)

/-- The viewer registered under `writerId` exists and is eligible. -/
def eligibleAt (writerId : ℕ) : Bool :=
  (s.viewers.lookup writerId).any TerminalViewer.eligible

/-- The part of `elect` that runs once no explicit controller is left: keep an
eligible controller, unless it is remote and a local viewer could take over. -/
def electByClass : SessionSizeState :=
  let currentIsEligible := s.controller.any s.eligibleAt
  let currentIsRemote := (s.controller.bind fun w => s.viewers.lookup w).any
    fun viewer => decide (viewer.role = .Remote)
  if currentIsEligible && !(currentIsRemote && s.hasEligibleLocal) then s
  else { s with controller := s.electedCandidate }

/-- Re-elect the controller; the flag says whether it changed. -/
def elect : Bool × SessionSizeState :=
  let s' := match s.explicitController with
    | some explicit =>
      if s.eligibleAt explicit then { s with controller := some explicit }
      else electByClass { s with explicitController := none }
    | none => electByClass s
  (decide (s.controller ≠ s'.controller), s')

/-! ## The size operations -/

/-- The size the state wants the PTY to have. -/
def proposedSize : Size :=
  match s.controller.bind fun w => s.viewers.lookup w with
  | some controller => (controller.cols, controller.rows)
  | none =>
    if s.viewers.entries.isEmpty then effectiveTerminalSize s.legacySizes s.lastApplied
    else s.lastApplied

/-- The resize to perform, if the proposed size is not the applied one. -/
def pendingResize : Option Size :=
  if s.proposedSize ≠ s.lastApplied then some s.proposedSize else none

/-- Register (or re-register) a viewer. A generation older than the recorded
one is a stale message and is ignored. -/
def register (writerId : ℕ) (viewerId : String)
    (role : TerminalViewerRole) (cols rows : ℕ) (visible : Bool) (generation : ℕ) :
    Option Size × SessionSizeState :=
  if (s.viewers.lookup writerId).any fun viewer => decide (viewer.generation > generation) then
    (none, s)
  else
    let viewer : TerminalViewer := ⟨viewerId, role, cols, rows, visible, generation⟩
    let s' := (elect { s with viewers := s.viewers.insert writerId viewer }).2
    (s'.pendingResize, s')

/-- A registered viewer's new measurement. A hidden viewer's and a degenerate
one are not recorded. -/
def remeasure (writerId : ℕ) (viewer : TerminalViewer) (cols rows : ℕ) : SessionSizeState :=
  if viewer.visible && decide (0 < cols) && decide (0 < rows) then
    { s with viewers := s.viewers.insert writerId { viewer with cols := cols, rows := rows } }
  else s

/-- A resize request. From a registered viewer it only counts if that viewer is
the controller; from anyone else it is a legacy size. -/
def resize (writerId cols rows : ℕ) : Option Size × SessionSizeState :=
  match s.viewers.lookup writerId with
  | some viewer =>
    let s' := (elect (s.remeasure writerId viewer cols rows)).2
    (if s'.controller = some writerId then s'.pendingResize else none, s')
  | none =>
    let s' := { s with legacySizes := s.legacySizes.insert writerId (cols, rows) }
    (s'.pendingResize, s')

/-- An eligible viewer takes control explicitly. -/
def takeover (writerId : ℕ) : Option Size × SessionSizeState :=
  if s.eligibleAt writerId then
    let s' := { s with explicitController := some writerId, controller := some writerId }
    (s'.pendingResize, s')
  else (none, s)

/-- The explicit controller gives control back. -/
def release (writerId : ℕ) : Option Size × SessionSizeState :=
  if s.explicitController = some writerId then
    let s' := (elect { s with explicitController := none, controller := none }).2
    (s'.pendingResize, s')
  else (none, s)

/-- The connection behind `writerId` is gone. -/
def remove (writerId : ℕ) : Option Size × SessionSizeState :=
  let removedLegacy := (s.legacySizes.lookup writerId).isSome
  let s' := { s with
    viewers := s.viewers.erase writerId
    legacySizes := s.legacySizes.erase writerId }
  if s.controller = some writerId ∨ s.explicitController = some writerId then
    let s'' := (elect { s' with controller := none, explicitController := none }).2
    (s''.pendingResize, s'')
  else if removedLegacy && s'.viewers.entries.isEmpty then (s'.pendingResize, s')
  else (none, s')

/-- The PTY was given `size`. -/
def markApplied (size : Size) : SessionSizeState :=
  { s with lastApplied := size }

end SessionSizeState

/-- The operations on the size state of one PTY. -/
inductive SizeOp where
  /-- a viewer registers -/
  | register (writerId : ℕ) (viewerId : String) (role : TerminalViewerRole)
      (cols rows : ℕ) (visible : Bool) (generation : ℕ)
  /-- a peer asks for a size -/
  | resize (writerId cols rows : ℕ)
  /-- a viewer takes control -/
  | takeover (writerId : ℕ)
  /-- a viewer gives control back -/
  | release (writerId : ℕ)
  /-- a connection leaves -/
  | remove (writerId : ℕ)

/-- Perform an operation: the resize it asks for, and the new state. -/
def SizeOp.apply (s : SessionSizeState) : SizeOp → Option Size × SessionSizeState
  | .register w vid role cols rows visible generation =>
    s.register w vid role cols rows visible generation
  | .resize w cols rows => s.resize w cols rows
  | .takeover w => s.takeover w
  | .release w => s.release w
  | .remove w => s.remove w

namespace SessionSizeState

/-! ## What an election does -/

/-- A local and eligible viewer is registered. -/
def LocalEligible (s : SessionSizeState) : Prop :=
  ∃ w v, s.viewers.lookup w = some v ∧ v.eligible = true ∧ v.role = .Local

variable {s : SessionSizeState} {w : ℕ} {v : TerminalViewer}

theorem mem_entries :
    (⟨w, v⟩ : Sigma fun _ : ℕ => TerminalViewer) ∈ s.viewers.entries ↔
      s.viewers.lookup w = some v :=
  AList.mem_lookup_iff.symm

theorem eligibleAt_iff :
    s.eligibleAt w = true ↔ ∃ v, s.viewers.lookup w = some v ∧ v.eligible = true := by
  rw [eligibleAt, Option.any_eq_true_iff_get]
  constructor
  · rintro ⟨hs, h⟩
    exact ⟨_, (Option.some_get hs).symm, h⟩
  · rintro ⟨v, hv, h⟩
    simp [hv, h]

theorem hasEligibleLocal_iff : s.hasEligibleLocal = true ↔ s.LocalEligible := by
  simp only [hasEligibleLocal, List.any_eq_true, Bool.and_eq_true, decide_eq_true_eq]
  constructor
  · rintro ⟨⟨w, v⟩, hmem, he, hr⟩
    exact ⟨w, v, mem_entries.mp hmem, he, hr⟩
  · rintro ⟨w, v, hl, he, hr⟩
    exact ⟨⟨w, v⟩, mem_entries.mpr hl, he, hr⟩

theorem mem_candidates {key : ℕ ×ₗ String ×ₗ ℕ} :
    key ∈ s.candidates ↔ ∃ w v, s.viewers.lookup w = some v ∧ v.eligible = true ∧
      candidateKey w v = key := by
  simp only [candidates, List.mem_map, List.mem_filter]
  constructor
  · rintro ⟨⟨w, v⟩, ⟨hmem, he⟩, hk⟩
    exact ⟨w, v, mem_entries.mp hmem, he, hk⟩
  · rintro ⟨w, v, hl, he, hk⟩
    exact ⟨⟨w, v⟩, ⟨mem_entries.mpr hl, he⟩, hk⟩

/-- A key that comes first has the least class. -/
theorem electionClass_le_of_candidateKey_le {w' : ℕ} {v' : TerminalViewer}
    (h : candidateKey w v ≤ candidateKey w' v') : electionClass v.role ≤ electionClass v'.role := by
  rcases Prod.Lex.toLex_le_toLex.mp h with hlt | ⟨heq, -⟩
  · exact le_of_lt hlt
  · exact le_of_eq heq

/-- Nobody is elected only if nobody is eligible. -/
theorem electedCandidate_none (h : s.electedCandidate = none)
    (hl : s.viewers.lookup w = some v) : v.eligible = false := by
  rw [electedCandidate, Option.map_eq_none_iff, List.head?_eq_none_iff] at h
  by_contra he
  have hmem : candidateKey w v ∈ s.candidates :=
    mem_candidates.mpr ⟨w, v, hl, by simpa using he, rfl⟩
  rw [← List.mem_insertionSort (r := (· ≤ ·)), h] at hmem
  exact absurd hmem List.not_mem_nil

/-- The elected viewer is eligible, and remote only if no eligible viewer is
local. -/
theorem electedCandidate_some (h : s.electedCandidate = some w) :
    ∃ v, s.viewers.lookup w = some v ∧ v.eligible = true ∧
      (v.role = .Remote → ¬ s.LocalEligible) := by
  rw [electedCandidate, Option.map_eq_some_iff] at h
  obtain ⟨key, hhead, hkey⟩ := h
  have hsorted := List.pairwise_insertionSort (· ≤ ·) s.candidates
  rcases hl : s.candidates.insertionSort (· ≤ ·) with _ | ⟨k, rest⟩
  · rw [hl] at hhead
    cases hhead
  · rw [hl] at hhead hsorted
    obtain rfl : k = key := Option.some.inj hhead
    have hmem : k ∈ s.candidates := by
      rw [← List.mem_insertionSort (r := (· ≤ ·)), hl]
      exact List.mem_cons_self
    obtain ⟨w', v, hlook, he, rfl⟩ := mem_candidates.mp hmem
    obtain rfl : w' = w := hkey
    refine ⟨v, hlook, he, fun hrole => ?_⟩
    rintro ⟨u, x, hlook', he', hrole'⟩
    -- the local viewer's key is in the sorted list, so the head's is below it
    have hmem' : candidateKey u x ∈ candidateKey w' v :: rest := by
      rw [← hl, List.mem_insertionSort]
      exact mem_candidates.mpr ⟨u, x, hlook', he', rfl⟩
    have hle : candidateKey w' v ≤ candidateKey u x := by
      rcases List.mem_cons.mp hmem' with heq | hrest
      · exact le_of_eq heq.symm
      · exact (List.pairwise_cons.mp hsorted).1 _ hrest
    have := electionClass_le_of_candidateKey_le hle
    rw [hrole, hrole'] at this
    exact absurd this (by decide)

/-! ## The election invariant -/

/-- The controller is a registered eligible viewer; an explicit controller is
the controller; whenever a viewer is eligible somebody controls; and a remote
controller next to an eligible local viewer got there by takeover. -/
structure Elected (s : SessionSizeState) : Prop where
  /-- the controller is registered and eligible -/
  controller_eligible : ∀ {w : ℕ}, s.controller = some w →
    ∃ v, s.viewers.lookup w = some v ∧ v.eligible = true
  /-- an explicit controller is the controller -/
  explicit_controls : ∀ {w : ℕ}, s.explicitController = some w → s.controller = some w
  /-- an eligible viewer implies a controller -/
  eligible_controlled : ∀ {w : ℕ} {v : TerminalViewer}, s.viewers.lookup w = some v →
    v.eligible = true → s.controller.isSome = true
  /-- a remote controller beside an eligible local viewer is explicit -/
  remote_explicit : ∀ {w : ℕ} {v : TerminalViewer}, s.controller = some w →
    s.viewers.lookup w = some v → v.role = .Remote → s.LocalEligible →
    s.explicitController = some w

theorem elected_new (spawnSize : Size) : Elected (new spawnSize) where
  controller_eligible h := by cases h
  explicit_controls h := by cases h
  eligible_controlled h := by
    rw [new, AList.lookup_empty] at h
    cases h
  remote_explicit h := by cases h

/-- Election touches neither the viewers nor the sizes. -/
theorem electByClass_frame (s : SessionSizeState) : s.electByClass.viewers = s.viewers ∧
    s.electByClass.lastApplied = s.lastApplied ∧ s.electByClass.legacySizes = s.legacySizes := by
  simp only [electByClass]
  split <;> exact ⟨rfl, rfl, rfl⟩

@[simp] theorem electByClass_viewers (s : SessionSizeState) :
    s.electByClass.viewers = s.viewers := s.electByClass_frame.1

@[simp] theorem electByClass_explicit (s : SessionSizeState) :
    s.electByClass.explicitController = s.explicitController := by
  simp only [electByClass]
  split <;> rfl

/-- What class election settles on: it keeps an eligible controller that is
local or faces no eligible local viewer, and otherwise elects afresh. -/
theorem electByClass_controller (s : SessionSizeState) :
    (s.electByClass.controller = s.controller ∧
      ∃ w v, s.controller = some w ∧ s.viewers.lookup w = some v ∧ v.eligible = true ∧
        (v.role = .Remote → ¬ s.LocalEligible)) ∨
    (s.electByClass.controller = s.electedCandidate ∧
      ∀ w v, s.controller = some w → s.viewers.lookup w = some v → v.eligible = true →
        v.role = .Remote ∧ s.LocalEligible) := by
  simp only [electByClass]
  split
  · rename_i hkeep
    simp only [Bool.and_eq_true, Bool.not_eq_true', Bool.and_eq_false_iff] at hkeep
    obtain ⟨helig, hrem⟩ := hkeep
    rcases hc : s.controller with _ | w
    · rw [hc] at helig
      cases helig
    · rw [hc] at helig hrem
      obtain ⟨v, hv, he⟩ := eligibleAt_iff.mp (by simpa using helig)
      refine Or.inl ⟨rfl, w, v, rfl, hv, he, fun hrole hloc => ?_⟩
      rcases hrem with hrem | hrem
      · simp [hv, hrole] at hrem
      · rw [hasEligibleLocal_iff.mpr hloc] at hrem
        cases hrem
  · rename_i hmove
    refine Or.inr ⟨rfl, fun w v hc hv he => ?_⟩
    have hat : s.eligibleAt w = true := eligibleAt_iff.mpr ⟨v, hv, he⟩
    simp only [hc, Option.any_some, hat, Bool.true_and, Option.bind_some, hv,
      Bool.not_eq_true', Bool.not_eq_false, Bool.and_eq_true, decide_eq_true_eq] at hmove
    exact ⟨hmove.1, hasEligibleLocal_iff.mp hmove.2⟩

/-- Class election restores the invariant from any state without an explicit
controller. -/
theorem elected_electByClass (h : s.explicitController = none) : Elected s.electByClass := by
  -- whichever branch was taken, the controller is one of these
  have hctl : (∀ w, s.electByClass.controller = some w →
        ∃ v, s.viewers.lookup w = some v ∧ v.eligible = true ∧
          (v.role = .Remote → ¬ s.LocalEligible)) ∧
      (s.electByClass.controller = none →
        ∀ w v, s.viewers.lookup w = some v → v.eligible = false) := by
    rcases s.electByClass_controller with ⟨hsame, w, v, hc, hv, he, hloc⟩ | ⟨hnew, -⟩
    · rw [hsame, hc]
      refine ⟨fun w' hw' => ?_, nofun⟩
      cases hw'
      exact ⟨v, hv, he, hloc⟩
    · rw [hnew]
      exact ⟨fun w hw => electedCandidate_some hw,
        fun hnone w v hv => electedCandidate_none hnone hv⟩
  refine ⟨?_, ?_, ?_, ?_⟩
  · intro w hw
    obtain ⟨v, hv, he, -⟩ := hctl.1 w hw
    exact ⟨v, by rw [electByClass_viewers]; exact hv, he⟩
  · intro w hw
    rw [electByClass_explicit, h] at hw
    cases hw
  · intro w v hv he
    rw [electByClass_viewers] at hv
    rcases hc : s.electByClass.controller with _ | c
    · rw [hctl.2 hc w v hv] at he
      cases he
    · rfl
  · intro w v hw hv hrole hloc
    rw [electByClass_viewers] at hv
    obtain ⟨v', hv', -, hno⟩ := hctl.1 w hw
    rw [hv] at hv'
    cases hv'
    refine absurd ?_ (hno hrole)
    simpa [LocalEligible] using hloc

theorem elect_frame (s : SessionSizeState) : s.elect.2.viewers = s.viewers ∧
    s.elect.2.lastApplied = s.lastApplied ∧ s.elect.2.legacySizes = s.legacySizes := by
  simp only [elect]
  split
  · split
    · exact ⟨rfl, rfl, rfl⟩
    · exact electByClass_frame _
  · exact electByClass_frame _

@[simp] theorem elect_viewers (s : SessionSizeState) : s.elect.2.viewers = s.viewers :=
  s.elect_frame.1

@[simp] theorem elect_lastApplied (s : SessionSizeState) :
    s.elect.2.lastApplied = s.lastApplied := s.elect_frame.2.1

@[simp] theorem elect_legacySizes (s : SessionSizeState) :
    s.elect.2.legacySizes = s.legacySizes := s.elect_frame.2.2

/-- **Election restores the invariant from any state whatsoever.** -/
theorem elected_elect (s : SessionSizeState) : Elected s.elect.2 := by
  simp only [elect]
  split
  · rename_i e he
    split
    · rename_i helig
      obtain ⟨v, hv, hel⟩ := eligibleAt_iff.mp helig
      exact ⟨fun hw => by cases hw; exact ⟨v, hv, hel⟩, fun hw => by rw [← he, hw],
        fun _ _ => rfl, fun hw _ _ _ => by rw [he]; exact hw⟩
    · exact elected_electByClass rfl
  · rename_i he
    exact elected_electByClass he

section Same

variable {s' : SessionSizeState} (h : Elected s) (hc : s'.controller = s.controller)
  (he : s'.explicitController = s.explicitController)

include h hc he

/-- Viewers that control nothing can leave without an election. -/
theorem Elected.sub
    (hback : ∀ {u v}, s'.viewers.lookup u = some v → s.viewers.lookup u = some v)
    (hkept : ∀ {u}, s.controller = some u → s'.viewers.lookup u = s.viewers.lookup u) :
    Elected s' := by
  refine ⟨?_, ?_, ?_, ?_⟩
  · intro u hu
    rw [hc] at hu
    rw [hkept hu]
    exact h.controller_eligible hu
  · rw [hc, he]
    exact h.explicit_controls
  · intro u v hu hel
    rw [hc]
    exact h.eligible_controlled (hback hu) hel
  · intro u v hu hv' hrole hloc
    rw [hc] at hu
    rw [he]
    refine h.remote_explicit hu (hback hv') hrole ?_
    obtain ⟨x, y, hx, hrest⟩ := hloc
    exact ⟨x, y, hback hx, hrest⟩

/-- The invariant does not read the sizes. -/
theorem Elected.of_same (hv : s'.viewers = s.viewers) : Elected s' :=
  h.sub hc he (fun hu => hv ▸ hu) fun _ => by rw [hv]

/-- A viewer that controls nothing can leave without an election. -/
theorem Elected.erase (hw : s.controller ≠ some w) (hv : s'.viewers = s.viewers.erase w) :
    Elected s' := by
  refine h.sub hc he (fun {u v} hu => ?_) fun {u} hu => ?_
  · rw [hv] at hu
    rcases eq_or_ne u w with rfl | hne
    · rw [AList.lookup_erase] at hu
      cases hu
    · rwa [AList.lookup_erase_ne hne] at hu
  · have hne : u ≠ w := fun heq => hw (by rw [hu, heq])
    rw [hv, AList.lookup_erase_ne hne]

end Same

/-- **Every operation restores the election invariant.** -/
theorem elected_apply (h : Elected s) (op : SizeOp) : Elected (op.apply s).2 := by
  cases op with
  | register w vid role cols rows visible generation =>
    simp only [SizeOp.apply, register]
    split
    · exact h
    · exact elected_elect _
  | resize w cols rows =>
    simp only [SizeOp.apply, resize]
    split
    · exact elected_elect _
    · exact h.of_same rfl rfl rfl
  | takeover w =>
    simp only [SizeOp.apply, takeover]
    split
    · rename_i helig
      obtain ⟨v, hv, hel⟩ := eligibleAt_iff.mp helig
      exact ⟨fun hw => by cases hw; exact ⟨v, hv, hel⟩, fun hw => hw, fun _ _ => rfl,
        fun hw _ _ _ => hw⟩
    · exact h
  | release w =>
    simp only [SizeOp.apply, release]
    split
    · exact elected_elect { s with explicitController := none, controller := none }
    · exact h
  | remove w =>
    simp only [SizeOp.apply, remove]
    split
    · exact elected_elect { s with
        viewers := s.viewers.erase w, legacySizes := s.legacySizes.erase w,
        controller := none, explicitController := none }
    · rename_i hctl
      have hw : s.controller ≠ some w := fun hw => hctl (Or.inl hw)
      split <;> exact h.erase rfl rfl hw rfl

/-! ## Every reachable size state -/

/-- A move on the size state: an operation, or the record that the PTY was
given some size. -/
inductive SizeMove where
  /-- one of the operations -/
  | op (op : SizeOp)
  /-- a resize went through -/
  | markApplied (size : Size)

/-- Every move is enabled in every state. -/
def sizeStep (s : SessionSizeState) : SizeMove → Option SessionSizeState
  | .op op => some (op.apply s).2
  | .markApplied size => some (s.markApplied size)

/-- A registration older than the recorded one changes nothing and asks for no
resize. -/
def IgnoresStale (s : SessionSizeState) : Prop :=
  ∀ (w : ℕ) (viewer : TerminalViewer), s.viewers.lookup w = some viewer →
    ∀ (viewerId : String) (role : TerminalViewerRole) (cols rows : ℕ) (visible : Bool)
      (generation : ℕ), generation < viewer.generation →
      s.register w viewerId role cols rows visible generation = (none, s)

theorem ignoresStale (s : SessionSizeState) : IgnoresStale s := by
  intro w viewer hv viewerId role cols rows visible generation hlt
  simp [register, hv, hlt]

/-- **Election safety**: in every reachable size state the controller is an
eligible viewer, explicit control is control, an eligible viewer is never left
without a controller, and a remote controller outranks an eligible local viewer
only by takeover; and stale registrations are ignored. -/
theorem reachable_elected (spawnSize : Size) (moves : List SizeMove) :
    Always sizeStep (fun s => Elected s ∧ IgnoresStale s) (new spawnSize) moves := by
  apply always_of_invariant
  · rintro s m s' ⟨h, -⟩ hs
    refine ⟨?_, ignoresStale s'⟩
    cases m with
    | op op =>
      cases hs
      exact elected_apply h op
    | markApplied size =>
      cases hs
      exact h.of_same rfl rfl rfl
  · exact ⟨elected_new spawnSize, ignoresStale _⟩

end SessionSizeState

end Kanna
