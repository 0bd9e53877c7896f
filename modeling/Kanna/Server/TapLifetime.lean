import Mathlib.Data.List.AList
import Mathlib.Data.List.Sort
import Kanna.Lib.Run

/-!
# The lifetime of a terminal tap

`crates/kanna-server/src/ksp.rs`: a `TerminalTap` is shared by the viewers of one
session and outlives the last of them by a grace period. It counts its
subscribers in an atomic and keeps in `idle_since`, behind a mutex, the moment
the last one left; `None` means that it is watched. `evict_idle` and
`run_terminal_tap` decide by `idle_since` alone.

Subscribing and leaving both update the counter first and the timestamp second.
Here each of these updates is one step, and any number of subscribers take them
in any interleaving (`TapLifetime.step`). `watched_not_idle_iff` says exactly
which interleavings keep the two in agreement, so that a watched tap stays.
-/

namespace Kanna

/-- Milliseconds on the monotonic clock. -/
abbrev Millis := ℕ

/-- How long a tap outlives its last subscriber (120 s). -/
def terminalTapIdleGrace : Millis := 120000

/-- Idle taps the registry keeps. -/
def maxIdleTerminalTaps : ℕ := 16

/-- The part of a tap that decides how long it lives. -/
structure TerminalTap where
  /-- live subscriptions -/
  subscribers : ℕ
  /-- when the last subscriber left; `none` while the tap is watched -/
  idleSince : Option Millis
  /-- the tap is being taken down -/
  finished : Bool
  deriving DecidableEq

namespace TerminalTap

/-- `TerminalTap::new` at time `now`. -/
def new (now : Millis) : TerminalTap := ⟨0, some now, false⟩

/-- `TerminalTap::idle_expired`. -/
def idleExpired (tap : TerminalTap) (now : Millis) : Bool :=
  match tap.idleSince with
  | some since => terminalTapIdleGrace ≤ now - since
  | none => false

/-- The check at the head of `run_terminal_tap`'s loop: take the tap down. -/
def stopsAtLoopHead (tap : TerminalTap) (now : Millis) : Bool :=
  tap.finished || tap.idleExpired now

/-- Why one connection of a tap ended. -/
inductive TapRunEnd where
  /-- the session is over -/
  | done
  /-- the daemon connection dropped -/
  | daemonLost
  /-- a subscriber asked for a fresh snapshot -/
  | restart
  /-- nobody has watched for longer than the grace period -/
  | idle

/-- The periodic check inside `run_terminal_tap_once`. -/
def idlePoll (tap : TerminalTap) (now : Millis) : Option TapRunEnd :=
  if tap.idleExpired now then some .idle else none

end TerminalTap

/-- The taps of the process by session id, in the map's iteration order. -/
abbrev TerminalTaps := AList (fun _ : String => TerminalTap)

namespace TerminalTaps

/-- The taps that satisfy `keep`. -/
def retain (taps : TerminalTaps) (keep : TerminalTap → Bool) : TerminalTaps :=
  ⟨taps.entries.filter fun e => keep e.2, taps.nodupKeys.sublist List.filter_sublist⟩

/-- The idle taps with the moment they became idle. -/
def idle (taps : TerminalTaps) : List (Millis × String) :=
  taps.entries.filterMap fun e => e.2.idleSince.map fun since => (since, e.1)

/-- How many idle taps there are over the bound. -/
def idleOverflow (taps : TerminalTaps) : ℕ :=
  (taps.entries.filter fun e => e.2.idleSince.isSome).length - maxIdleTerminalTaps

/-- `TerminalTapRegistry::evict_idle`: what is left of the registry. The taps
that go are finished. -/
def evictIdle (taps : TerminalTaps) (now : Millis) : TerminalTaps :=
  let taps := taps.retain fun tap => !tap.finished && !tap.idleExpired now
  if taps.idle.length ≤ maxIdleTerminalTaps then taps
  else
    let oldest := taps.idle.insertionSort fun a b => a.1 ≤ b.1
    (oldest.take taps.idleOverflow).foldl (fun taps e => taps.erase e.2) taps

variable {taps : TerminalTaps} {id : String} {tap : TerminalTap}

theorem mem_lookup_retain {keep : TerminalTap → Bool} :
    tap ∈ (taps.retain keep).lookup id ↔ tap ∈ taps.lookup id ∧ keep tap = true := by
  rw [AList.mem_lookup_iff, AList.mem_lookup_iff]
  exact List.mem_filter

/-- Removing other taps leaves this one in place. -/
theorem mem_lookup_foldl_erase :
    ∀ {victims : List (Millis × String)} {taps : TerminalTaps}, tap ∈ taps.lookup id →
      (∀ e ∈ victims, e.2 ≠ id) →
      tap ∈ (victims.foldl (fun taps e => taps.erase e.2) taps).lookup id := by
  intro victims
  induction victims with
  | nil => exact fun h _ => h
  | cons e victims ih =>
    intro taps h hne
    refine ih ?_ (fun e' he' => hne e' (List.mem_cons_of_mem _ he'))
    rw [AList.lookup_erase_ne (hne e List.mem_cons_self).symm]
    exact h

/-- A tap that is not idle is not among the candidates for eviction. -/
theorem ne_of_mem_idle (h : tap ∈ taps.lookup id) (hidle : tap.idleSince = none) :
    ∀ e ∈ taps.idle, e.2 ≠ id := by
  rintro ⟨since, other⟩ he rfl
  obtain ⟨⟨_, tap'⟩, hmem, hsome⟩ := List.mem_filterMap.mp he
  obtain ⟨s, hs, heq⟩ := Option.map_eq_some_iff.mp hsome
  cases heq
  -- a session has one tap
  have : tap' = tap := Option.mem_unique (AList.mem_lookup_iff.mpr hmem) h
  rw [this, hidle] at hs
  cases hs

/-- **A tap that is not marked idle survives `evict_idle`**, whatever else the
registry holds. -/
theorem mem_evictIdle
    (h : tap ∈ taps.lookup id) (hfin : tap.finished = false) (hidle : tap.idleSince = none)
    (now : Millis) : tap ∈ (taps.evictIdle now).lookup id := by
  have hkept : tap ∈ (taps.retain fun tap => !tap.finished && !tap.idleExpired now).lookup id := by
    refine mem_lookup_retain.mpr ⟨h, ?_⟩
    simp [hfin, TerminalTap.idleExpired, hidle]
  unfold evictIdle
  dsimp only
  split
  · exact hkept
  · refine mem_lookup_foldl_erase hkept (fun e he => ?_)
    have := List.mem_of_mem_take he
    exact ne_of_mem_idle hkept hidle e ((List.mem_insertionSort _).mp this)

end TerminalTaps

/-! ## Subscribers in any interleaving -/

/-- A tap together with the subscribers that are part-way through an update. -/
structure TapLifetime where
  /-- the tap -/
  tap : TerminalTap
  /-- `subscribe_guard` calls that counted themselves but have not yet cleared
  `idle_since` -/
  subscribing : ℕ
  /-- guards that were handed out and not yet dropped -/
  live : ℕ
  /-- drops that brought the counter to zero but have not yet set `idle_since` -/
  leaving : ℕ
  /-- the monotonic clock -/
  clock : Millis
  deriving DecidableEq

namespace TapLifetime

/-- A fresh tap at time zero. -/
def new : TapLifetime where
  tap := TerminalTap.new 0
  subscribing := 0
  live := 0
  leaving := 0
  clock := 0

/-- The atomic steps on a tap. -/
inductive LifetimeAction where
  /-- `subscribe_guard`: `fetch_add` on the counter -/
  | subscribeCount
  /-- `subscribe_guard`: clear `idle_since` and hand out the guard -/
  | subscribeClear
  /-- drop of a guard: `fetch_sub` on the counter -/
  | dropCount
  /-- drop of the last guard: set `idle_since` to a moment read just before -/
  | dropStamp (since : Millis)
  /-- somebody takes the tap down for another reason -/
  | finish
  /-- time passes -/
  | tick (elapsed : Millis)

/-- The interleaving semantics. -/
def step (w : TapLifetime) : LifetimeAction → Option TapLifetime
  | .subscribeCount =>
    some { w with
      tap := { w.tap with subscribers := w.tap.subscribers + 1 }
      subscribing := w.subscribing + 1 }
  | .subscribeClear =>
    if 0 < w.subscribing then
      some { w with
        tap := { w.tap with idleSince := none }
        subscribing := w.subscribing - 1
        live := w.live + 1 }
    else none
  | .dropCount =>
    if 0 < w.live then
      some { w with
        tap := { w.tap with subscribers := w.tap.subscribers - 1 }
        live := w.live - 1
        leaving := if w.tap.subscribers = 1 then w.leaving + 1 else w.leaving }
    else none
  | .dropStamp since =>
    if 0 < w.leaving ∧ since ≤ w.clock then
      some { w with
        tap := { w.tap with idleSince := some since }
        leaving := w.leaving - 1 }
    else none
  | .finish => some { w with tap := { w.tap with finished := true } }
  | .tick elapsed => some { w with clock := w.clock + elapsed }

/-- **What a tap promises its subscribers**. -/
structure WatchedNotIdle (w : TapLifetime) : Prop where
  /-- between operations the timestamp and the counter agree -/
  agree : w.subscribing = 0 → w.leaving = 0 →
    (w.tap.idleSince = none ↔ 0 < w.tap.subscribers)
  /-- the idle check does not fire for a tap with a live subscriber -/
  notExpired : 0 < w.live → ∀ now, w.tap.idleExpired now = false
  /-- the registry keeps it -/
  notEvicted : 0 < w.live → w.tap.finished = false → ∀ (taps : TerminalTaps) (id : String),
    w.tap ∈ taps.lookup id → ∀ now, w.tap ∈ (taps.evictIdle now).lookup id
  /-- its driver does not stop -/
  notStopped : 0 < w.live → w.tap.finished = false →
    ∀ now, w.tap.stopsAtLoopHead now = false ∧ w.tap.idlePoll now = none

/-- The drop that counted down to zero sets the timestamp before anybody
subscribes anew. -/
def StampsUnwatched (w : TapLifetime) : LifetimeAction → Prop
  | .dropStamp since => 0 < w.leaving → since ≤ w.clock → w.live = 0
  | _ => True

/-- What every step with timely stamps keeps. -/
structure Inv (w : TapLifetime) : Prop where
  /-- the counter counts the guards and those about to be handed out -/
  counted : w.tap.subscribers = w.subscribing + w.live
  /-- a live guard keeps the timestamp clear -/
  clear : 0 < w.live → w.tap.idleSince = none
  /-- a clear timestamp has somebody to answer for it -/
  owned : w.tap.idleSince = none → 0 < w.tap.subscribers ∨ 0 < w.leaving

theorem inv_new : Inv new where
  counted := rfl
  clear := fun h => absurd h (by decide)
  owned := nofun

variable {w : TapLifetime}

theorem Inv.watchedNotIdle (h : Inv w) : WatchedNotIdle w := by
  have hexp : 0 < w.live → ∀ now, w.tap.idleExpired now = false := by
    intro hlive now
    simp [TerminalTap.idleExpired, h.clear hlive]
  refine ⟨fun hsub hleave => ⟨fun hnone => ?_, fun hpos => ?_⟩, hexp, ?_, ?_⟩
  · have := h.owned hnone
    omega
  · refine h.clear ?_
    have := h.counted
    omega
  · intro hlive hfin taps id hmem now
    exact TerminalTaps.mem_evictIdle hmem hfin (h.clear hlive) now
  · intro hlive hfin now
    simp [TerminalTap.stopsAtLoopHead, TerminalTap.idlePoll, hfin, hexp hlive now]

theorem inv_step {w' : TapLifetime} {a : LifetimeAction} (h : Inv w)
    (hG : w.StampsUnwatched a) (hstep : w.step a = some w') : Inv w' := by
  obtain ⟨hcount, hclear, howned⟩ := h
  cases a with
  | subscribeCount =>
    cases hstep
    refine ⟨?_, hclear, fun _ => .inl (Nat.succ_pos _)⟩
    show w.tap.subscribers + 1 = w.subscribing + 1 + w.live
    omega
  | subscribeClear =>
    simp only [step] at hstep
    split at hstep
    · cases hstep
      refine ⟨?_, fun _ => rfl, fun _ => .inl ?_⟩
      · show w.tap.subscribers = w.subscribing - 1 + (w.live + 1)
        omega
      · show 0 < w.tap.subscribers
        omega
    · cases hstep
  | dropCount =>
    simp only [step] at hstep
    obtain ⟨hlive, rfl⟩ := guard_eq_some hstep
    refine ⟨?_, fun _ => hclear hlive, fun _ => ?_⟩
    · show w.tap.subscribers - 1 = w.subscribing + (w.live - 1)
      omega
    · -- either a subscriber is left or this drop owes the timestamp
      show 0 < w.tap.subscribers - 1 ∨
        0 < (if w.tap.subscribers = 1 then w.leaving + 1 else w.leaving)
      by_cases hlast : w.tap.subscribers = 1
      · rw [if_pos hlast]
        omega
      · omega
  | dropStamp since =>
    simp only [step] at hstep
    obtain ⟨hen, rfl⟩ := guard_eq_some hstep
    have hlive : w.live = 0 := hG hen.1 hen.2
    exact ⟨hcount, fun hpos => absurd hlive (Nat.ne_of_gt hpos), nofun⟩
  | _ =>
    cases hstep
    exact ⟨hcount, hclear, howned⟩

/-- A late stamp marks a watched tap idle: left alone, it will expire. -/
theorem not_watchedNotIdle_of_late {a : LifetimeAction}
    (hG : ¬ w.StampsUnwatched a) : ∃ w', w.step a = some w' ∧ ¬ WatchedNotIdle w' := by
  cases a with
  | dropStamp since =>
    simp only [StampsUnwatched, Classical.not_imp] at hG
    obtain ⟨hleave, hsince, hlive⟩ := hG
    refine ⟨_, if_pos ⟨hleave, hsince⟩, fun hw => ?_⟩
    have := hw.notExpired (Nat.pos_of_ne_zero hlive) (since + terminalTapIdleGrace)
    simp [TerminalTap.idleExpired] at this
  | _ => exact absurd trivial hG

/-- **A watched tap is not idle**. For every interleaving of subscribers, the
promise holds in every state reached if and only if no drop that counted down to
zero sets `idle_since` while a guard handed out in the meantime is live. -/
theorem watched_not_idle_iff (as : List LifetimeAction) :
    Always step WatchedNotIdle new as ↔ Meets step StampsUnwatched new as :=
  always_iff_meets Inv.watchedNotIdle inv_step (fun _ => not_watchedNotIdle_of_late) inv_new

/-- The source does not rule that out: the last viewer leaves, a new one
subscribes completely, and only then the leaving one sets the timestamp. No
operation is part-way, one subscriber is live, and the tap is marked idle. -/
theorem late_stamp_idles_watched_tap :
    ¬ Always step WatchedNotIdle new
      [.subscribeCount, .subscribeClear, .dropCount, .subscribeCount, .subscribeClear,
        .dropStamp 0] := by
  intro h
  have hlast : run step new
      [.subscribeCount, .subscribeClear, .dropCount, .subscribeCount, .subscribeClear,
        .dropStamp 0] = some ⟨⟨1, some 0, false⟩, 0, 1, 0, 0⟩ := by decide
  have hagree := (h.last hlast).agree rfl rfl
  exact nomatch hagree.mpr (by decide)

end TapLifetime

end Kanna
