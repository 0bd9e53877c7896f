import Kanna.Transfer.RuntimeEvents

/-!
# What the runtime event channel guarantees

Four invariants hold along every run, each for its own reason: `Listed` is kept by every section
under the mutex; the ordinary events are a queue; a receiver that has found nothing pending goes
to sleep only while the wake-up of every later snapshot is still to come or in its slot; and the
burst counter bounds the ordinary events that overtake a snapshot.

Whether a received snapshot is of the latest generation depends on `unregister`: it removes the
registration, and with it the order that later sends and registrations are compared with.
-/

namespace Kanna.RuntimeEvents

open Durable

/-! ### The map and its list -/

open CompanionEventState List

namespace CompanionEventState

variable {s : CompanionEventState} {key : Key} {generation : String} {generationOrder : ℕ}

/-- `ready` lists exactly the keys of the map, each once. -/
structure Listed (s : CompanionEventState) : Prop where
  nodup : s.ready.Nodup
  mem : ∀ key, key ∈ s.ready ↔ (s.pending.lookup key).isSome = true

/-- Neither a registered nor a pending generation is below the highest one of its key. -/
structure Current (highest : Key → ℕ) (s : CompanionEventState) : Prop where
  registered : ∀ key current, s.currentGenerations.lookup key = some current →
    highest key ≤ current.1
  pending : ∀ key event, s.pending.lookup key = some event →
    event.key = key ∧ highest key ≤ event.generationOrder

/-- What an operation keeps that only takes away. -/
structure Shrinks (s s' : CompanionEventState) : Prop where
  listed : s.Listed → s'.Listed
  ready : s'.ready ⊆ s.ready
  current : ∀ {highest : Key → ℕ}, s.Current highest → s'.Current highest

theorem Shrinks.refl (s : CompanionEventState) : Shrinks s s := ⟨id, fun _ => id, id⟩

theorem shrinks_remove (s : CompanionEventState) (key : Key) : Shrinks s (s.remove key) where
  listed h := by
    refine ⟨h.nodup.filter _, fun other => ?_⟩
    rw [remove, mem_filter, h.mem, lookup_erase_eq]
    by_cases heq : other = key <;> simp [heq]
  ready _ := mem_of_mem_filter
  current h := by
    refine ⟨h.registered, fun other event hevent => ?_⟩
    rw [remove, lookup_erase_eq] at hevent
    obtain ⟨-, hevent⟩ := of_exit hevent
    exact h.pending other event hevent

theorem shrinks_unregister :
    Shrinks s (s.unregisterCompanionGeneration key generation generationOrder) := by
  rw [unregisterCompanionGeneration]
  split
  next =>
    obtain ⟨hlisted, hready, hkeeps⟩ := shrinks_remove s key
    refine ⟨fun h => ⟨(hlisted h).nodup, (hlisted h).mem⟩, hready, fun h =>
      ⟨fun other current hcurrent => ?_, (hkeeps h).pending⟩⟩
    rw [lookup_erase_eq] at hcurrent
    obtain ⟨-, hcurrent⟩ := of_exit hcurrent
    exact h.registered other current hcurrent
  next => exact .refl s

theorem shrinks_invalidate : Shrinks s (s.invalidateCompanion key generation generationOrder) := by
  rw [invalidateCompanion]
  split
  next => exact shrinks_remove s key
  next => exact .refl s

variable (h : s.Listed)

include h

theorem Listed.setGeneration : (s.setGeneration key generation generationOrder).Listed :=
  ⟨h.nodup, h.mem⟩

theorem Listed.register :
    (s.registerCompanionGeneration key generation generationOrder).1.Listed ∧
      (s.registerCompanionGeneration key generation generationOrder).1.ready ⊆ s.ready := by
  rw [registerCompanionGeneration]
  split
  next => exact ⟨h, fun _ => id⟩
  next =>
  split
  next => exact ⟨(shrinks_remove _ key).listed h.setGeneration, (shrinks_remove _ key).ready⟩
  next => exact ⟨h.setGeneration, fun _ => id⟩

variable (event : CompanionEvent)

/-- A snapshot that is not queued leaves the list as it is. -/
theorem Listed.enqueue : (s.enqueue event).1.Listed ∧
    ((s.enqueue event).2 ≠ .queued → (s.enqueue event).1.ready = s.ready) := by
  rw [CompanionEventState.enqueue]
  split
  next hsome =>
    refine ⟨⟨h.nodup, fun key => ?_⟩, absurd rfl⟩
    rw [h.mem, lookup_insert_eq]
    by_cases heq : key = event.key
    · subst heq
      simp [hsome]
    · simp [heq]
  next hnone =>
  split
  next => exact ⟨h, fun _ => rfl⟩
  next =>
    have hfresh : event.key ∉ s.ready := fun hmem => hnone ((h.mem event.key).mp hmem)
    refine ⟨⟨?_, fun key => ?_⟩, absurd rfl⟩
    · refine nodup_append.mpr ⟨h.nodup, nodup_singleton _, ?_⟩
      rintro key hkey _ hlast rfl
      exact hfresh (mem_singleton.mp hlast ▸ hkey)
    · rw [mem_append, mem_singleton, h.mem, lookup_insert_eq]
      by_cases heq : key = event.key <;> simp [heq]

theorem Listed.sendSnapshot : (s.sendSnapshot event).1.Listed ∧
    ((s.sendSnapshot event).2 ≠ .queued → (s.sendSnapshot event).1.ready = s.ready) := by
  rw [CompanionEventState.sendSnapshot]
  split
  next => exact h.setGeneration.enqueue event
  next =>
  split
  next => exact ⟨h, fun _ => rfl⟩
  next => exact h.enqueue event

/-- With every listed key pending the loop takes the first one. -/
theorem Listed.takeCompanion_eq :
    (s.ready = [] ∧ s.takeCompanion = ({ s with ready := [] }, none)) ∨
      ∃ key ready event, s.ready = key :: ready ∧ s.pending.lookup key = some event ∧
        s.takeCompanion =
          ({ s with pending := s.pending.erase key, ready := ready }, some event) := by
  rw [takeCompanion]
  cases hready : s.ready with
  | nil => exact .inl ⟨rfl, rfl⟩
  | cons key ready =>
    have hsome := (h.mem key).mp (hready ▸ mem_cons_self)
    obtain ⟨event, hevent⟩ := Option.isSome_iff_exists.mp hsome
    refine .inr ⟨key, ready, event, rfl, hevent, ?_⟩
    rw [takeLoop, hevent]

/-- The first key is taken off the list. -/
theorem Listed.tail {ready : List Key} (hready : s.ready = key :: ready) :
    ({ s with pending := s.pending.erase key, ready := ready } : CompanionEventState).Listed := by
  obtain ⟨hnodup, hmem⟩ := h
  rw [hready] at hnodup hmem
  obtain ⟨hnot, hnodup⟩ := nodup_cons.mp hnodup
  refine ⟨hnodup, fun other => ?_⟩
  rw [lookup_erase_eq]
  by_cases heq : other = key
  · simp [heq, hnot]
  · rw [if_neg heq, ← hmem, mem_cons]
    exact (or_iff_right heq).symm

end CompanionEventState

namespace Channel

variable {s s' : Channel} {move : Move}

/-! ### What a step can do -/

/-- The frames of which the latest one is kept. -/
def isSnapshot : Frame → Bool
  | .companionSnapshot _ | .companionUnavailable _ => true
  | .companionError _ | .other _ => false

/-- A snapshot or a registration for a key that has no registered generation is not of an older
generation than those that were registered for the key before. -/
def Renews (s : Channel) : Move → Prop
  | .registerCompanionGeneration key _ generationOrder =>
    s.companion.currentGenerations.lookup key = none → s.highest key ≤ generationOrder
  | .send (.companion event) =>
    isSnapshot event.frame = true → s.companion.currentGenerations.lookup event.key = none →
      s.highest event.key ≤ event.generationOrder
  | _ => True

instance (s : Channel) (move : Move) : Decidable (s.Renews move) := by
  unfold Renews
  split <;> infer_instance

/-- The steps, by what they change. `renews` is what a registration and a snapshot are asked
for. Senders that are about to notify stay, other than the one that does. -/
inductive Effect (renews : Prop) (s : Channel) : Channel → Prop where
  | shrink {companion senders} (hshrinks : Shrinks s.companion companion)
    (hnotify : .notify ∈ s.senders → .notify ∈ senders) :
    Effect renews s { s with companion := companion, senders := senders }
  | register {key generation generationOrder}
    (hrenews : renews → s.companion.currentGenerations.lookup key = none →
      s.highest key ≤ generationOrder) :
    Effect renews s { s with
      companion := (s.companion.registerCompanionGeneration key generation generationOrder).1
      registered :=
        if (s.companion.registerCompanionGeneration key generation generationOrder).2 then
          (key, generationOrder) :: s.registered
        else s.registered }
  | snapshot {event}
    (hrenews : renews → s.companion.currentGenerations.lookup event.key = none →
      s.highest event.key ≤ event.generationOrder) :
    Effect renews s { s with
      companion := (s.companion.sendSnapshot event).1
      senders := if (s.companion.sendSnapshot event).2 = .queued then s.senders ++ [.notify]
        else s.senders }
  | notify {senders} : Effect renews s { s with notified := true, senders := senders }
  | ordinary {event senders} (hnotify : .notify ∈ s.senders → .notify ∈ senders) :
    Effect renews s { s with
      ordinary := s.ordinary ++ [event], sent := s.sent ++ [event], senders := senders }
  | phase {phase} (hsecond : phase ≠ .second)
    (hwaiting : phase = .waiting → s.phase = .second) : Effect renews s (s.setPhase phase)
  | receive {event rest} (hordinary : s.ordinary = event :: rest)
    (hphase : s.reliableBurst < maxReliableEventsBeforeCompanion ∨
      s.phase = .second ∨ s.phase = .waiting) :
    Effect renews s { s with
      ordinary := rest
      received := s.received ++ [event]
      reliableBurst := s.reliableBurst + 1
      since := s.since + 1
      phase := .idle }
  | take : Effect renews s s.recvCompanion
  | woken : Effect renews s { s with notified := false, phase := .first }

variable {renews : Prop}

theorem effect_recvOrdinary {otherwise : Option Channel}
    (hphase : s.reliableBurst < maxReliableEventsBeforeCompanion ∨
      s.phase = .second ∨ s.phase = .waiting)
    (hotherwise : otherwise = some s' → Effect renews s s')
    (h : s.recvOrdinary otherwise = some s') : Effect renews s s' := by
  rw [recvOrdinary] at h
  split at h
  next => exact hotherwise h
  next event rest hordinary =>
    cases h
    exact .receive hordinary hphase

theorem effect_recv (h : s.recv = some s') : Effect renews s s' := by
  rw [recv] at h
  split at h
  next =>
    cases h
    exact .phase (by decide) nofun
  next =>
    have htake : Effect renews s (s.setPhase .take) := .phase (by decide) nofun
    split at h
    next hburst =>
      refine effect_recvOrdinary (.inl hburst) (fun hnext => ?_) h
      cases hnext
      exact htake
    next =>
      cases h
      exact htake
  next =>
    cases h
    exact .take
  next hphase =>
    refine effect_recvOrdinary (.inr (.inl hphase)) (fun hnext => ?_) h
    cases hnext
    exact .phase (by decide) fun _ => hphase
  next hphase =>
    refine effect_recvOrdinary (.inr (.inr hphase)) (fun hnext => ?_) h
    obtain ⟨-, rfl⟩ := guard_eq_some hnext
    exact .woken

variable {senders : List Sender} {k : ℕ}

/-- A sender that is about to notify is still there when another one goes on. -/
theorem notify_mem_of_ne {senders' : List Sender} {sender : Sender}
    (hk : senders[k]? = some sender) (hne : sender ≠ .notify)
    (hsame : ∀ i, i ≠ k → ∀ other, senders[i]? = some other → other ∈ senders')
    (hmem : .notify ∈ senders) : Sender.notify ∈ senders' := by
  obtain ⟨i, hi⟩ := mem_iff_getElem?.mp hmem
  refine hsame i (fun heq => hne ?_) _ hi
  subst heq
  exact Option.some.inj (hk.symm.trans hi)

theorem effect_resume (h : s.resume k = some s') : Effect renews s s' := by
  rw [resume] at h
  split at h
  next => cases h
  next =>
    cases h
    exact .notify
  next event hk =>
    cases h
    refine .shrink shrinks_invalidate (notify_mem_of_ne hk (nofun) ?_)
    intro i hne other hi
    refine mem_of_getElem? (i := i) ?_
    rw [getElem?_set_ne (Ne.symm hne)]
    exact hi
  next event hk =>
    obtain ⟨-, rfl⟩ := guard_eq_some h
    refine .ordinary (notify_mem_of_ne hk (nofun) ?_)
    exact fun i hne other hi => mem_eraseIdx_iff_getElem?.mpr ⟨i, hne, hi⟩

theorem effect_send (event : RuntimeEvent) (hrenews : renews → s.Renews (.send event)) :
    Effect renews s (s.send event) := by
  have happend : ∀ sender, Effect renews s { s with senders := s.senders ++ [sender] } :=
    fun sender => .shrink (.refl _) fun hmem => mem_append_left _ hmem
  have hsame : Effect renews s s := .shrink (.refl _) id
  cases event with
  | other content => exact happend _
  | companion event =>
    rw [send]
    split
    next hframe => exact .snapshot fun hr => hrenews hr (by rw [hframe]; rfl)
    next hframe => exact .snapshot fun hr => hrenews hr (by rw [hframe]; rfl)
    next =>
      split
      next => exact hsame
      next => exact happend _
    next =>
      split
      next => exact hsame
      next => exact happend _

/-- **Every step is one of these.** -/
theorem effect_apply (h : s.apply move = some s') : Effect (s.Renews move) s s' := by
  cases move with
  | registerCompanionGeneration key generation generationOrder =>
    cases h
    exact .register id
  | unregisterCompanionGeneration key generation generationOrder =>
    cases h
    exact .shrink shrinks_unregister id
  | invalidateCompanion key generation generationOrder =>
    cases h
    exact .shrink shrinks_invalidate id
  | send event =>
    cases h
    exact effect_send event id
  | resume k => exact effect_resume h
  | trySend event =>
    cases h
    rw [trySend]
    split
    next => exact .ordinary id
    next => exact .shrink (.refl _) id
  | recv => exact effect_recv h
  | cancel =>
    rw [apply] at h
    obtain ⟨-, rfl⟩ := guard_eq_some h
    exact .phase (by decide) nofun

/-- What a look at the snapshots can do: there is none, or the first one is received. -/
theorem of_recvCompanion (P : Channel → Prop) (h : s.companion.Listed)
    (hnone : s.companion.ready = [] → P { s with
      companion := { s.companion with ready := [] }, phase := .second })
    (hsome : ∀ key ready event, s.companion.ready = key :: ready →
      s.companion.pending.lookup key = some event → P { s with
        companion := { s.companion with
          pending := s.companion.pending.erase key, ready := ready }
        reliableBurst := 0
        since := 0
        snapshots := s.snapshots ++ [(event, s.highest event.key)]
        phase := .idle }) : P s.recvCompanion := by
  rw [recvCompanion]
  rcases h.takeCompanion_eq with ⟨hready, heq⟩ | ⟨key, ready, event, hready, hevent, heq⟩
  · rw [heq]
    exact hnone hready
  · rw [heq]
    exact hsome key ready event hready hevent

/-! ### The invariants of every run -/

/-- A receiver that has found nothing pending is told of everything that came since. -/
def Awake (s : Channel) : Prop :=
  s.phase = .second ∨ s.phase = .waiting → s.companion.ready ≠ [] →
    s.notified = true ∨ .notify ∈ s.senders

/-- The burst counter counts what was received since something is pending. -/
structure Paced (s : Channel) : Prop where
  burst : s.since ≤ s.reliableBurst
  bound : s.since ≤ maxReliableEventsBeforeCompanion
  fresh : s.phase = .second ∨ s.phase = .waiting → s.since = 0

/-- What every step keeps. -/
structure Inv (s : Channel) : Prop where
  listed : s.companion.Listed
  /-- nothing ordinary is lost or overtaken -/
  inOrder : s.sent = s.received ++ s.ordinary
  /-- nothing waits for a receiver that sleeps -/
  awake : s.Awake
  paced : s.Paced

theorem listed_effect (h : s.companion.Listed) (heffect : Effect renews s s') :
    s'.companion.Listed := by
  cases heffect with
  | register => exact h.register.1
  | shrink hshrinks => exact hshrinks.listed h
  | @snapshot event => exact (h.sendSnapshot event).1
  | take =>
    refine of_recvCompanion (·.companion.Listed) h (fun hready => ?_) fun _ _ _ hready _ =>
      h.tail hready
    exact ⟨nodup_nil, fun key => hready ▸ h.mem key⟩
  | _ => exact h

theorem inOrder_effect (h : s.sent = s.received ++ s.ordinary) (hlisted : s.companion.Listed)
    (heffect : Effect renews s s') : s'.sent = s'.received ++ s'.ordinary := by
  cases heffect with
  | ordinary => rw [h, append_assoc]
  | receive hordinary =>
    rw [h, hordinary, append_assoc]
    rfl
  | take =>
    exact of_recvCompanion (fun s => s.sent = s.received ++ s.ordinary) hlisted (fun _ => h)
      fun _ _ _ _ _ => h
  | _ => exact h

theorem awake_of_subset (h : s.Awake) (hphase : s'.phase = s.phase)
    (hnotified : s'.notified = s.notified) (hsenders : .notify ∈ s.senders → .notify ∈ s'.senders)
    (hready : s'.companion.ready ⊆ s.companion.ready) : s'.Awake := by
  intro hpast hpending
  rw [hphase] at hpast
  have hbefore : s.companion.ready ≠ [] := fun hempty => hpending (by
    rw [hempty] at hready
    exact subset_nil.mp hready)
  rw [hnotified]
  exact (h hpast hbefore).imp id hsenders

theorem awake_effect (h : s.Awake) (hlisted : s.companion.Listed)
    (heffect : Effect renews s s') : s'.Awake := by
  cases heffect with
  | shrink hshrinks hnotify => exact awake_of_subset h rfl rfl hnotify hshrinks.ready
  | ordinary hnotify => exact awake_of_subset h rfl rfl hnotify fun _ => id
  | register => exact awake_of_subset h rfl rfl id hlisted.register.2
  | @snapshot event =>
    by_cases hqueued : (s.companion.sendSnapshot event).2 = .queued
    · intro _ _
      refine .inr ?_
      rw [if_pos hqueued]
      exact mem_append_right _ mem_cons_self
    · refine awake_of_subset h rfl rfl (fun hmem => ?_) ?_
      · dsimp only
        rw [if_neg hqueued]
        exact hmem
      · exact fun _ hmem => (hlisted.sendSnapshot event).2 hqueued ▸ hmem
  | notify => exact fun _ _ => .inl rfl
  | phase hsecond hwaiting =>
    rintro (heq | heq) hpending
    · exact absurd heq hsecond
    · exact h (.inl (hwaiting heq)) hpending
  | take =>
    refine of_recvCompanion Awake hlisted (fun _ _ hpending => absurd rfl hpending) ?_
    rintro key ready event - - (heq | heq) <;> cases heq
  | _ => rintro (heq | heq) <;> cases heq

theorem paced_settle (hburst : s.since ≤ s.reliableBurst)
    (hbound : s.since ≤ maxReliableEventsBeforeCompanion)
    (hfresh : s.phase = .second ∨ s.phase = .waiting → s.companion.ready = [] ∨ s.since = 0) :
    s.settle.Paced := by
  rw [settle]
  split
  next => exact ⟨Nat.zero_le _, Nat.zero_le _, fun _ => rfl⟩
  next hpending =>
    refine ⟨hburst, hbound, fun hpast => (hfresh hpast).resolve_left fun hempty => ?_⟩
    rw [hempty] at hpending
    exact hpending rfl

/-- A step that neither receives nor moves the receiver. -/
theorem paced_of_same (h : s.Paced) (hsince : s'.since = s.since)
    (hburst : s'.reliableBurst = s.reliableBurst)
    (hphase : s'.phase = .second ∨ s'.phase = .waiting →
      s.phase = .second ∨ s.phase = .waiting) : s'.settle.Paced := by
  refine paced_settle ?_ ?_ fun hpast => .inr ?_
  · rw [hsince, hburst]
    exact h.burst
  · rw [hsince]
    exact h.bound
  · rw [hsince]
    exact h.fresh (hphase hpast)

theorem paced_effect (h : s.Paced) (hlisted : s.companion.Listed)
    (heffect : Effect renews s s') : s'.settle.Paced := by
  cases heffect with
  | phase hsecond hwaiting =>
    refine paced_of_same h rfl rfl ?_
    rintro (heq | heq)
    · exact absurd heq hsecond
    · exact .inl (hwaiting heq)
  | receive hordinary hphase =>
    refine paced_settle (Nat.succ_le_succ h.burst) ?_ fun hpast => ?_
    · rcases hphase with hburst | hpast
      · exact Nat.succ_le_of_lt (Nat.lt_of_le_of_lt h.burst hburst)
      · dsimp only
        rw [h.fresh hpast]
        decide
    · rcases hpast with heq | heq <;> cases heq
  | take =>
    refine of_recvCompanion (·.settle.Paced) hlisted
      (fun _ => paced_settle h.burst h.bound fun _ => .inl rfl) ?_
    exact fun _ _ _ _ _ => paced_settle (Nat.zero_le _) (Nat.zero_le _) fun _ => .inr rfl
  | woken =>
    refine paced_of_same h rfl rfl ?_
    rintro (heq | heq) <;> cases heq
  | _ => exact paced_of_same h rfl rfl id

theorem settle_eq (s : Channel) : ∃ since, s.settle = { s with since := since } := by
  rw [settle]
  split
  next => exact ⟨0, rfl⟩
  next => exact ⟨s.since, rfl⟩

theorem inv_step (h : s.Inv) (hstep : step s move = some s') : s'.Inv := by
  obtain ⟨next, happly, rfl⟩ := Option.map_eq_some_iff.mp hstep
  have heffect := effect_apply happly
  have hpaced := paced_effect h.paced h.listed heffect
  have hlisted := listed_effect h.listed heffect
  have hinOrder := inOrder_effect h.inOrder h.listed heffect
  have hawake := awake_effect h.awake h.listed heffect
  obtain ⟨since, hsettle⟩ := next.settle_eq
  rw [hsettle] at hpaced ⊢
  exact ⟨hlisted, hinOrder, hawake, hpaced⟩

end Channel

/-! ### Freshness -/

namespace CompanionEventState

variable {s : CompanionEventState} {highest : Key → ℕ} {key : Key} {generation : String}
  {generationOrder : ℕ}

theorem le_of_not_outdated {current : ℕ × String}
    (h : ¬ outdated generation generationOrder (some current) = true) :
    current.1 ≤ generationOrder := by
  by_contra hlt
  refine h ?_
  rw [outdated, Bool.or_eq_true]
  exact .inl (decide_eq_true (Nat.not_le.mp hlt))

variable (h : s.Current highest)

include h

/-- A generation that is not outdated is not below the highest one, if it is not when none is
registered. -/
theorem Current.le_of_not_outdated
    (hrenews : s.currentGenerations.lookup key = none → highest key ≤ generationOrder)
    (hcurrent : ¬ outdated generation generationOrder (s.currentGenerations.lookup key) = true) :
    highest key ≤ generationOrder := by
  cases hlookup : s.currentGenerations.lookup key with
  | none => exact hrenews hlookup
  | some current =>
    rw [hlookup] at hcurrent
    exact Nat.le_trans (h.registered key current hlookup)
      (CompanionEventState.le_of_not_outdated hcurrent)

theorem Current.setGeneration (hle : highest key ≤ generationOrder) :
    (s.setGeneration key generation generationOrder).Current highest := by
  refine ⟨fun other current hcurrent => ?_, h.pending⟩
  rw [CompanionEventState.setGeneration, lookup_insert_eq] at hcurrent
  split at hcurrent
  next heq =>
    cases hcurrent
    exact heq ▸ hle
  next => exact h.registered other current hcurrent

variable {event : CompanionEvent}

theorem Current.enqueue (hle : highest event.key ≤ event.generationOrder) :
    (s.enqueue event).1.Current highest := by
  have hpending : ∀ key other, (s.pending.insert event.key event).lookup key = some other →
      other.key = key ∧ highest key ≤ other.generationOrder := by
    intro key other hother
    rw [lookup_insert_eq] at hother
    split at hother
    next heq =>
      cases hother
      exact ⟨heq.symm, heq ▸ hle⟩
    next => exact h.pending key other hother
  rw [CompanionEventState.enqueue]
  split
  next => exact ⟨h.registered, hpending⟩
  next =>
  split
  next => exact h
  next => exact ⟨h.registered, hpending⟩

theorem Current.sendSnapshot (hrenews : s.currentGenerations.lookup event.key = none →
      highest event.key ≤ event.generationOrder) : (s.sendSnapshot event).1.Current highest := by
  rw [CompanionEventState.sendSnapshot]
  split
  next hnone => exact (h.setGeneration (hrenews hnone)).enqueue (hrenews hnone)
  next current hlookup =>
  split
  next => exact h
  next hcurrent => exact h.enqueue (h.le_of_not_outdated hrenews (hlookup ▸ hcurrent))

omit h

/-- `highest` once a generation is registered for a key. -/
def raise (highest : Key → ℕ) (key : Key) (generationOrder : ℕ) (other : Key) : ℕ :=
  if key = other then max generationOrder (highest other) else highest other

theorem raise_le {other : Key} {n : ℕ} (hle : highest other ≤ n)
    (hkey : key = other → generationOrder ≤ n) : raise highest key generationOrder other ≤ n := by
  rw [raise]
  split
  next heq => exact Nat.max_le.mpr ⟨hkey heq, hle⟩
  next => exact hle

theorem Current.raise (h : s.Current highest)
    (hregistered : ∀ current, s.currentGenerations.lookup key = some current →
      generationOrder ≤ current.1) (hpending : ∀ event, s.pending.lookup key = some event →
      generationOrder ≤ event.generationOrder) : s.Current (raise highest key generationOrder) := by
  refine ⟨fun other current hcurrent => raise_le (h.registered other current hcurrent) ?_,
    fun other event hevent => (h.pending other event hevent).imp_right (raise_le · ?_)⟩
  · rintro rfl
    exact hregistered current hcurrent
  · rintro rfl
    exact hpending event hevent

/-- A pending event that the registration keeps is not below it. -/
theorem Current.register (h : s.Current highest)
    (hrenews : s.currentGenerations.lookup key = none → highest key ≤ generationOrder)
    (hregistered : (s.registerCompanionGeneration key generation generationOrder).2 = true) :
    (s.registerCompanionGeneration key generation generationOrder).1.Current
      (CompanionEventState.raise highest key generationOrder) := by
  rw [registerCompanionGeneration] at hregistered ⊢
  split at hregistered
  next => cases hregistered
  next hcurrent =>
  rw [if_neg hcurrent]
  have hset : (s.setGeneration key generation generationOrder).Current highest :=
    h.setGeneration (h.le_of_not_outdated hrenews hcurrent)
  have hnow : ∀ current,
      (s.setGeneration key generation generationOrder).currentGenerations.lookup key =
        some current → generationOrder ≤ current.1 := by
    intro current hlookup
    rw [CompanionEventState.setGeneration, lookup_insert_eq, if_pos rfl] at hlookup
    cases hlookup
    exact Nat.le_refl _
  split
  next =>
    refine ((shrinks_remove _ key).current hset).raise hnow fun event hevent => ?_
    rw [CompanionEventState.remove, lookup_erase_eq, if_pos rfl] at hevent
    cases hevent
  next hkept =>
    refine hset.raise hnow fun event hevent => ?_
    by_contra hlt
    refine hkept ?_
    rw [show s.pending.lookup key = some event from hevent, Option.any_some, Bool.or_eq_true]
    exact .inl (decide_eq_true (Nat.not_le.mp hlt))

/-- A registration that is refused changes nothing. -/
theorem register_refused
    (hrefused : (s.registerCompanionGeneration key generation generationOrder).2 = false) :
    (s.registerCompanionGeneration key generation generationOrder).1 = s := by
  rw [registerCompanionGeneration] at hrefused ⊢
  split
  next => rfl
  next hcurrent =>
    rw [if_neg hcurrent] at hrefused
    split at hrefused <;> cases hrefused

end CompanionEventState

namespace Channel

variable {s s' : Channel} {move : Move} {renews : Prop}

theorem highest_cons (s : Channel) (companion : CompanionEventState) (key : Key)
    (generationOrder : ℕ) :
    highest { s with
      companion := companion, registered := (key, generationOrder) :: s.registered } =
      raise s.highest key generationOrder := by
  funext other
  rw [highest, raise, highest, filter_cons]
  by_cases heq : key = other <;> simp [heq]

/-- No snapshot that was received is of a generation below the highest one registered. -/
def Fresh (s : Channel) : Prop := ∀ entry ∈ s.snapshots, entry.2 ≤ entry.1.generationOrder

theorem current_effect (h : s.companion.Current s.highest) (hlisted : s.companion.Listed)
    (heffect : Effect renews s s') (hrenews : renews) : s'.companion.Current s'.highest := by
  cases heffect with
  | @register key generation generationOrder hrenewed =>
    by_cases hregistered :
        (s.companion.registerCompanionGeneration key generation generationOrder).2 = true
    · rw [if_pos hregistered, highest_cons]
      exact h.register (hrenewed hrenews) hregistered
    · rw [if_neg hregistered, register_refused (Bool.eq_false_iff.mpr hregistered)]
      exact h
  | shrink hshrinks => exact hshrinks.current h
  | snapshot hrenewed => exact h.sendSnapshot (hrenewed hrenews)
  | take =>
    exact of_recvCompanion (fun s => s.companion.Current s.highest) hlisted
      (fun _ => ⟨h.registered, h.pending⟩) fun key _ _ _ _ =>
        ⟨h.registered, ((shrinks_remove _ key).current h).pending⟩
  | _ => exact h

theorem fresh_effect (h : s.Fresh) (hcurrent : s.companion.Current s.highest)
    (hlisted : s.companion.Listed) (heffect : Effect renews s s') : s'.Fresh := by
  cases heffect with
  | take =>
    refine of_recvCompanion Fresh hlisted (fun _ => h) fun key _ event _ hevent entry hentry => ?_
    rcases mem_append.mp hentry with hentry | hentry
    · exact h entry hentry
    · rw [mem_singleton.mp hentry]
      obtain ⟨hkey, hle⟩ := hcurrent.pending key event hevent
      exact hkey ▸ hle
  | _ => exact h

/-! ### The properties -/

/-- The ordinary events are received in the order in which they were sent. -/
def InOrder (s : Channel) : Prop := s.received <+: s.sent

/-- If the receiver sleeps and no step of a sender will wake it, nothing is pending. -/
def NoLostWakeup (s : Channel) : Prop :=
  s.phase = .waiting → s.ordinary = [] → s.notified = false → .notify ∉ s.senders →
    ∀ key, s.companion.pending.lookup key = none

/-- No more ordinary events are received while a companion event is pending. -/
def Fair (s : Channel) : Prop := s.since ≤ maxReliableEventsBeforeCompanion

theorem Inv.received_prefix (h : s.Inv) : s.InOrder := by
  rw [InOrder, h.inOrder]
  exact prefix_append _ _

theorem Inv.noLostWakeup (h : s.Inv) : s.NoLostWakeup := by
  intro hphase _ hnotified hsenders key
  by_contra hpending
  have hmem := (h.listed.mem key).mpr (Option.isSome_iff_ne_none.mpr hpending)
  rcases h.awake (.inr hphase) (ne_nil_of_mem hmem) with htrue | hnotify
  · rw [hnotified] at htrue
    cases htrue
  · exact hsenders hnotify

theorem inv_start (capacity : ℕ) : (runtimeEventChannelWithCapacity capacity).Inv where
  listed := ⟨nodup_nil, fun _ => by simp [runtimeEventChannelWithCapacity]⟩
  inOrder := rfl
  awake := fun hphase => by rcases hphase with heq | heq <;> cases heq
  paced := ⟨Nat.le_refl 0, Nat.zero_le _, fun _ => rfl⟩

/-- What holds along a run in which no key is used again by an older generation. -/
structure Renewed (s : Channel) : Prop where
  inv : s.Inv
  current : s.companion.Current s.highest
  fresh : s.Fresh

theorem renewed_step (h : s.Renewed) (hrenews : s.Renews move) (hstep : step s move = some s') :
    s'.Renewed := by
  have hinv := inv_step h.inv hstep
  obtain ⟨next, happly, rfl⟩ := Option.map_eq_some_iff.mp hstep
  have hcurrent := current_effect h.current h.inv.listed (effect_apply happly) hrenews
  have hfresh := fresh_effect h.fresh h.current h.inv.listed (effect_apply happly)
  obtain ⟨since, hsettle⟩ := next.settle_eq
  rw [hsettle] at hinv ⊢
  exact ⟨hinv, hcurrent, hfresh⟩

theorem renewed_start (capacity : ℕ) : (runtimeEventChannelWithCapacity capacity).Renewed where
  inv := inv_start capacity
  current := ⟨nofun, nofun⟩
  fresh := nofun

end Channel

/-! ### Main results -/

open Channel in
/-- **What the channel guarantees.** Along every run `ready` lists the keys of the pending events,
ordinary events are received in order, no wake-up is lost and no snapshot is overtaken by more
ordinary events than the bound. If no older generation comes after `unregister`, every snapshot
that is received is of the highest generation registered by then or a later one. -/
theorem runtime_event_channel (capacity : ℕ) (moves : List Move) :
    Always step (fun s => s.companion.Listed ∧ s.InOrder ∧ s.NoLostWakeup ∧ s.Fair)
        (runtimeEventChannelWithCapacity capacity) moves ∧
      (Meets step Renews (runtimeEventChannelWithCapacity capacity) moves →
        Always step Fresh (runtimeEventChannelWithCapacity capacity) moves) := by
  constructor
  · refine (always_of_invariant inv_step moves (inv_start capacity)).mono fun h => ?_
    exact ⟨h.listed, h.received_prefix, h.noLostWakeup, h.paced.bound⟩
  · exact always_of_meets Renewed.fresh renewed_step (renewed_start capacity)

/-- Two generations in turn, of which the second one is received. -/
def renewedRun : List Move :=
  [.registerCompanionGeneration ("peer", "task") "g1" 1,
    .registerCompanionGeneration ("peer", "task") "g2" 2,
    .unregisterCompanionGeneration ("peer", "task") "g2" 2,
    .registerCompanionGeneration ("peer", "task") "g3" 3,
    .send (.companion ⟨("peer", "task"), "g3", 3, .companionSnapshot "third"⟩),
    .recv, .recv, .recv]

theorem runtime_event_channel_renewed :
    Meets step Channel.Renews (runtimeEventChannelWithCapacity 1) renewedRun ∧
      Always step Channel.Fresh (runtimeEventChannelWithCapacity 1) renewedRun :=
  have hmeets : Meets step Channel.Renews (runtimeEventChannelWithCapacity 1) renewedRun := by
    decide
  ⟨hmeets, (runtime_event_channel 1 renewedRun).2 hmeets⟩

/-- A snapshot of the first generation is received after the second one was registered and
unregistered. -/
theorem stale_snapshot_after_unregister :
    (run step (runtimeEventChannelWithCapacity 1)
        [.registerCompanionGeneration ("peer", "task") "g1" 1,
          .registerCompanionGeneration ("peer", "task") "g2" 2,
          .unregisterCompanionGeneration ("peer", "task") "g2" 2,
          .send (.companion ⟨("peer", "task"), "g1", 1, .companionSnapshot "first"⟩),
          .recv, .recv, .recv]).map Channel.snapshots =
      some [(⟨("peer", "task"), "g1", 1, .companionSnapshot "first"⟩, 2)] := by
  decide

end Kanna.RuntimeEvents
