import Kanna.Daemon.LagState

/-!
# No lost wake-up

The fanout sets the lag flag and then reads the byte counter; the writer task
lowers the counter and then reads the flag. Whoever comes second sees the other's
write, and issues the wake-up for the resync: the enqueue reports `resync_ready`, or
the writer task notifies the session reader. `Wake` is what each party has done, or is
about to do, for a subscriber that waits for its resync.
-/

namespace Kanna

universe u

variable {E : Type u}

namespace LagState

/-! ## The wake-up -/

/-- The subscriber waits for a resync: it lags and its backlog has drained. -/
def DrainedLag (w : LagState E) : Prop :=
  w.registered = true ∧ w.laggedSince = true ∧ w.pendingBytes = 0

/-- The notifications that count: while the writer task runs, those after the backlog had
drained, and after that every one. -/
def Counts (w : LagState E) (notified : Bool) : Prop :=
  notified = w.notified ∨ notified = w.notifiedDrained ∧ w.writer.isEnded = false

/-- Flag and counter are read in time. -/
structure Wake (w : LagState E) : Prop where
  /-- a cancelled subscriber is not registered -/
  removed : w.cancelled = true → w.registered = false
  /-- the flag follows `lagged_since` -/
  flag : w.laggedSince = true → w.lagged = true ∨ w.fan = .storeLagged
  /-- only a subscriber that does not lag is served -/
  unlagged : w.fan.serving = true → w.laggedSince = false
  /-- a resync is only started once somebody has asked for it, or is about to -/
  woken : w.fan.resyncing = true → w.registered = true ∧ w.laggedSince = true ∧
    (w.reported = true ∨ w.notified = true ∨ w.writer.alerting = true)
  /-- somebody has asked for the resync that is due, or is about to -/
  wake : w.DrainedLag → ∀ notified, w.Counts notified → w.reported = true ∨ notified = true ∨
    w.fan.marking = true ∨ w.writer.alerting = true

variable {w w' : LagState E}

open Bool EventLine

/-- A subscriber that does not lag waits for nothing. -/
theorem wake_of_unlagged (hremoved : w.cancelled = true → w.registered = false)
    (hno : w.laggedSince = false) (hfan : w.fan.resyncing = false) : w.Wake where
  removed := hremoved
  flag hs := absurd (hno.symm.trans hs) false_ne_true
  unlagged _ := hno
  woken hr := absurd (hfan.symm.trans hr) false_ne_true
  wake hd := absurd (hno.symm.trans hd.2.1) false_ne_true

variable {pendingBytes : ℕ} {mailbox : List (EventLine E)}

/-- Steps of the fanout that change neither flag nor history, and end no marking. -/
theorem Wake.refan (h : w.Wake) {before fan : FanPhase E} (hbefore : w.fan = before)
    (hmark : before.marking = false) (hpending : pendingBytes = 0 → w.pendingBytes = 0)
    (hserve : fan.serving = true → w.laggedSince = false)
    (hresync : fan.resyncing = true → before.resyncing = true) :
    ({ w with pendingBytes, mailbox, fan }).Wake := by
  subst hbefore
  have hstore : w.fan ≠ .storeLagged := fun heq => by
    rw [heq] at hmark
    cases hmark
  refine ⟨h.removed, fun hs => .inl ((h.flag hs).resolve_right hstore), hserve,
    fun hr => h.woken (hresync hr), fun hd notified hcounts => ?_⟩
  have hw := h.wake ⟨hd.1, hd.2.1, hpending hd.2.2⟩ notified hcounts
  rw [hmark] at hw
  exact hw.imp_right (Or.imp_right fun hm => .inr (hm.resolve_left false_ne_true))

variable {line : EventLine E}

variable (h : w.Wake)

include h

/-- After a line was sent. -/
theorem wake_enqueued {after : AfterLine E} (hfan : w.fan = .sending line after) :
    ({ w with mailbox := w.mailbox ++ [line] }.enqueued after).Wake := by
  rcases after with _ | (_ | ⟨next, rest⟩) | (_ | ⟨next, rest⟩)
  · exact h.refan hfan rfl id nofun nofun
  · exact h.refan hfan rfl id nofun nofun
  · exact h.refan hfan rfl id (fun _ => h.unlagged (by rw [hfan]; rfl)) nofun
  · -- the batch is complete: the subscriber does not lag any more
    exact wake_of_unlagged h.removed rfl rfl
  · exact h.refan hfan rfl id nofun fun _ => rfl

/-- After a line was refused. -/
theorem wake_refused (hacc : w.Account)
    {after : AfterLine E} (hfan : w.fan = .restoring line after) :
    ({ w with pendingBytes := w.pendingBytes - line.len }.refused after).Wake := by
  have hended : w.writer.isEnded = true := hacc.refusal line after hfan
  have hstore : w.fan ≠ .storeLagged := fun heq => by
    rw [hfan] at heq
    cases heq
  have hflag : w.laggedSince = true → w.lagged = true := fun hs => (h.flag hs).resolve_right hstore
  rcases after with _ | rest | rest
  · exact ⟨fun _ => rfl, fun hs => .inl (hflag hs), nofun, nofun, (by rintro ⟨⟨⟩, -⟩)⟩
  · have hno : w.laggedSince = false := h.unlagged (by rw [hfan]; rfl)
    cases rest <;> exact wake_of_unlagged h.removed hno rfl
  · -- the resync gives up, with the wake-up that started it still on record
    obtain ⟨-, -, hwoken⟩ := h.woken (by rw [hfan]; rfl)
    refine ⟨h.removed, fun hs => .inl (hflag hs), nofun, nofun, fun _ _ hcounts => ?_⟩
    obtain rfl | ⟨-, hopen⟩ := hcounts
    · exact hwoken.imp_right (Or.imp_right .inr)
    · cases hended.symm.trans hopen

variable {writer : WakePhase E}

/-- Steps of the writer task before it drains the backlog. -/
theorem Wake.carry {before : WakePhase E} (hbefore : w.writer = before)
    (hopen : before.isEnded = false) (halert : before.alerting = false)
    (hpending : ({ w with pendingBytes, mailbox, writer }).DrainedLag → w.DrainedLag) :
    ({ w with pendingBytes, mailbox, writer }).Wake := by
  subst hbefore
  refine ⟨h.removed, h.flag, h.unlagged, fun hr => ?_, fun hd notified hcounts => ?_⟩
  · obtain ⟨hreg, hsince, hasked⟩ := h.woken hr
    rw [halert] at hasked
    exact ⟨hreg, hsince, hasked.imp_right fun hn => .inl (hn.resolve_right false_ne_true)⟩
  · have hw := h.wake (hpending hd) notified (hcounts.imp_right fun hc => ⟨hc.1, hopen⟩)
    rw [halert] at hw
    exact hw.imp_right (Or.imp_right fun hm => .inl (hm.resolve_right false_ne_true))

/-- The writer task is about to alert the session reader. -/
theorem wake_alerting (halert : writer.alerting = true) : ({ w with pendingBytes, writer }).Wake :=
  ⟨h.removed, h.flag, h.unlagged, fun hr => ⟨(h.woken hr).1, (h.woken hr).2.1, .inr (.inr halert)⟩,
    fun _ _ _ => .inr (.inr (.inr halert))⟩

/-- The writer task found the flag down: then nobody lags, or the fanout has yet to
read the counter. -/
theorem wake_goOn_unlagged (hlag : w.lagged = false) (ok : Bool) : (w.goOn ok).Wake := by
  have hstore : w.laggedSince = true → w.fan = .storeLagged := fun hs =>
    (h.flag hs).resolve_left (by rw [hlag]; exact false_ne_true)
  have hmark : w.DrainedLag → w.fan.marking = true := fun hd => by
    rw [hstore hd.2.1]
    rfl
  have hres : w.fan.resyncing = true → ∀ {P : Prop}, P := fun hr => by
    rw [hstore (h.woken hr).2.1] at hr
    cases hr
  cases ok <;>
    exact ⟨h.removed, h.flag, h.unlagged, fun hr => hres hr,
      fun hd _ _ => .inr (.inr (.inl (hmark hd)))⟩

/-- The writer task has notified the session reader. -/
theorem wake_notified (ok : Bool) :
    ({ w with
      notified := true
      notifiedDrained := w.notifiedDrained || w.pendingBytes == 0 }.goOn ok).Wake := by
  have hdrained : w.DrainedLag → (w.notifiedDrained || w.pendingBytes == 0) = true := fun hd => by
    rw [hd.2.2]
    exact or_true _
  cases ok <;>
    exact ⟨h.removed, h.flag, h.unlagged,
      fun hr => ⟨(h.woken hr).1, (h.woken hr).2.1, .inr (.inl rfl)⟩,
      fun hd _ hcounts => .inr (.inl (hcounts.elim id fun hc => hc.1.trans (hdrained hd)))⟩

omit h

/-! ## Every interleaving -/

/-- What every step keeps. -/
structure Inv (w : LagState E) : Prop where
  /-- the counter is right -/
  account : w.Account
  /-- nobody is forgotten -/
  wake : w.Wake

theorem inv_fanStep (h : w.Inv) (hstep : w.fanStep = some w') : w'.Inv := by
  obtain ⟨hacc, h⟩ := h
  unfold fanStep at hstep
  split at hstep
  next => cases hstep
  next hfan =>
    cases hstep
    exact ⟨hacc.refan hfan rfl nofun, h.refan hfan rfl id nofun nofun⟩
  next line hfan =>
    split at hstep
    · -- the lag begins: history starts anew
      cases hstep
      exact ⟨hacc.refan hfan rfl nofun, h.removed, fun _ => .inr rfl, nofun, nofun,
        fun _ _ _ => .inr (.inr (.inl rfl))⟩
    · cases hstep
      exact ⟨hacc.refan hfan rfl nofun,
        h.refan hfan rfl id (fun _ => h.unlagged (by rw [hfan]; rfl)) nofun⟩
  next hfan =>
    cases hstep
    exact ⟨hacc.refan hfan rfl nofun, h.removed, fun _ => .inl rfl, nofun, nofun,
      fun _ _ _ => .inr (.inr (.inl rfl))⟩
  next hfan =>
    -- the flag is up: if the backlog has drained by now, the enqueue reports it
    cases hstep
    refine ⟨hacc.refan hfan rfl nofun, h.removed,
      fun hs => .inl ((h.flag hs).resolve_right fun heq => ?_),
      nofun, nofun, fun hd _ _ => .inl (beq_iff_eq.mpr hd.2.2)⟩
    rw [hfan] at heq
    cases heq
  next line after hfan =>
    cases hstep
    have hserve : (FanPhase.sending line after).serving = w.fan.serving := by
      rw [hfan]
      cases after <;> rfl
    refine ⟨⟨fun hopen => ?_, ?_, nofun⟩, h.refan hfan rfl Nat.eq_zero_of_add_eq_zero_right
      (fun hs => h.unlagged (hserve ▸ hs)) (fun hr => by cases after <;> exact hr)⟩
    · have hbal := hacc.balance hopen
      rw [hfan] at hbal
      simp only [FanPhase.hand, bytes_nil, bytes_cons] at hbal ⊢
      omega
    · simp only [FanPhase.hand, bytes_nil, bytes_cons]
      omega
  next line after hfan =>
    split at hstep
    next hended =>
      cases hstep
      have hserve : (FanPhase.restoring line after).serving = w.fan.serving := by
        rw [hfan]
        cases after <;> rfl
      refine ⟨⟨fun hopen => ?_, ?_, fun _ _ _ => hended⟩, h.refan hfan rfl id
        (fun hs => h.unlagged (hserve ▸ hs)) (fun hr => by cases after <;> exact hr)⟩
      · exact absurd (Eq.trans hopen.symm hended) false_ne_true
      · have hcov := hacc.cover
        rw [hfan] at hcov
        exact hcov
    next hopen =>
      cases hstep
      exact ⟨account_enqueued hacc hfan (not_eq_true _ ▸ hopen), wake_enqueued h hfan⟩
  next line after hfan =>
    cases hstep
    exact ⟨account_refused hacc hfan, wake_refused h hacc hfan⟩
  next hfan =>
    cases hstep
    have hno : w.laggedSince = false := h.unlagged (by rw [hfan]; rfl)
    exact ⟨hacc.refan hfan rfl nofun, wake_of_unlagged h.removed hno rfl⟩

theorem inv_writerStep {ok : Bool} (h : w.Inv) (hstep : w.writerStep ok = some w') : w'.Inv := by
  obtain ⟨hacc, h⟩ := h
  unfold writerStep at hstep
  split at hstep
  next hw =>
    split at hstep
    next => cases hstep
    next line rest hm =>
      cases hstep
      refine ⟨hacc.moveOn (by rw [hw]; rfl) ?_, h.carry hw rfl rfl id⟩
      rw [hw, hm]
      simp [WakePhase.hand]
      omega
  next line hw =>
    have hopen : w.writer.isEnded = false := by rw [hw]; rfl
    split at hstep
    next hcancel =>
      cases hstep
      have hle := hacc.line_le line hopen (by rw [hw]; rfl)
      refine ⟨account_ended rfl ?_, h.carry hw rfl rfl fun hd => ?_⟩
      · show bytes w.fan.hand ≤ w.pendingBytes - line.len
        omega
      · -- a cancelled subscriber is nobody's concern any more
        exact absurd ((h.removed hcancel).symm.trans hd.1) false_ne_true
    next =>
      cases hstep
      exact ⟨hacc.moveOn hopen (by rw [hw]; rfl), h.carry hw rfl rfl id⟩
  next line hw =>
    have hopen : w.writer.isEnded = false := by rw [hw]; rfl
    have hhand : w.writer.hand = [line] := by rw [hw]; rfl
    have hle := hacc.line_le line hopen hhand
    split at hstep
    next =>
      cases hstep
      exact ⟨hacc.settle hopen hhand rfl, wake_alerting h rfl⟩
    next hne =>
      -- the backlog has not drained
      cases hstep
      have hnot : w.pendingBytes - line.len ≠ 0 := by omega
      cases ok with
      | true =>
        exact ⟨hacc.settle hopen hhand rfl, h.carry hw rfl rfl fun hd => absurd hd.2.2 hnot⟩
      | false =>
        refine ⟨account_ended rfl ?_, h.carry hw rfl rfl fun hd => absurd hd.2.2 hnot⟩
        show bytes w.fan.hand ≤ w.pendingBytes - line.len
        omega
  next ok' hw =>
    split at hstep
    next =>
      cases hstep
      exact ⟨hacc.moveOn (by rw [hw]; rfl) (by rw [hw]; rfl), wake_alerting h rfl⟩
    next hlag =>
      cases hstep
      exact ⟨account_goOn hacc (by rw [hw]; rfl) (by rw [hw]; rfl) ok',
        wake_goOn_unlagged h (not_eq_true _ ▸ hlag) ok'⟩
  next ok' hw =>
    cases hstep
    have hsame : Account { w with
        notified := true
        notifiedDrained := w.notifiedDrained || w.pendingBytes == 0 } :=
      { hacc with }
    refine ⟨account_goOn hsame ?_ ?_ ok', wake_notified h ok'⟩
    · show w.writer.hand = []
      rw [hw]
      rfl
    · show w.writer.isEnded = false
      rw [hw]
      rfl
  next => cases hstep

theorem inv_new (budget : ℕ) (initialEvents : List (EventLine E)) :
    (new budget initialEvents).Inv := by
  cases initialEvents <;>
    exact ⟨⟨fun _ => rfl, Nat.zero_le _, (by rintro _ _ ⟨⟩)⟩, wake_of_unlagged nofun rfl rfl⟩

/-- The fanout starts an operation only when it is not in the middle of one. -/
theorem fan_of_free (h : w.free = true) : w.fan = .idle ∧ w.registered = true := by
  unfold free at h
  split at h
  next hfan => exact ⟨hfan, h⟩
  next => cases h

/-- The subscriber leaves the registry; nobody waits for it any more. -/
theorem inv_unregister (h : w.Inv) (hfan : w.fan = .idle) (cancel : Bool) :
    ({ w with registered := false, cancelled := cancel }).Inv := by
  obtain ⟨hacc, hwake⟩ := h
  refine ⟨{ hacc with }, ⟨fun _ => rfl, hwake.flag, hwake.unlagged,
    fun hr => ?_, (by rintro ⟨⟨⟩, -⟩)⟩⟩
  have hr' : w.fan.resyncing = true := hr
  rw [hfan] at hr'
  cases hr'

theorem inv_offer (h : w.Inv) (hfan : w.fan = .idle) (line : EventLine E) : (w.offer line).Inv := by
  obtain ⟨hacc, hwake⟩ := h
  unfold offer
  split
  next => exact inv_unregister ⟨hacc, hwake⟩ hfan w.cancelled
  next =>
    split
    next =>
      exact ⟨hacc.refan hfan rfl (by rintro _ _ ⟨⟩), hwake.refan hfan rfl id nofun nofun⟩
    next hsince =>
      exact ⟨hacc.refan hfan rfl (by rintro _ _ ⟨⟩),
        hwake.refan hfan rfl id (fun _ => not_eq_true _ ▸ hsince) nofun⟩

theorem inv_resync (h : w.Inv) (hfan : w.fan = .idle)
    (hreg : w.registered = true) (line : EventLine E) (rest : List (EventLine E)) :
    (w.resync line rest).Inv := by
  obtain ⟨hacc, hwake⟩ := h
  unfold resync
  split
  next hready =>
    rw [and_eq_true, beq_iff_eq] at hready
    -- the subscriber waits for this resync, so somebody has asked for it
    have hd : w.DrainedLag := ⟨hreg, hready.1, hready.2⟩
    have hasked : ∀ notified, w.Counts notified →
        w.reported = true ∨ notified = true ∨ w.writer.alerting = true := by
      intro notified hcounts
      have hw := hwake.wake hd notified hcounts
      rw [hfan] at hw
      exact hw.imp_right (Or.imp_right fun hm => hm.resolve_left false_ne_true)
    refine ⟨hacc.refan hfan rfl (by rintro _ _ ⟨⟩),
      ⟨hwake.removed, fun hs => .inl ((hwake.flag hs).resolve_right fun heq => ?_),
        nofun, fun _ => ⟨hreg, hready.1, hasked _ (.inl rfl)⟩,
        fun _ notified hcounts => (hasked notified hcounts).imp_right (Or.imp_right .inr)⟩⟩
    rw [hfan] at heq
    cases heq
  next => exact ⟨hacc, hwake⟩

theorem inv_step {a : WakeAction E} (h : w.Inv) (hstep : w.step a = some w') : w'.Inv := by
  cases a <;> simp only [step] at hstep
  case fan => exact inv_fanStep h hstep
  case offer line =>
    obtain ⟨hfree, rfl⟩ := guard_eq_some hstep
    exact inv_offer h (fan_of_free hfree).1 line
  case resync line rest =>
    obtain ⟨hfree, rfl⟩ := guard_eq_some hstep
    obtain ⟨hfan, hreg⟩ := fan_of_free hfree
    exact inv_resync h hfan hreg line rest
  case remove cancel =>
    obtain ⟨hfree, rfl⟩ := guard_eq_some hstep
    exact inv_unregister h (fan_of_free hfree).1 cancel
  case writer ok => exact inv_writerStep h hstep
  case abort =>
    obtain ⟨hreg, hstep⟩ := of_exit hstep
    cases hstep
    obtain ⟨hacc, hwake⟩ := h
    refine ⟨account_ended rfl hacc.cover, ⟨hwake.removed, hwake.flag, hwake.unlagged,
      fun hr => absurd (hwake.woken hr).1 hreg, fun hd => absurd hd.1 hreg⟩⟩

/-- **Nobody waits for a resync in vain**. -/
structure WakeIssued (w : LagState E) : Prop where
  /-- unless one of the parties is just about to do so, the enqueue that found the
  subscriber lagging has reported it, or the writer task has notified since -/
  issued : w.DrainedLag → w.fan.marking = false → w.writer.alerting = false →
    w.reported = true ∨ w.notified = true
  /-- and, while the writer task runs, after the backlog had drained -/
  issuedDrained : w.DrainedLag → w.fan.marking = false → w.writer.alerting = false →
    w.writer.isEnded = false → w.reported = true ∨ w.notifiedDrained = true
  /-- a fanout that is marking the subscriber reports it with its own next steps -/
  fanReports : w.DrainedLag → w.fan.marking = true →
    ∃ n w', n ≤ 2 ∧ run step w (List.replicate n .fan) = some w' ∧ w'.reported = true
  /-- a writer task that has drained the backlog notifies with its own next steps,
  unless the fanout is marking the subscriber and will report it -/
  writerNotifies : w.DrainedLag → w.writer.alerting = true → w.fan.marking = true ∨
    ∃ n w', n ≤ 2 ∧ run step w (List.replicate n (.writer true)) = some w' ∧
      w'.notifiedDrained = true

theorem Inv.wakeIssued (h : w.Inv) : w.WakeIssued := by
  refine ⟨fun hd hmark halert => ?_, fun hd hmark halert hopen => ?_, fun hd hmark => ?_,
    fun hd halert => ?_⟩
  · have hw := h.wake.wake hd _ (.inl rfl)
    rw [hmark, halert] at hw
    simpa using hw
  · have hw := h.wake.wake hd _ (.inr ⟨rfl, hopen⟩)
    rw [hmark, halert] at hw
    simpa using hw
  · have hzero : (w.pendingBytes == 0) = true := beq_iff_eq.mpr hd.2.2
    unfold FanPhase.marking at hmark
    split at hmark
    next hfan =>
      refine ⟨2, { w with fan := .idle, reported := w.pendingBytes == 0, lagged := true },
        Nat.le_refl 2, ?_, hzero⟩
      simp [List.replicate, run, step, fanStep, hfan]
    next hfan =>
      refine ⟨1, { w with fan := .idle, reported := w.pendingBytes == 0 }, Nat.le_succ 1, ?_, hzero⟩
      simp [List.replicate, run, step, fanStep, hfan]
    next => cases hmark
  · by_cases hmark : w.fan.marking = true
    · exact .inl hmark
    · right
      have hlag : w.lagged = true := (h.wake.flag hd.2.1).resolve_right fun heq => by
        rw [heq] at hmark
        exact hmark rfl
      have hzero : (w.notifiedDrained || w.pendingBytes == 0) = true := by
        rw [hd.2.2]
        exact or_true _
      unfold WakePhase.alerting at halert
      split at halert
      next ok hw =>
        refine ⟨2, { w with
            writer := .notifying ok
            notified := true
            notifiedDrained := w.notifiedDrained || w.pendingBytes == 0 }.goOn ok,
          Nat.le_refl 2, ?_, (goOn_notifiedDrained _ ok).trans hzero⟩
        simp [List.replicate, run, step, writerStep, hw, hlag]
      next ok hw =>
        refine ⟨1, { w with
            notified := true
            notifiedDrained := w.notifiedDrained || w.pendingBytes == 0 }.goOn ok,
          Nat.le_succ 1, ?_, (goOn_notifiedDrained _ ok).trans hzero⟩
        simp [List.replicate, run, step, writerStep, hw]
      next => cases halert

/-- **No lost wake-up**. For every interleaving of enqueues, resync attempts and the
writer task, one atomic access at a time, from a fresh registration with any
initial events and any budget: a subscriber that lags and has drained is never left
without a wake-up. -/
theorem wake_issued (budget : ℕ) (initialEvents : List (EventLine E))
    (as : List (WakeAction E)) : Always step WakeIssued (new budget initialEvents) as :=
  (always_of_invariant inv_step as (inv_new budget initialEvents)).mono Inv.wakeIssued

/-- **The counter is exact.** Over every interleaving of the two parties: while the writer task
runs, `pending_bytes` counts the mailbox and the lines in both hands; and after it has ended, the
counter still covers the line that the fanout is about to take back, so that it never wraps. -/
theorem pendingBytes_exact (budget : ℕ) (initialEvents : List (EventLine E))
    (as : List (WakeAction E)) : Always step Account (new budget initialEvents) as :=
  (always_of_invariant inv_step as (inv_new budget initialEvents)).mono Inv.account

end LagState

end Kanna
