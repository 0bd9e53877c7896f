import Mathlib.Data.List.Infix
import Kanna.Daemon.FanoutRun

/-!
# What reaches the sockets

Two facts about every run of a fanout, whatever its events are:

* each registration's lines reach its socket in the order they were queued, and
  without a gap (`Delivering.sent`);
* on one socket, once a registration has written anything, no older registration
  of the same kind writes again (`DeliveryInv.grouped`). The source gets this from
  checking `cancelled` under the socket lock, so the invariant keeps track of the
  newest registration of each writer (`latest`) and of who last took each socket's
  lock (`holder`).

The second fact needs that nobody registers once the final event is out: those
that left with it are not cancelled.
-/

namespace Kanna

universe u

variable {E : Type u}

/-- The lines a task has put on its socket. -/
def written (log : List (Delivery E)) (task : ℕ) : List (EventLine E) :=
  (log.filter fun d => d.task = task).map Delivery.line

/-- The lines that were queued, in order. -/
def Offer.queuedLines (offers : List (Offer E)) : List (EventLine E) :=
  offers.filterMap fun
    | .queued line => some line
    | .dropped _ => none

open Offer

@[simp] theorem Offer.queuedLines_append (os ps : List (Offer E)) :
    queuedLines (os ++ ps) = queuedLines os ++ queuedLines ps := by
  simp [queuedLines]

open List

@[simp] theorem Offer.queuedLines_map_queued (lines : List (EventLine E)) :
    queuedLines (lines.map queued) = lines := by
  induction lines with
  | nil => rfl
  | cons line lines ih =>
    rw [map_cons, queuedLines, filterMap_cons]
    exact congrArg (line :: ·) ih

theorem written_append (log more : List (Delivery E)) (task : ℕ) :
    written (log ++ more) task = written log task ++ written more task := by
  simp [written]

variable {log : List (Delivery E)}

/-- Lines of another task do not count. -/
theorem written_of_ne {task : ℕ} (h : ∀ d ∈ log, d.task ≠ task) : written log task = [] := by
  rw [written, map_eq_nil_iff, filter_eq_nil_iff]
  intro d hd
  simpa using h d hd

namespace Subscriber

/-- The task will not start another write. -/
def Superseded (s : Subscriber E) : Prop := s.cancelled = true ∨ s.isClosed = true

theorem Superseded.cancelled {s : Subscriber E} (h : s.Superseded) (hopen : s.isClosed = false) :
    s.cancelled = true :=
  h.resolve_right (by rw [hopen]; exact Bool.false_ne_true)

/-- What holds of a registration and its writer task at any time, given the
newest task of each writer and kind, the last holder of each socket, and what is
on the sockets. -/
structure Delivering (latest : ℕ → SubscriberKind → ℕ) (holder : ℕ → Option ℕ)
    (log : List (Delivery E)) (s : Subscriber E) : Prop where
  /-- while the task runs, what was queued is written or still in its backlog -/
  pending : s.isClosed = false →
    Offer.queuedLines s.offers = written log s.task ++ s.backlog
  /-- what was written is what was queued first -/
  sent : written log s.task <+: Offer.queuedLines s.offers
  /-- no task is newer than the newest -/
  newest : s.task ≤ latest s.writerId s.kind
  /-- a replaced task starts no further write -/
  replaced : s.task < latest s.writerId s.kind → s.Superseded
  /-- who writes holds the socket -/
  locked : s.isWriting = true → holder s.writerId = some s.task
  /-- a task is overtaken for good -/
  overtaken : ∀ d ∈ log, d.writerId = s.writerId → d.kind = s.kind → s.task < d.task →
    s.Superseded ∧ s.isWriting = false

variable {latest : ℕ → SubscriberKind → ℕ} {holder : ℕ → Option ℕ} {log : List (Delivery E)}

variable {s s' : Subscriber E}

variable (h : s.Delivering latest holder log)

include h

/-- Whatever the fanout does, it only adds lines at the end of the mailbox and
never takes a cancellation back. -/
theorem Delivering.extend {mailbox : List (EventLine E)} {pendingBytes batch : ℕ}
    {lagged cancelled aborted batchIntoEmpty : Bool} {laggedSince : Option ℕ}
    {offers : List (Offer E)} (hcancel : s.cancelled = true → cancelled = true)
    (extra : List (EventLine E)) (hmailbox : mailbox = s.mailbox ++ extra)
    (hoffers : queuedLines offers = queuedLines s.offers ++ extra) :
    Delivering latest holder log
      ⟨s.task, s.writerId, s.kind, mailbox, pendingBytes, lagged, cancelled, laggedSince, aborted,
        s.phase, offers, batch, batchIntoEmpty⟩ := by
  refine ⟨fun hopen => ?_, ?_, h.newest, fun hlt => (h.replaced hlt).imp_left hcancel, h.locked,
    fun d hd hdw hdk hlt => (h.overtaken d hd hdw hdk hlt).imp_left (.imp_left hcancel)⟩
  · show _ = _ ++ (s.inHand ++ mailbox)
    rw [hoffers, h.pending hopen, backlog, hmailbox]
    simp
  · rw [hoffers]
    exact h.sent.trans (prefix_append _ _)

theorem Delivering.accept (line : EventLine E) : (s.accept line).Delivering latest holder log :=
  h.extend (fun hc => hc) [line] rfl (queuedLines_append _ _)

theorem Delivering.skip (line : EventLine E) : (s.skip line).Delivering latest holder log :=
  h.extend (fun hc => hc) [] (append_nil _).symm (queuedLines_append _ _)

omit h

variable {line : EventLine E}

theorem Delivering.offer {budget now : ℕ}
    (h : s.Delivering latest holder log) (hoff : (s.offer budget now line).1 = some s') :
    s'.Delivering latest holder log := by
  obtain ⟨-, ⟨-, rfl⟩ | ⟨-, rfl⟩ | ⟨-, -, rfl⟩⟩ := offer_eq_some hoff
  · exact h.skip line
  · exact (h.skip line).extend (fun hc => hc) [] (append_nil _).symm (append_nil _).symm
  · exact h.accept line

theorem Delivering.resync {lines : List (EventLine E)} (hlines : lines ≠ [])
    (h : s.Delivering latest holder log) : (s.resync lines).Delivering latest holder log := by
  obtain hs | ⟨-, -, -, hs⟩ := s.resync_cases hlines
  · rw [hs]
    exact h
  · rw [hs]
    refine h.extend (fun hc => hc) lines rfl ?_
    exact (queuedLines_append _ _).trans (by rw [queuedLines_map_queued])

variable (h : s.Delivering latest holder log)

include h

theorem Delivering.cancel : s.cancel.Delivering latest holder log :=
  h.extend (fun _ => rfl) [] (append_nil _).symm (append_nil _).symm

theorem Delivering.takeFinal
    (line : EventLine E) : (s.takeFinal line).Delivering latest holder log := by
  obtain hs | ⟨-, -, hs⟩ := s.takeFinal_cases line
  · rw [hs]
    exact h.extend (fun hc => hc) [] (append_nil _).symm (append_nil _).symm
  · rw [hs]
    exact h.accept line

/-- The task ends: nothing is left to deliver. -/
theorem Delivering.close :
    s.close.Delivering latest holder log where
  pending := nofun
  sent := h.sent
  newest := h.newest
  replaced := fun _ => .inr rfl
  locked := nofun
  overtaken := fun _ _ _ _ _ => ⟨.inr rfl, rfl⟩

/-- The task takes the next line in hand: it writes nothing and takes no lock. -/
theorem Delivering.recv {rest : List (EventLine E)} (hp : s.phase = .idle)
    (hm : s.mailbox = line :: rest) :
    Delivering latest holder log { s with phase := .holding line, mailbox := rest } := by
  have hopen : s.isClosed = false := by rw [isClosed, hp]
  refine ⟨fun _ => ?_, h.sent, h.newest, fun hlt => .inl ((h.replaced hlt).cancelled hopen), nofun,
    fun d hd hdw hdk hlt => ⟨.inl ((h.overtaken d hd hdw hdk hlt).1.cancelled hopen), rfl⟩⟩
  rw [h.pending hopen, backlog, inHand, hp, hm]
  rfl

/-- A task that is not cancelled starts to write, with the lock. -/
theorem Delivering.start (hp : s.phase = .holding line) (hc : s.cancelled = false) :
    Delivering latest (Function.update holder s.writerId (some s.task)) log
      { s with phase := .writing line } := by
  have hopen : s.isClosed = false := by rw [isClosed, hp]
  have hnot : ¬ s.Superseded := by
    rw [Superseded, hc, hopen]
    simp
  refine ⟨fun _ => ?_, h.sent, h.newest, fun hlt => absurd (h.replaced hlt) hnot, fun _ => ?_,
    fun d hd hdw hdk hlt => absurd (h.overtaken d hd hdw hdk hlt).1 hnot⟩
  · rw [h.pending hopen]
    show _ = written log s.task ++ ([line] ++ s.mailbox)
    rw [backlog, inHand, hp]
  · exact Function.update_self _ _ _

/-- The line in hand reaches the socket. -/
theorem Delivering.finish (hp : s.phase = .writing line) :
    (s.settle line).Delivering latest holder (log ++ [⟨s.task, s.writerId, s.kind, line⟩]) := by
  have hopen : s.isClosed = false := by rw [isClosed, hp]
  have hwriting : s.isWriting = true := by rw [isWriting, hp]
  have hwritten : written (log ++ [⟨s.task, s.writerId, s.kind, line⟩]) s.task =
      written log s.task ++ [line] := by
    rw [written_append]
    simp [written]
  have hpend : queuedLines s.offers =
      written (log ++ [⟨s.task, s.writerId, s.kind, line⟩]) s.task ++ s.mailbox := by
    rw [h.pending hopen, hwritten, backlog, inHand, hp, append_assoc]
  refine ⟨fun _ => hpend, ⟨s.mailbox, hpend.symm⟩, h.newest,
    fun hlt => .inl ((h.replaced hlt).cancelled hopen),
    nofun, forall_mem_append.mpr ⟨fun d hd hdw hdk hlt => ?_,
      forall_mem_singleton.mpr fun _ _ hlt => absurd hlt (Nat.lt_irrefl _)⟩⟩
  cases hwriting.symm.trans (h.overtaken d hd hdw hdk hlt).2

omit h

/-- What another task writes does not concern this one, unless it is newer; and
then this one was replaced, and does not hold the socket. -/
theorem Delivering.other {t : Subscriber E} (ht : t.Delivering latest holder log)
    (hs : s.Delivering latest holder log) (hwriting : s.isWriting = true)
    (hne : t.task ≠ s.task) (line : EventLine E) :
    t.Delivering latest holder (log ++ [⟨s.task, s.writerId, s.kind, line⟩]) := by
  have hwritten : written (log ++ [⟨s.task, s.writerId, s.kind, line⟩]) t.task =
      written log t.task := by
    have hnil : written [(⟨s.task, s.writerId, s.kind, line⟩ : Delivery E)] t.task = [] := by
      exact written_of_ne (forall_mem_singleton.mpr hne.symm)
    rw [written_append, hnil, append_nil]
  refine { ht with pending := ?_, sent := ?_, overtaken := ?_ }
  · rw [hwritten]
    exact ht.pending
  · rw [hwritten]
    exact ht.sent
  · refine forall_mem_append.mpr ⟨ht.overtaken, forall_mem_singleton.mpr fun hdw hdk hlt =>
      ⟨ht.replaced ?_, ?_⟩⟩
    · have hnew := hs.newest
      dsimp only at hdw hdk
      rw [hdw, hdk] at hnew
      exact Nat.lt_of_lt_of_le hlt hnew
    · by_contra hw
      have htl := ht.locked (Bool.not_eq_false _ ▸ hw)
      have hsl := hs.locked hwriting
      rw [← hdw] at htl
      exact hne (Option.some.inj (htl.symm.trans hsl))

end Subscriber

namespace FanoutRun

open Subscriber

/-- Each registration is delivered as it was queued. -/
abbrev HoldsDelivering (w : FanoutRun E) (final : Bool) (latest : ℕ → SubscriberKind → ℕ)
    (holder : ℕ → Option ℕ) (log : List (Delivery E)) : Prop :=
  w.Holds (fun k s => s.kind = k ∧ s.Delivering latest holder log)
    (fun s => s.Delivering latest holder log ∧ (final = false → s.Superseded))

/-- **The delivery invariant**; `final` says that the final event is out. -/
structure DeliveryInv (final : Bool) (w : FanoutRun E) : Prop where
  /-- tasks are told apart -/
  distinct : w.Distinct
  /-- only spawned tasks write -/
  spawned : ∀ d ∈ w.log, d.task < w.nextTask
  /-- on each socket, the registrations of a kind write one after the other -/
  grouped : w.log.Pairwise fun c d => c.writerId = d.writerId → c.kind = d.kind → c.task ≤ d.task
  subscribers : ∃ latest holder, w.HoldsDelivering final latest holder w.log

theorem deliveryInv_new (budget : ℕ) : DeliveryInv false (new budget : FanoutRun E) where
  distinct := distinct_new budget
  spawned := fun _ hd => absurd hd not_mem_nil
  grouped := List.Pairwise.nil
  subscribers := ⟨fun _ _ => 0, fun _ => none,
    fun k _ hs => absurd hs (by cases k <;> exact not_mem_nil),
    fun _ hs => absurd hs not_mem_nil⟩

variable {final : Bool} {w : FanoutRun E} {s : Subscriber E} {latest : ℕ → SubscriberKind → ℕ}

theorem HoldsDelivering.of_mem {holder : ℕ → Option ℕ}
    (hh : w.HoldsDelivering final latest holder log) (hs : s ∈ w.all) :
    s.Delivering latest holder log := by
  obtain ⟨k, hs⟩ | hs := mem_all.mp hs
  · exact (hh.registered k s hs).2
  · exact (hh.left s hs).1

/-- Every registration's written lines are the first of those queued for it. -/
theorem DeliveryInv.written_prefix (h : w.DeliveryInv final)
    (hs : s ∈ w.all) : written w.log s.task <+: queuedLines s.offers := by
  obtain ⟨latest, holder, hh⟩ := h.subscribers
  exact (HoldsDelivering.of_mem hh hs).sent

/-- A task with a registration has been spawned. -/
theorem Distinct.lt_nextTask (h : w.Distinct) (hs : s ∈ w.all) : s.task < w.nextTask := by
  have hpos : 0 < taskCount s.task w.all := countP_pos_iff.mpr ⟨s, hs, by simp⟩
  have := h s.task
  by_contra hge
  rw [if_neg hge] at this
  omega

theorem deliveryInv_remove (h : w.DeliveryInv final) (kind : SubscriberKind) (writerId : ℕ) :
    (w.advance (w.state.remove kind writerId)).DeliveryInv final := by
  obtain ⟨latest, holder, hh⟩ := h.subscribers
  refine ⟨fun task => ?_, h.spawned, h.grouped, latest, holder, ?_⟩
  · rw [taskCount_remove]
    exact h.distinct task
  · exact holds_remove hh (fun _ _ hs _ => hs) (fun _ hs _ => ⟨hs.2.cancel, fun _ => .inl rfl⟩)
      (fun _ hs => hs)

/-- The writer's old registration is cancelled; the new one starts with nothing
on the socket. -/
theorem holds_delivering_register (json : E → Option ℕ)
    (h : w.DeliveryInv false) (kind : SubscriberKind) (writerId : ℕ) (events : List E) :
    ∃ latest holder, HoldsDelivering
      (w.advance (w.state.register json w.nextTask kind writerId events)) false latest holder
      w.log := by
  obtain ⟨latest, holder, hh⟩ := h.subscribers
  let latest' : ℕ → SubscriberKind → ℕ := fun wid k =>
    if wid = writerId ∧ k = kind then w.nextTask else latest wid k
  -- a superseded task may as well be compared with a newer one
  have hold : ∀ s : Subscriber E, s.task < w.nextTask → s.Superseded →
      s.Delivering latest holder w.log → s.Delivering latest' holder w.log := by
    intro s hlt hsup hs
    refine { hs with newest := ?_, replaced := fun _ => hsup }
    show s.task ≤ if s.writerId = writerId ∧ s.kind = kind then w.nextTask else _
    split
    · exact Nat.le_of_lt hlt
    · exact hs.newest
  refine ⟨latest', holder, holds_register hh.with_mem ?_ ?_ ?_ ⟨?_, ?_⟩⟩
  · -- those that stay have another writer or another kind
    rintro k s ⟨⟨hk, hs⟩, -⟩ hne
    have hlatest : latest' s.writerId s.kind = latest s.writerId s.kind :=
      if_neg fun hc => hne (hk.symm.trans hc.2) hc.1
    exact ⟨hk, hs.pending, hs.sent, hlatest ▸ hs.newest, hlatest ▸ hs.replaced, hs.locked,
      hs.overtaken⟩
  · rintro s ⟨⟨-, hs⟩, hmem⟩ -
    have hlt := h.distinct.lt_nextTask hmem
    exact ⟨hold s.cancel hlt (.inl rfl) hs.cancel, fun _ => .inl rfl⟩
  · rintro s ⟨⟨hs, hsup⟩, hmem⟩
    exact ⟨hold s (h.distinct.lt_nextTask hmem) (hsup rfl) hs, hsup⟩
  · rw [FanoutState.registration_eq]
    rfl
  · rw [FanoutState.registration_eq]
    have hnone : written w.log w.nextTask = [] :=
      written_of_ne fun d hd => Nat.ne_of_lt (h.spawned d hd)
    have hlatest : latest' writerId kind = w.nextTask := if_pos ⟨rfl, rfl⟩
    refine ⟨fun _ => ?_, ?_, Nat.le_of_eq hlatest.symm, fun hlt => ?_, nofun,
      fun d hd _ _ hlt => ?_⟩
    · show queuedLines ([] ++ map queued _) = written w.log w.nextTask ++ ([] ++ ([] ++ _))
      rw [hnone]
      simp
    · show written w.log w.nextTask <+: _
      rw [hnone]
      exact nil_prefix
    · exact absurd hlt (by
        show ¬ w.nextTask < latest' writerId kind
        omega)
    · exact absurd hlt (Nat.not_lt.mpr (Nat.le_of_lt (h.spawned d hd)))

variable (h : w.DeliveryInv final)

include h

/-- The registrations after a step of a writer task. -/
theorem DeliveryInv.put {s' : Subscriber E} {holder holder' : ℕ → Option ℕ}
    (hh : w.HoldsDelivering final latest holder w.log) (hs : s ∈ w.all) (htask : s'.task = s.task)
    (hkind : s'.kind = s.kind)
    (hself : s.Delivering latest holder w.log → s'.Delivering latest holder' log)
    (hsup : s.Superseded → s'.Superseded)
    (hother : ∀ t, t ∈ w.all → t.Delivering latest holder w.log → t.task ≠ s.task →
      t.Delivering latest holder' log) : (w.put s').HoldsDelivering final latest holder' log := by
  refine holds_put h.distinct hh.with_mem hs htask ?_ ?_ ?_ ?_
  · rintro k ⟨⟨hk, hd⟩, -⟩
    exact ⟨hkind.trans hk, hself hd⟩
  · rintro ⟨⟨hd, hf⟩, -⟩
    exact ⟨hself hd, fun hfin => hsup (hf hfin)⟩
  · rintro k t ⟨⟨hk, hd⟩, ht⟩ hne
    exact ⟨hk, hother t ht hd hne⟩
  · rintro t ⟨⟨hd, hf⟩, ht⟩ hne
    exact ⟨hother t ht hd hne, hf⟩

/-- A step of a writer task that puts nothing on the socket. -/
theorem DeliveryInv.put_quiet {s' : Subscriber E} {holder' : ℕ → Option ℕ} {move : WriterMove}
    (hmove : move ≠ .finishWrite) (hdist : (w.put s').Distinct)
    (hput : (w.put s').HoldsDelivering final latest holder' w.log) :
    DeliveryInv final { w.put s' with log := w.log ++ (s.delivers move).map fun line =>
      ⟨s.task, s.writerId, s.kind, line⟩ } := by
  rw [delivers_eq_nil hmove s, map_nil, append_nil]
  exact ⟨hdist, h.spawned, h.grouped, latest, holder', hput.registered, hput.left⟩

/-- The step that completes the write of a line. -/
theorem DeliveryInv.put_settle {line : EventLine E} (hs : s ∈ w.all) (hp : s.phase = .writing line)
    (hdist : Distinct { w.put (s.settle line) with
      log := w.log ++ [⟨s.task, s.writerId, s.kind, line⟩] }) :
    DeliveryInv final { w.put (s.settle line) with
      log := w.log ++ [⟨s.task, s.writerId, s.kind, line⟩] } := by
  obtain ⟨latest, holder, hh⟩ := h.subscribers
  have hwriting : s.isWriting = true := by rw [isWriting, hp]
  have hself := HoldsDelivering.of_mem hh hs
  have hput : (w.put (s.settle line)).HoldsDelivering final latest holder
      (w.log ++ [⟨s.task, s.writerId, s.kind, line⟩]) := h.put hh hs rfl rfl
    (fun hd => hd.finish hp)
    (fun hsup => .inl (hsup.cancelled (by rw [isClosed, hp])))
    fun _ _ hd hne => hd.other hself hwriting hne line
  refine ⟨hdist, ?_, ?_, latest, holder, hput.registered, hput.left⟩
  · exact forall_mem_append.mpr
      ⟨h.spawned, forall_mem_singleton.mpr (h.distinct.lt_nextTask hs)⟩
  · -- nothing of a newer registration is on the socket while this one still writes
    refine pairwise_append.mpr ⟨h.grouped, pairwise_singleton _ _,
      fun c hc => forall_mem_singleton.mpr fun hcw hck => ?_⟩
    by_contra hlt
    cases hwriting.symm.trans (hself.overtaken c hc hcw hck (Nat.lt_of_not_le hlt)).2

variable {json : E → Option ℕ}

/-- A step of a writer task. -/
theorem deliveryInv_writer {w' : FanoutRun E} {task : ℕ} {move : WriterMove}
    (hstep : step json w (.writer task move) = some w') : w'.DeliveryInv final := by
  have hdist := distinct_step h.distinct hstep
  obtain ⟨s, s', hs, rfl, hw, hfree, rfl⟩ := writer_eq_some hstep
  obtain ⟨latest, holder, hh⟩ := h.subscribers
  cases hw with
  | @recv line rest hp hm =>
    exact h.put_quiet (by rintro ⟨⟩) hdist (h.put hh hs rfl rfl (fun hd => hd.recv hp hm)
      (fun hsup => .inl (hsup.cancelled (by rw [isClosed, hp]))) fun _ _ hd _ => hd)
  | abandon | fail =>
    refine h.put_quiet (by rintro ⟨⟩) hdist (h.put hh hs rfl rfl (fun hd => ?_)
      (fun _ => .inr rfl) fun _ _ hd _ => hd)
    exact hd.close.extend (fun hc => hc) [] rfl (append_nil _).symm
  | @start line hp hc =>
    refine h.put_quiet (by rintro ⟨⟩) hdist (h.put hh hs rfl rfl (fun hd => hd.start hp hc)
      (fun hsup => .inl (hsup.cancelled (by rw [isClosed, hp]))) fun t ht hd hne => ?_)
    refine { hd with locked := fun hwr => ?_ }
    -- nobody else writes to a free socket
    have hne' : t.writerId ≠ s.writerId := by
      intro heq
      have := all_eq_true.mp (hfree rfl) t ht
      rw [heq, hwr] at this
      simp at this
    rw [Function.update_of_ne hne']
    exact hd.locked hwr
  | @finish line hp =>
    have hlog : s.delivers .finishWrite = [line] := by simp [delivers, hp]
    rw [hlog, map_singleton] at hdist ⊢
    exact h.put_settle hs hp hdist
  | stop ha =>
    exact h.put_quiet (by rintro ⟨⟩) hdist (h.put hh hs rfl rfl (fun hd => hd.close)
      (fun _ => .inr rfl) fun _ _ hd _ => hd)

/-- **Every step keeps the delivery invariant**, as long as nobody registers
after the final event. -/
theorem deliveryInv_step {w' : FanoutRun E} {a : FanoutAction E}
    (hreg : ∀ kind writerId events, a = .register kind writerId events → final = false)
    (hstep : step json w a = some w') :
    w'.DeliveryInv (final || match a with | .deliverFinal _ => true | _ => false) := by
  have hdist := distinct_step h.distinct hstep
  cases a with
  | register kind writerId events =>
    obtain rfl := hreg kind writerId events rfl
    cases hstep
    obtain ⟨latest, holder, hh⟩ := holds_delivering_register json h kind writerId events
    exact ⟨hdist, fun d hd => Nat.lt_succ_of_lt (h.spawned d hd), h.grouped, latest, holder,
      hh.registered, hh.left⟩
  | enqueue line now =>
    obtain ⟨latest, holder, hh⟩ := h.subscribers
    cases hstep
    rw [Bool.or_false]
    refine ⟨hdist, h.spawned, h.grouped, latest, holder, holds_enqueue hh ?_ ?_ (fun _ hs => hs)⟩
    · rintro k s s' ⟨hk, hs⟩ hoff
      refine ⟨?_, hs.offer hoff⟩
      obtain ⟨-, ⟨-, rfl⟩ | ⟨-, rfl⟩ | ⟨-, -, rfl⟩⟩ := offer_eq_some hoff <;> exact hk
    · rintro k s ⟨-, hs⟩ hoff
      exact ⟨hs, fun _ => .inr (offer_eq_none hoff)⟩
  | resyncDrained events =>
    obtain ⟨latest, holder, hh⟩ := h.subscribers
    cases hstep
    rw [Bool.or_false]
    refine ⟨hdist, h.spawned, h.grouped, latest, holder,
      holds_resyncDrained hh (fun _ _ hs => hs) ?_ (fun _ hs => hs)⟩
    rintro k s lines hlines - ⟨hk, hs⟩
    refine ⟨?_, hs.resync hlines⟩
    obtain hr | ⟨-, -, -, hr⟩ := s.resync_cases hlines <;> rw [hr] <;> exact hk
  | deliverFinal event =>
    obtain ⟨latest, holder, hh⟩ := h.subscribers
    cases hstep
    rw [Bool.or_true]
    refine ⟨hdist, h.spawned, h.grouped, latest, holder,
      holds_deliverFinal hh (fun _ _ _ hs => hs) ?_ ?_⟩
    · rintro k s line - - ⟨-, hs⟩
      exact ⟨hs.takeFinal line, nofun⟩
    · rintro s ⟨hs, -⟩
      exact ⟨hs, nofun⟩
  | remove kind writerId =>
    cases hstep
    rw [Bool.or_false]
    exact deliveryInv_remove h kind writerId
  | removeWriterEverywhere writerId =>
    cases hstep
    rw [Bool.or_false, advance_removeWriterEverywhere]
    exact deliveryInv_remove (deliveryInv_remove h .attached writerId) .observer writerId
  | writer task move =>
    rw [Bool.or_false]
    exact deliveryInv_writer h hstep

omit h

end FanoutRun

end Kanna
