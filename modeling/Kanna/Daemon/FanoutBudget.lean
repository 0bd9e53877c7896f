import Kanna.Daemon.FanoutRun

/-!
# The memory bound of the fanout

`crates/daemon/src/fanout.rs` promises that a subscriber's queued bytes never
exceed `max(budget, one snapshot batch)`: live output respects the budget, and
the batches that are exempt only enter an empty mailbox. `Accounted` is that
promise for one subscriber, together with the correctness of the byte counter
it rests on.

There is a third way into a mailbox: `deliver_final` queues the exit event
without looking at the budget. `backlog_bounded_iff` says that the bound holds
along exactly the runs whose final events find room.
-/

namespace Kanna

universe u

variable {E : Type u}

namespace Subscriber

/-- The byte counter is right and the backlog is bounded. -/
structure Accounted (budget : ℕ) (s : Subscriber E) : Prop where
  /-- the counter is the length of what is in the mailbox or being written -/
  balance : s.isClosed = false → s.pendingBytes = EventLine.bytes s.backlog
  /-- it never exceeds the budget or the one exempt batch -/
  bound : s.pendingBytes ≤ max budget s.batch
  /-- which entered an empty mailbox -/
  exempt : s.batchIntoEmpty = true

variable {budget : ℕ} {s : Subscriber E}

open EventLine

variable {line : EventLine E}

/-- A line that fits keeps the account. -/
theorem accounted_accept (h : s.Accounted budget)
    (hfits : s.pendingBytes + line.len ≤ max budget s.batch) :
    (s.accept line).Accounted budget := by
  refine ⟨fun hopen => ?_, hfits, h.exempt⟩
  show s.pendingBytes + line.len = bytes (s.inHand ++ (s.mailbox ++ [line]))
  rw [h.balance hopen]
  simp [backlog, Nat.add_assoc]

/-- A batch into an empty mailbox keeps the account. -/
theorem accounted_acceptBatch (budget : ℕ) (hback : s.backlog = [])
    (hzero : s.pendingBytes = 0) (lines : List (EventLine E)) :
    (s.acceptBatch lines).Accounted budget := by
  have hnil : s.inHand = [] ∧ s.mailbox = [] := List.append_eq_nil_iff.mp hback
  refine ⟨fun _ => ?_, ?_, ?_⟩
  · show s.pendingBytes + bytes lines = bytes (s.inHand ++ (s.mailbox ++ lines))
    rw [hzero, hnil.1, hnil.2]
    simp
  · show s.pendingBytes + bytes lines ≤ max budget (bytes lines)
    omega
  · show s.backlog.isEmpty = true
    rw [hback]
    rfl

theorem accounted_offer {now : ℕ} {s' : Subscriber E}
    (h : s.Accounted budget) (hoff : (s.offer budget now line).1 = some s') :
    s'.Accounted budget := by
  obtain ⟨-, ⟨-, rfl⟩ | ⟨-, rfl⟩ | ⟨-, hfits, rfl⟩⟩ := offer_eq_some hoff
  · exact { h with }
  · exact { h with }
  · exact accounted_accept h (by omega)

theorem accounted_resync {lines : List (EventLine E)} (hlines : lines ≠ [])
    (h : s.Accounted budget) : (s.resync lines).Accounted budget := by
  obtain hs | ⟨hopen, -, hzero, hs⟩ := s.resync_cases hlines
  · rw [hs]
    exact h
  · rw [hs]
    have hnil : s.backlog = [] := eq_nil_of_bytes_eq_zero (by rw [← h.balance hopen, hzero])
    have hb := accounted_acceptBatch budget hnil hzero lines
    exact { hb with }

variable (h : s.Accounted budget)

include h

/-- The writer task gives a line back to the counter when it is done with it. -/
theorem accounted_settle (hhand : s.inHand = [line]) : (s.settle line).Accounted budget := by
  refine ⟨fun _ => ?_, Nat.le_trans (Nat.sub_le _ _) h.bound, h.exempt⟩
  have hopen : s.isClosed = false := by
    unfold inHand at hhand
    unfold isClosed
    split at hhand <;> simp_all
  show s.pendingBytes - line.len = bytes ([] ++ s.mailbox)
  rw [h.balance hopen, backlog, hhand]
  simp

theorem accounted_close : s.close.Accounted budget :=
  ⟨nofun, h.bound, h.exempt⟩

theorem accounted_writes {s' : Subscriber E} {m : WriterMove} (hw : s.Writes m s') :
    s'.Accounted budget := by
  cases hw with
  | @recv line rest hp hm =>
    refine ⟨fun _ => ?_, h.bound, h.exempt⟩
    rw [h.balance (by simp [isClosed, hp]), backlog, inHand, hp, hm]
    rfl
  | abandon hp | fail hp => exact accounted_close (accounted_settle h (by simp [inHand, hp]))
  | @start line hp hc =>
    refine ⟨fun _ => ?_, h.bound, h.exempt⟩
    show s.pendingBytes = bytes ([line] ++ s.mailbox)
    rw [h.balance (by simp [isClosed, hp]), backlog, inHand, hp]
  | finish hp => exact accounted_settle h (by simp [inHand, hp])
  | stop _ => exact accounted_close h

end Subscriber

namespace FanoutRun

open Subscriber

/-- The promise, for every registration whose writer task may run. -/
def BacklogBounded (w : FanoutRun E) : Prop := ∀ s ∈ w.all, s.Accounted w.state.budget

/-- A final event finds room with every subscriber that takes it. -/
def FinalFits (json : E → Option ℕ) (w : FanoutRun E) : FanoutAction E → Prop
  | .deliverFinal event => ∀ line, EventLine.serialize json event = some line →
      ∀ kind, ∀ s ∈ w.state.list kind, s.laggedSince = none → s.isClosed = false →
        s.pendingBytes + line.len ≤ max w.state.budget s.batch
  | _ => True

theorem backlogBounded_iff_holds (w : FanoutRun E) :
    w.BacklogBounded ↔ w.Holds (fun _ => Accounted w.state.budget) (Accounted w.state.budget) := by
  refine ⟨fun h => ⟨fun k s hs => ?_, fun s hs => ?_⟩, fun h s hs => ?_⟩
  · exact h s (mem_all.mpr (.inl ⟨k, hs⟩))
  · exact h s (mem_all.mpr (.inr hs))
  · obtain ⟨k, hs⟩ | hs := mem_all.mp hs
    · exact h.registered k s hs
    · exact h.left s hs

/-- What every step keeps: tasks are told apart and the promise holds. -/
structure BudgetInv (w : FanoutRun E) : Prop where
  /-- tasks are told apart -/
  distinct : w.Distinct
  /-- the promise -/
  bounded : w.BacklogBounded

theorem budgetInv_new (budget : ℕ) : (new budget : FanoutRun E).BudgetInv :=
  ⟨distinct_new budget, fun _ hs => absurd hs List.not_mem_nil⟩

variable {w w' : FanoutRun E} {json : E → Option ℕ} {a : FanoutAction E}

theorem budget_step (hstep : step json w a = some w') : w'.state.budget = w.state.budget := by
  cases a with
  | register kind | remove kind =>
    cases hstep
    cases kind <;> rfl
  | resyncDrained events =>
    cases hstep
    simp only [advance, FanoutState.resyncDrained]
    split <;> rfl
  | deliverFinal event =>
    cases hstep
    simp only [advance, FanoutState.deliverFinal]
    split <;> rfl
  | writer task move =>
    obtain ⟨_, _, -, -, -, -, rfl⟩ := writer_eq_some hstep
    rfl
  | _ =>
    cases hstep
    rfl

theorem accounted_remove {budget : ℕ} (h : w.Holds (fun _ => Accounted budget) (Accounted budget))
    (kind : SubscriberKind) (writerId : ℕ) :
    (w.advance (w.state.remove kind writerId)).Holds (fun _ => Accounted budget)
      (Accounted budget) :=
  holds_remove h (fun _ _ hs _ => hs) (fun _ hs _ => { hs with }) (fun _ hs => hs)

theorem budgetInv_step (h : w.BudgetInv) (hG : w.FinalFits json a)
    (hstep : step json w a = some w') : w'.BudgetInv := by
  refine ⟨distinct_step h.distinct hstep, ?_⟩
  have hb := (backlogBounded_iff_holds w).mp h.bounded
  rw [backlogBounded_iff_holds, budget_step hstep]
  cases a with
  | register kind writerId events =>
    cases hstep
    have hnew : Accounted w.state.budget
        (FanoutState.registration json w.nextTask writerId kind events) := by
      rw [FanoutState.registration_eq]
      exact accounted_acceptBatch _ rfl rfl _
    have hregister := holds_register hb (fun _ _ hs _ => hs) (fun _ hs _ => { hs with })
      (fun _ hs => hs) hnew
    exact ⟨hregister.registered, hregister.left⟩
  | enqueue line now =>
    cases hstep
    exact holds_enqueue hb (fun _ _ _ hs hoff => accounted_offer hs hoff) (fun _ _ hs _ => hs)
      (fun _ hs => hs)
  | resyncDrained events =>
    cases hstep
    exact holds_resyncDrained hb (fun _ _ hs => hs)
      (fun _ _ _ hlines _ hs => accounted_resync hlines hs) (fun _ hs => hs)
  | deliverFinal event =>
    cases hstep
    refine holds_deliverFinal hb (fun _ _ _ hs => hs) (fun k s line hs hl hacc => ?_)
      (fun _ hs => hs)
    obtain hs' | ⟨hopen, hlag, hs'⟩ := s.takeFinal_cases line
    · rw [hs']
      exact { hacc with }
    · rw [hs']
      exact accounted_accept hacc (hG line hl k s hs hlag hopen)
  | remove kind writerId =>
    cases hstep
    exact accounted_remove hb kind writerId
  | removeWriterEverywhere writerId =>
    cases hstep
    rw [advance_removeWriterEverywhere]
    exact accounted_remove (accounted_remove hb .attached writerId) .observer writerId
  | writer task move =>
    obtain ⟨s, s', hs, -, hw, -, rfl⟩ := writer_eq_some hstep
    have hput := holds_put h.distinct hb hs hw.task_eq
      (fun _ hacc => accounted_writes hacc hw) (fun hacc => accounted_writes hacc hw)
      (fun _ _ ht _ => ht) (fun _ ht _ => ht)
    exact ⟨hput.registered, hput.left⟩

/-- A final event without room breaks the bound. -/
theorem not_bounded_of_final (hG : ¬ w.FinalFits json a) :
    ∃ w', step json w a = some w' ∧ ¬ w'.BacklogBounded := by
  cases a with
  | deliverFinal event =>
    simp only [FinalFits, not_forall] at hG
    obtain ⟨line, hl, k, s, hs, hlag, hopen, hover⟩ := hG
    refine ⟨_, rfl, fun hbad => hover ?_⟩
    have hfinal : s.takeFinal line = s.accept line := by
      simp [takeFinal, enqueue, hlag, hopen]
    have heq : w.state.deliverFinal json event = ({ w.state with attached := [], observers := [] },
        (w.state.attached ++ w.state.observers).map (takeFinal line)) := by
      rw [FanoutState.deliverFinal, hl]
    rw [heq] at hbad
    have hmem : s ∈ w.state.attached ++ w.state.observers := by
      cases k with
      | attached => exact List.mem_append_left _ hs
      | observer => exact List.mem_append_right _ hs
    have := hbad (s.accept line) (mem_all.mpr (.inr (List.mem_append_right _
      (List.mem_map.mpr ⟨s, hmem, hfinal⟩))))
    exact this.bound
  | _ => exact absurd trivial hG

/-- **The memory bound of the fanout**. For every interleaving of registry
operations with the writer tasks, from an empty registry with any budget: every
subscriber's byte counter is the length of its backlog and stays within
`max(budget, batch)` in every state reached, if and only if every final event
finds room with the subscribers that take it. -/
theorem backlog_bounded_iff (json : E → Option ℕ) (budget : ℕ) (as : List (FanoutAction E)) :
    Always (step json) BacklogBounded (new budget) as ↔
      Meets (step json) (FinalFits json) (new budget) as :=
  always_iff_meets BudgetInv.bounded budgetInv_step (fun _ => not_bounded_of_final)
    (budgetInv_new budget)

/-- The source does not make sure of that: an observer's mailbox is filled to the
budget (here by one line) and the session exits before the writer task gets to
run. Events are given by the length of their JSON. -/
theorem final_event_exceeds_budget :
    ¬ Always (step some) BacklogBounded (new subscriberMailboxMaxBytes)
      [.register .observer 1 [], .enqueue ⟨8388607, 8388607⟩ 0, .deliverFinal 60] := by
  intro h
  have hlast : run (step some) (new subscriberMailboxMaxBytes)
      [.register .observer 1 [], .enqueue ⟨8388607, 8388607⟩ 0, .deliverFinal 60] =
      some {
        state := ⟨8388608, [], []⟩
        detached := [((fresh 0 1 .observer).accept ⟨8388607, 8388607⟩).accept ⟨60, 60⟩]
        nextTask := 1
        log := [] } := by decide
  have hbound := (h.last hlast _ List.mem_cons_self).bound
  exact absurd hbound (by decide)

end FanoutRun

end Kanna
