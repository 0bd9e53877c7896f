import Kanna.Lib.Run
import Kanna.Daemon.Fanout

/-!
# The lag handshake

`crates/daemon/src/fanout.rs` at the grain of single atomic accesses. The lag flag
and the byte counter of a subscriber are shared between the fanout, which holds
the session's lock, and the subscriber's writer task.

* `LagState` — one subscriber with both parties, `LagState.step` one atomic access
  of either.
* `offer_uninterrupted`, `resync_uninterrupted` — an operation of the fanout that
  nobody interrupts is the one `Subscriber` has as a single step.
* `Account` — in every state the counter counts the mailbox and what either party
  has in hand.
-/

namespace Kanna

universe u

/-- What remains to be done once a line is enqueued. -/
inductive AfterLine (E : Type u) : Type u where
  /-- a live line: nothing -/
  | live
  /-- the remaining initial events of a registration -/
  | initial (rest : List (EventLine E))
  /-- the remaining events of a resync -/
  | resync (rest : List (EventLine E))

/-- Where the fanout stands with this subscriber. -/
inductive FanPhase (E : Type u) : Type u where
  /-- not dealing with it -/
  | idle
  /-- `enqueue_to_list`, lagged already: about to read the counter -/
  | checkLagged
  /-- `enqueue_to_list`: about to read the counter -/
  | loadPending (line : EventLine E)
  /-- `lagged_since` is set; about to set the flag -/
  | storeLagged
  /-- the flag is set; about to read the counter -/
  | checkDrained
  /-- `Subscriber::enqueue`: about to raise the counter -/
  | adding (line : EventLine E) (after : AfterLine E)
  /-- the counter is raised; about to send -/
  | sending (line : EventLine E) (after : AfterLine E)
  /-- the send failed; about to lower the counter again -/
  | restoring (line : EventLine E) (after : AfterLine E)
  /-- `resync_drained`: `lagged_since` is cleared; about to clear the flag -/
  | clearing

/-- Where the writer task stands; `ok` says whether its last write succeeded. -/
inductive WakePhase (E : Type u) : Type u where
  /-- about to receive -/
  | idle
  /-- holds a line and waits for the socket -/
  | holding (line : EventLine E)
  /-- writes a line -/
  | writing (line : EventLine E)
  /-- lowered the counter to zero; about to read the flag -/
  | drained (ok : Bool)
  /-- saw the flag; about to notify -/
  | notifying (ok : Bool)
  /-- the task is over and the mailbox is gone -/
  | ended

/-- The line the fanout has counted but not yet sent. -/
def FanPhase.hand {E : Type u} : FanPhase E → List (EventLine E)
  | .sending line _ | .restoring line _ => [line]
  | _ => []

/-- The fanout is marking the subscriber as lagged. -/
def FanPhase.marking {E : Type u} : FanPhase E → Bool
  | .storeLagged | .checkDrained => true
  | _ => false

/-- The fanout is resyncing the subscriber. -/
def FanPhase.resyncing {E : Type u} : FanPhase E → Bool
  | .adding _ (.resync _) | .sending _ (.resync _) | .restoring _ (.resync _) => true
  | _ => false

/-- The fanout is dealing with a subscriber that does not lag. -/
def FanPhase.serving {E : Type u} : FanPhase E → Bool
  | .loadPending _ | .clearing => true
  | .adding _ (.resync _) | .sending _ (.resync _) | .restoring _ (.resync _) => false
  | .adding .. | .sending .. | .restoring .. => true
  | _ => false

/-- The line the writer task has received and not yet given back. -/
def WakePhase.hand {E : Type u} : WakePhase E → List (EventLine E)
  | .holding line | .writing line => [line]
  | _ => []

/-- The writer task has drained the backlog and is about to say so. -/
def WakePhase.alerting {E : Type u} : WakePhase E → Bool
  | .drained _ | .notifying _ => true
  | _ => false

/-- The writer task is over. -/
def WakePhase.isEnded {E : Type u} : WakePhase E → Bool
  | .ended => true
  | _ => false

/-- One subscriber, shared by the fanout and its writer task. The last three fields
are history, counted from the moment the subscriber was last found lagging. -/
structure LagState (E : Type u) : Type u where
  /-- byte budget -/
  budget : ℕ
  /-- the subscriber is in the registry -/
  registered : Bool
  /-- its registration was cancelled -/
  cancelled : Bool
  /-- `lagged_since.is_some()` -/
  laggedSince : Bool
  /-- the shared flag -/
  lagged : Bool
  /-- the shared counter -/
  pendingBytes : ℕ
  /-- the shared mailbox -/
  mailbox : List (EventLine E)
  /-- where the fanout stands -/
  fan : FanPhase E
  /-- where the writer task stands -/
  writer : WakePhase E
  /-- the enqueue that found it lagging reported `resync_ready` -/
  reported : Bool
  /-- the writer task notified the session reader -/
  notified : Bool
  /-- it did so with the backlog drained -/
  notifiedDrained : Bool

variable {E : Type u}

namespace LagState

/-- A registration under construction: its writer task is spawned, its initial
events are about to be enqueued. -/
def new (budget : ℕ) (initialEvents : List (EventLine E)) : LagState E where
  budget := budget
  registered := true
  cancelled := false
  laggedSince := false
  lagged := false
  pendingBytes := 0
  mailbox := []
  fan :=
    match initialEvents with
    | [] => .idle
    | line :: rest => .adding line (.initial rest)
  writer := .idle
  reported := false
  notified := false
  notifiedDrained := false

/-! ## The fanout -/

variable (w : LagState E)

/-- A line was enqueued. -/
def enqueued : AfterLine E → LagState E
  | .live => { w with fan := .idle }
  | .initial [] => { w with fan := .idle }
  | .initial (line :: rest) => { w with fan := .adding line (.initial rest) }
  | .resync [] => { w with fan := .clearing, laggedSince := false }
  | .resync (line :: rest) => { w with fan := .adding line (.resync rest) }

/-- A line could not be enqueued: `enqueue_to_list` drops the subscriber, `register`
goes on, `resync_drained` gives up. -/
def refused : AfterLine E → LagState E
  | .live => { w with fan := .idle, registered := false }
  | .initial [] => { w with fan := .idle }
  | .initial (line :: rest) => { w with fan := .adding line (.initial rest) }
  | .resync _ => { w with fan := .idle }

/-- The next atomic access of the operation under way. -/
def fanStep : Option (LagState E) :=
  match w.fan with
  | .idle => none
  | .checkLagged => some { w with fan := .idle }
  | .loadPending line =>
    if w.budget < w.pendingBytes + line.len then
      some { w with
        fan := .storeLagged
        laggedSince := true
        reported := false
        notified := false
        notifiedDrained := false }
    else some { w with fan := .adding line .live }
  | .storeLagged => some { w with fan := .checkDrained, lagged := true }
  | .checkDrained => some { w with fan := .idle, reported := w.pendingBytes == 0 }
  | .adding line after =>
    some { w with fan := .sending line after, pendingBytes := w.pendingBytes + line.len }
  | .sending line after =>
    if w.writer.isEnded then some { w with fan := .restoring line after }
    else some ({ w with mailbox := w.mailbox ++ [line] }.enqueued after)
  | .restoring line after =>
    some ({ w with pendingBytes := w.pendingBytes - line.len }.refused after)
  | .clearing => some { w with fan := .idle, lagged := false }

/-- The fanout is free to start an operation on a registered subscriber. -/
def free : Bool :=
  match w.fan with
  | .idle => w.registered
  | _ => false

/-- `enqueue_to_list` comes to this subscriber. -/
def offer (line : EventLine E) : LagState E :=
  if w.writer.isEnded then { w with registered := false }
  else if w.laggedSince then { w with fan := .checkLagged }
  else { w with fan := .loadPending line }

/-- `resync_drained` comes to this subscriber. -/
def resync (line : EventLine E) (rest : List (EventLine E)) : LagState E :=
  if w.laggedSince && w.pendingBytes == 0 then { w with fan := .adding line (.resync rest) } else w

/-! ## The writer task -/

/-- The loop goes on after a write, or ends with its error. -/
def goOn (ok : Bool) : LagState E :=
  if ok then { w with writer := .idle } else { w with writer := .ended, mailbox := [] }

@[simp] theorem goOn_notifiedDrained (ok : Bool) :
    (w.goOn ok).notifiedDrained = w.notifiedDrained := by
  cases ok <;> rfl

/-- The next atomic access of the writer task; `ok` is how the write ended. -/
def writerStep (ok : Bool) : Option (LagState E) :=
  match w.writer with
  | .idle =>
    match w.mailbox with
    | [] => none
    | line :: rest => some { w with writer := .holding line, mailbox := rest }
  | .holding line =>
    if w.cancelled then
      some { w with
        writer := .ended
        mailbox := []
        pendingBytes := w.pendingBytes - line.len }
    else some { w with writer := .writing line }
  | .writing line =>
    let after := { w with pendingBytes := w.pendingBytes - line.len }
    if w.pendingBytes = line.len then some { after with writer := .drained ok }
    else some (after.goOn ok)
  | .drained ok => if w.lagged then some { w with writer := .notifying ok } else some (w.goOn ok)
  | .notifying ok =>
    some ({ w with
      notified := true
      notifiedDrained := w.notifiedDrained || w.pendingBytes == 0 }.goOn ok)
  | .ended => none

/-- The atomic steps of the two parties. -/
inductive WakeAction (E : Type u) : Type u where
  /-- the fanout goes on with what it is doing -/
  | fan
  /-- an enqueue comes to this subscriber -/
  | offer (line : EventLine E)
  /-- a resync attempt of the session reader comes to this subscriber -/
  | resync (line : EventLine E) (rest : List (EventLine E))
  /-- the registration is removed; `cancel` unless the final event takes it out -/
  | remove (cancel : Bool)
  /-- the writer task goes on -/
  | writer (ok : Bool)
  /-- the writer task of a removed registration is aborted -/
  | abort

/-- The interleaving semantics. Operations of the fanout exclude each other. -/
def step : WakeAction E → Option (LagState E)
  | .fan => w.fanStep
  | .offer line => if w.free then some (w.offer line) else none
  | .resync line rest => if w.free then some (w.resync line rest) else none
  | .remove cancel =>
    if w.free then some { w with registered := false, cancelled := cancel } else none
  | .writer ok => w.writerStep ok
  | .abort =>
    if w.registered then none else some { w with writer := .ended, mailbox := [] }

/-! ## Uninterrupted operations

An operation of the fanout during which the writer task does not move is the one
that `Subscriber` has as a single step. -/

/-- Both models describe the same subscriber, between two operations. -/
structure Agrees (w : LagState E) (s : Subscriber E) : Prop where
  /-- the subscriber is in the registry -/
  registered : w.registered = true
  /-- no operation is under way -/
  fan : w.fan = .idle
  laggedSince : w.laggedSince = s.laggedSince.isSome
  lagged : w.lagged = s.lagged
  pendingBytes : w.pendingBytes = s.pendingBytes
  mailbox : w.mailbox = s.mailbox
  closed : w.writer.isEnded = s.isClosed

variable {w w' : LagState E} {s : Subscriber E}

theorem Agrees.free (h : w.Agrees s) : w.free = true := by
  rw [LagState.free, h.fan]
  exact h.registered

/-- **`enqueue_to_list` without interference** does to the subscriber what
`Subscriber.offer` does. -/
theorem offer_uninterrupted (h : w.Agrees s) (now : ℕ) (line : EventLine E) :
    ∃ n w', run step w (.offer line :: List.replicate n .fan) = some w' ∧
      match (s.offer w.budget now line).1 with
      | some s' => w'.Agrees s'
      | none => w'.registered = false := by
  have hfree := h.free
  by_cases hc : s.isClosed = true
  · refine ⟨0, { w with registered := false }, ?_, ?_⟩
    · simp [run, step, hfree, LagState.offer, h.closed.trans hc]
    · rw [Subscriber.offer, if_pos hc]
  have hopen : ¬ w.writer.isEnded = true := h.closed ▸ hc
  by_cases hl : s.laggedSince.isSome = true
  · refine ⟨1, { w with fan := .idle }, ?_, ?_⟩
    · simp [run, step, hfree, LagState.offer, hopen, h.laggedSince.trans hl, fanStep]
    · rw [Subscriber.offer, if_neg hc, if_pos hl]
      exact { h with fan := rfl }
  have hsince : ¬ w.laggedSince = true := h.laggedSince ▸ hl
  by_cases hb : w.budget < s.pendingBytes + line.len
  · refine ⟨3, { w with
        fan := .idle
        laggedSince := true
        lagged := true
        reported := w.pendingBytes == 0
        notified := false
        notifiedDrained := false }, ?_, ?_⟩
    · simp [List.replicate, run, step, hfree, LagState.offer, hopen, hsince, fanStep,
        h.pendingBytes, hb]
    · rw [Subscriber.offer, if_neg hc, if_neg hl, if_pos hb]
      exact { h with fan := rfl, laggedSince := rfl, lagged := rfl }
  · refine ⟨3, { w with
        fan := .idle
        pendingBytes := w.pendingBytes + line.len
        mailbox := w.mailbox ++ [line] }, ?_, ?_⟩
    · simp [List.replicate, run, step, hfree, LagState.offer, hopen, hsince, fanStep,
        h.pendingBytes, hb, enqueued]
    · rw [Subscriber.offer, if_neg hc, if_neg hl, if_neg hb, Subscriber.enqueue, if_neg hc]
      exact { h with
        fan := rfl
        pendingBytes := congrArg (· + line.len) h.pendingBytes
        mailbox := congrArg (· ++ [line]) h.mailbox }

/-- A line for a new subscriber. -/
theorem offer_uninterrupted_fresh : ∃ n w',
    run step (new 9 []) (.offer ⟨(), 4⟩ :: List.replicate n .fan) = some w' ∧
      w'.Agrees ((Subscriber.fresh 0 0 .attached).accept ⟨(), 4⟩) :=
  offer_uninterrupted (s := .fresh 0 0 .attached) ⟨rfl, rfl, rfl, rfl, rfl, rfl, rfl⟩ 0 ⟨(), 4⟩

open EventLine

/-- The events of a resync go into the mailbox one after the other. -/
theorem run_resync (hopen : w.writer.isEnded = false) (line : EventLine E)
    (rest : List (EventLine E)) (hfan : w.fan = .adding line (.resync rest)) :
    ∃ n, run step w (List.replicate n .fan) = some { w with
      fan := .idle
      laggedSince := false
      lagged := false
      pendingBytes := w.pendingBytes + bytes (line :: rest)
      mailbox := w.mailbox ++ (line :: rest) } := by
  have hopen' : ¬ w.writer.isEnded = true := by rw [hopen]; exact Bool.false_ne_true
  induction rest generalizing w line with
  | nil =>
    refine ⟨3, ?_⟩
    simp [List.replicate, run, step, fanStep, hfan, hopen, enqueued]
  | cons next rest ih =>
    obtain ⟨n, hn⟩ := @ih { w with
      fan := .adding next (.resync rest)
      pendingBytes := w.pendingBytes + line.len
      mailbox := w.mailbox ++ [line] } hopen next rfl hopen'
    refine ⟨n + 2, ?_⟩
    simp only [List.replicate, run, step, fanStep, hfan, Option.bind_some, if_neg hopen', enqueued]
    rw [hn]
    simp [Nat.add_assoc]

/-- **`resync_drained` without interference** does to a subscriber whose writer task
runs what `Subscriber.resync` does. -/
theorem resync_uninterrupted (h : w.Agrees s)
    (hopen : s.isClosed = false) (line : EventLine E) (rest : List (EventLine E)) :
    ∃ n w', run step w (.resync line rest :: List.replicate n .fan) = some w' ∧
      w'.Agrees (s.resync (line :: rest)) := by
  rw [Subscriber.resync, ← h.laggedSince, ← h.pendingBytes]
  by_cases hready : (w.laggedSince && w.pendingBytes == 0) = true
  · obtain ⟨n, hn⟩ := @run_resync E { w with fan := .adding line (.resync rest) }
      (h.closed.trans hopen) line rest rfl
    have hstep : w.step (.resync line rest) =
        some { w with fan := .adding line (.resync rest) } := by
      rw [step, if_pos h.free, LagState.resync, if_pos hready]
    refine ⟨n, _, (congrArg (Option.bind · _) hstep).trans hn, ?_⟩
    rw [if_pos hready, Subscriber.enqueueBatch_eq hopen]
    exact { h with
      fan := rfl
      laggedSince := rfl
      lagged := rfl
      pendingBytes := congrArg (· + bytes (line :: rest)) h.pendingBytes
      mailbox := congrArg (· ++ (line :: rest)) h.mailbox }
  · refine ⟨0, w, ?_, ?_⟩
    · simp only [run, step, if_pos h.free, LagState.resync, if_neg hready, List.replicate,
        Option.bind_some]
    · rw [if_neg hready]
      exact h

/-- A subscriber that fell behind with an empty mailbox. -/
theorem resync_uninterrupted_fallBehind : ∃ n w',
    run step { new 9 [] with laggedSince := true, lagged := true }
        (.resync ⟨(), 4⟩ [] :: List.replicate n .fan) = some w' ∧
      w'.Agrees (((Subscriber.fresh 0 0 .attached).fallBehind 1).resync [⟨(), 4⟩]) :=
  resync_uninterrupted ⟨rfl, rfl, rfl, rfl, rfl, rfl, rfl⟩ rfl ⟨(), 4⟩ []

/-! ## The account -/

/-- The counter is right. -/
structure Account (w : LagState E) : Prop where
  /-- it counts the mailbox and both hands -/
  balance : w.writer.isEnded = false → w.pendingBytes =
    EventLine.bytes w.mailbox + EventLine.bytes w.writer.hand + EventLine.bytes w.fan.hand
  /-- even when the mailbox is gone it covers the fanout's line -/
  cover : EventLine.bytes w.fan.hand ≤ w.pendingBytes
  /-- only a closed mailbox refuses a line -/
  refusal : ∀ line after, w.fan = .restoring line after → w.writer.isEnded = true

/-- Steps of the fanout that leave the counter and the mailbox alone. -/
theorem Account.refan (h : w.Account) {before fan : FanPhase E}
    {laggedSince lagged reported notified notifiedDrained : Bool} (hbefore : w.fan = before)
    (hhand : fan.hand = before.hand) (hfan : ∀ line after, fan ≠ .restoring line after) :
    ({ w with laggedSince, lagged, fan, reported, notified, notifiedDrained }).Account := by
  subst hbefore
  refine ⟨fun hopen => ?_, ?_, fun line after hr => absurd hr (hfan line after)⟩
  · rw [hhand]
    exact h.balance hopen
  · rw [hhand]
    exact h.cover

variable {line : EventLine E}

/-- A line that was sent is in the mailbox now. -/
theorem account_enqueued (h : w.Account)
    {after : AfterLine E} (hfan : w.fan = .sending line after) (hopen : w.writer.isEnded = false) :
    ({ w with mailbox := w.mailbox ++ [line] }.enqueued after).Account := by
  have hbal := h.balance hopen
  rw [hfan] at hbal
  have hsent : w.pendingBytes = bytes (w.mailbox ++ [line]) +
      bytes w.writer.hand + bytes ([] : List (EventLine E)) := by
    rw [hbal, bytes_append, FanPhase.hand, bytes_nil]
    omega
  rcases after with _ | (_ | ⟨next, rest⟩) | (_ | ⟨next, rest⟩) <;>
    exact ⟨fun _ => hsent, Nat.zero_le _, nofun⟩

/-- A refused line is given back; the mailbox is gone. -/
theorem account_refused (h : w.Account)
    {after : AfterLine E} (hfan : w.fan = .restoring line after) :
    ({ w with pendingBytes := w.pendingBytes - line.len }.refused after).Account := by
  have hended : w.writer.isEnded = true := h.refusal line after hfan
  have hnot : w.writer.isEnded = false → ∀ {P : Prop}, P := fun hopen => by
    rw [hended] at hopen
    cases hopen
  rcases after with _ | (_ | ⟨next, rest⟩) | _ <;>
    exact ⟨fun hopen => hnot hopen, Nat.zero_le _, nofun⟩

/-- The writer task is over: only the fanout's line remains on the account. -/
theorem account_ended (hended : w.writer = .ended)
    (hcover : bytes w.fan.hand ≤ w.pendingBytes) : w.Account := by
  refine ⟨fun hopen => ?_, hcover, fun _ _ _ => by rw [hended]; rfl⟩
  rw [hended] at hopen
  cases hopen

variable (h : w.Account)

include h

/-- While the writer task runs, no line is refused. -/
theorem Account.not_restoring (hopen : w.writer.isEnded = false)
    (line : EventLine E) (after : AfterLine E) : w.fan ≠ .restoring line after :=
  fun hr => Bool.false_ne_true (hopen.symm.trans (h.refusal line after hr))

variable {writer : WakePhase E}

/-- The writer task moves on with what it has. -/
theorem Account.moveOn {mailbox : List (EventLine E)} (hopen : w.writer.isEnded = false)
    (hlines : bytes mailbox + bytes writer.hand = bytes w.mailbox + bytes w.writer.hand) :
    ({ w with writer, mailbox }).Account := by
  refine ⟨fun _ => ?_, h.cover, fun line after hr => absurd hr (h.not_restoring hopen line after)⟩
  rw [h.balance hopen, hlines]

theorem account_goOn (hhand : w.writer.hand = [])
    (hopen : w.writer.isEnded = false) (ok : Bool) : (w.goOn ok).Account := by
  cases ok with
  | true => exact h.moveOn hopen (by rw [hhand]; rfl)
  | false => exact account_ended rfl h.cover

/-- The line in the writer task's hand is on the account. -/
theorem Account.line_le (line : EventLine E)
    (hopen : w.writer.isEnded = false) (hhand : w.writer.hand = [line]) :
    line.len + bytes w.fan.hand ≤ w.pendingBytes := by
  have hbal := h.balance hopen
  rw [hhand, bytes_cons] at hbal
  omega

/-- A line is off the account once it is written. -/
theorem Account.settle (hopen : w.writer.isEnded = false) (hhand : w.writer.hand = [line])
    (hempty : writer.hand = []) :
    ({ w with pendingBytes := w.pendingBytes - line.len, writer }).Account := by
  have hbal := h.balance hopen
  rw [hhand, bytes_cons, bytes_nil] at hbal
  refine ⟨fun _ => ?_, ?_, fun l after hr => absurd hr (h.not_restoring hopen l after)⟩
  · rw [hempty, bytes_nil]
    dsimp only
    omega
  · dsimp only
    omega

omit h

end LagState

end Kanna
