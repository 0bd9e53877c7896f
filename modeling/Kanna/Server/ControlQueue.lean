import Kanna.Lib.Coalesce
import Kanna.Daemon.SessionSize

/-!
# The terminal control queue

`crates/kanna-server/src/ksp.rs`: a connection's terminal commands go to the
task that talks to the daemon through a bounded channel for *ordered* commands
(input, takeover, release) and a latest-value slot for *geometry* (resize,
register). An ordered command takes the slot's content along as its
`preceding_geometry`, both under the slot's mutex, so that later geometry cannot
overtake it.

One sender, one receiver. Each channel operation and each critical section of
the slot's mutex is one step; `take_ready` consists of up to three: poll the
channel, look at the slot, take the slot. The sender may run between any two.

`control_in_order_iff` says exactly when what comes out is what went in: the
receiver must never take the slot while an ordered command waits in the channel.
-/

namespace Kanna

/-- What terminal input is for. -/
inductive TerminalInputKind where
  /-- typed into the composer -/
  | draft
  /-- submits the composer -/
  | submission
  /-- control keys -/
  | control
  deriving DecidableEq

/-- A terminal command on its way to the daemon. -/
inductive TerminalControlCommand where
  /-- bytes for the PTY -/
  | input (data : List UInt8) (kind : TerminalInputKind)
  /-- the viewer measured a new grid -/
  | resize (cols rows : ℕ)
  /-- the viewer declares itself -/
  | register (viewerId : String) (role : TerminalViewerRole) (generation cols rows : ℕ)
      (visible : Bool)
  /-- the viewer takes control of the size -/
  | takeover
  /-- the viewer gives control back -/
  | release
  deriving DecidableEq

/-- Geometry is a latest value; everything else is ordered. -/
def TerminalControlCommand.isGeometry : TerminalControlCommand → Bool
  | .resize .. | .register .. => true
  | _ => false

/-- A command with the number it was sent under. -/
structure SequencedControl where
  /-- position in the order of sending -/
  sequence : ℕ
  /-- the command -/
  command : TerminalControlCommand
  deriving DecidableEq

/-- A command that geometry updates may replace. -/
def SequencedControl.Geometry (e : SequencedControl) : Prop := e.command.isGeometry = true

/-- An ordered command in the channel, with the latest geometry queued before
it. (Geometry itself never carries preceding geometry.) -/
structure QueuedTerminalControl where
  /-- the ordered command -/
  entry : SequencedControl
  /-- the geometry to deliver first -/
  precedingGeometry : Option SequencedControl
  deriving DecidableEq

/-- An ordered command as it is delivered: after its preceding geometry. -/
def QueuedTerminalControl.commands (item : QueuedTerminalControl) : List SequencedControl :=
  item.precedingGeometry.toList ++ [item.entry]

/-- Commands the channel holds before the sender is refused. -/
def terminalControlQueueCapacity : ℕ := 256

/-- Why a command was refused. -/
inductive TerminalControlSendError where
  /-- the channel is full -/
  | full
  /-- the receiver is gone -/
  | closed

/-- Where the receiver stands. -/
inductive ReceiverPhase where
  /-- about to poll the channel -/
  | idle
  /-- polled; about to look at the slot -/
  | scanning
  /-- saw geometry in the slot; about to take it -/
  | taking
  /-- nothing was ready; waiting on the channel and on the notification -/
  | waiting
  deriving DecidableEq

/-- The queue with its two ends. `accepted` and `delivered` record the history:
what `try_send` accepted and what `take_ready` returned. -/
structure TerminalControlQueue where
  /-- the number of the next command -/
  nextSequence : ℕ
  /-- ordered commands in the channel, oldest first -/
  channel : List QueuedTerminalControl
  /-- the latest-value slot -/
  geometry : Option SequencedControl
  /-- a stored notification that the slot was filled -/
  geometryReady : Bool
  /-- the sending half was dropped -/
  senderDropped : Bool
  /-- the receiving half was dropped -/
  receiverDropped : Bool
  /-- the ordered command the receiver holds -/
  pending : Option QueuedTerminalControl
  /-- the receiver saw the end of the channel -/
  closed : Bool
  /-- where the receiver stands -/
  phase : ReceiverPhase
  /-- commands accepted so far -/
  accepted : List SequencedControl
  /-- commands delivered so far -/
  delivered : List SequencedControl
  deriving DecidableEq

namespace TerminalControlQueue

/-- A fresh queue. -/
def new : TerminalControlQueue where
  nextSequence := 0
  channel := []
  geometry := none
  geometryReady := false
  senderDropped := false
  receiverDropped := false
  pending := none
  closed := false
  phase := .idle
  accepted := []
  delivered := []

/-! ## The two ends -/

variable (q : TerminalControlQueue)

/-- `TerminalControlQueue::try_send`. Geometry always fits; an ordered command
takes the slot's content along, and hands it back if the channel is full. -/
def trySend (command : TerminalControlCommand) :
    Except TerminalControlSendError Unit × TerminalControlQueue :=
  let sent : SequencedControl := ⟨q.nextSequence, command⟩
  let q := { q with nextSequence := q.nextSequence + 1 }
  if command.isGeometry then
    (.ok (), { q with
      geometry := some sent
      geometryReady := true
      accepted := q.accepted ++ [sent] })
  else if q.receiverDropped then
    (.error .closed, { q with geometry := none })
  else if terminalControlQueueCapacity ≤ q.channel.length then
    (.error .full, q)
  else
    (.ok (), { q with
      geometry := none
      channel := q.channel ++ [⟨sent, q.geometry⟩]
      accepted := q.accepted ++ [sent] })

/-- `take_ready` returns `e`. -/
def deliver (e : SequencedControl) : TerminalControlQueue :=
  { q with delivered := q.delivered ++ [e], phase := .idle }

/-- `take_ready` returns nothing: `recv` ends if the channel is closed, and waits
otherwise. -/
def nothingReady : TerminalControlQueue :=
  { q with phase := if q.closed then .idle else .waiting }

/-- The receiver's channel read at the head of `take_ready`. -/
def tryRecv : TerminalControlQueue :=
  if q.pending.isNone && !q.closed then
    match q.channel with
    | item :: rest => { q with pending := some item, channel := rest }
    | [] => if q.senderDropped then { q with closed := true } else q
  else q

/-- First step of `take_ready`: read the channel; a pending command's preceding
geometry goes out at once. -/
def poll : TerminalControlQueue :=
  let q := q.tryRecv
  match q.pending with
  | some ⟨entry, some g⟩ => { q with pending := some ⟨entry, none⟩ }.deliver g
  | _ => { q with phase := .scanning }

/-- Second step: look at the slot's number and decide. -/
def peek : TerminalControlQueue :=
  match q.pending, q.geometry.map SequencedControl.sequence with
  | none, none => q.nothingReady
  | some p, none => { q with pending := none }.deliver p.entry
  | none, some _ => { q with phase := .taking }
  | some p, some g =>
    if g < p.entry.sequence then { q with phase := .taking }
    else { q with pending := none }.deliver p.entry

/-- Third step: take the slot, whatever it holds by now. -/
def take : TerminalControlQueue :=
  match q.geometry with
  | some g => { q with geometry := none }.deliver g
  | none => q.nothingReady

/-- `recv` waiting on the channel: a command arrives, or the channel ends. -/
def recvChannel : Option TerminalControlQueue :=
  match q.channel with
  | item :: rest => some { q with pending := some item, channel := rest, phase := .idle }
  | [] => if q.senderDropped then some { q with closed := true, phase := .idle } else none

/-- The steps of the two ends. -/
inductive ControlAction where
  /-- one call of `try_send` -/
  | trySend (command : TerminalControlCommand)
  /-- the sending half goes away -/
  | dropSender
  /-- the receiving half goes away -/
  | dropReceiver
  /-- first step of `take_ready` -/
  | poll
  /-- second step of `take_ready` -/
  | peek
  /-- third step of `take_ready` -/
  | take
  /-- `recv` is woken by the channel -/
  | recvChannel
  /-- `recv` is woken by the notification -/
  | recvNotified
  /-- the waiting `recv` is dropped (or the caller polls `take_ready` again) -/
  | cancelRecv

/-- One step of the receiver, enabled in the given phase. -/
def receiving (phase : ReceiverPhase)
    (next : Option TerminalControlQueue) : Option TerminalControlQueue :=
  if q.receiverDropped = false ∧ q.phase = phase then next else none

/-- The interleaving semantics. -/
def step : ControlAction → Option TerminalControlQueue
  | .trySend command => if q.senderDropped then none else some (q.trySend command).2
  | .dropSender => some { q with senderDropped := true }
  | .dropReceiver => some { q with receiverDropped := true }
  | .poll => q.receiving .idle (some q.poll)
  | .peek => q.receiving .scanning (some q.peek)
  | .take => q.receiving .taking (some q.take)
  | .recvChannel => q.receiving .waiting q.recvChannel
  | .recvNotified =>
    q.receiving .waiting
      (if q.geometryReady then some { q with geometryReady := false, phase := .idle } else none)
  | .cancelRecv => q.receiving .waiting (some { q with phase := .idle })

/-! ## What the queue promises -/

/-- The accepted commands that are still on their way out, in order. -/
def inFlight : List SequencedControl :=
  (q.pending.toList ++ q.channel).flatMap QueuedTerminalControl.commands ++ q.geometry.toList

/-- **The queue's contract**. What came out is in the order it went in; whatever
was passed over by a delivery, and (as long as the receiver lives) whatever is
neither delivered nor still inside, is geometry directly followed by newer
geometry. -/
structure InOrder (q : TerminalControlQueue) : Prop where
  /-- deliveries are in send order, without repetition -/
  sublist : q.delivered.Sublist q.accepted
  /-- a command is only passed over for newer geometry -/
  passedOver : ∀ e ∈ q.accepted, (∃ d ∈ q.delivered, e.sequence < d.sequence) →
    e ∉ q.delivered → SupersededIn SequencedControl.Geometry q.accepted e
  /-- no command gets lost inside -/
  kept : q.receiverDropped = false → ∀ e ∈ q.accepted, e ∉ q.delivered → e ∉ q.inFlight →
    SupersededIn SequencedControl.Geometry q.accepted e

/-- The receiver takes the slot only while no ordered command waits in the
channel. -/
def NoOvertaking : ControlAction → Prop
  | .take => q.receiverDropped = false → q.phase = .taking → q.geometry ≠ none → q.channel = []
  | _ => True

/-- What the receiver holds in each phase: the preceding geometry is out before
it looks at the slot, and it takes the slot or waits with empty hands. -/
def HandsFor : ReceiverPhase → Option QueuedTerminalControl → Prop
  | .idle, _ => True
  | .scanning, pending => ∀ p ∈ pending, p.precedingGeometry = none
  | .taking, pending => pending = none
  | .waiting, pending => pending = none

/-- What every step without overtaking keeps. -/
structure Inv (q : TerminalControlQueue) : Prop where
  /-- sequence numbers are handed out in order -/
  ascending : q.accepted.Pairwise (fun d e => d.sequence < e.sequence)
  /-- and the next one is new -/
  below : ∀ e ∈ q.accepted, e.sequence < q.nextSequence
  /-- the slot holds geometry -/
  slot : ∀ g ∈ q.geometry, g.Geometry
  /-- the channel holds ordered commands -/
  ordered : ∀ item ∈ q.channel, ¬ item.entry.Geometry
  /-- the receiver's hands fit its phase -/
  hands : HandsFor q.phase q.pending
  /-- accepted commands are delivered, inside, or superseded, in that order -/
  inside : q.receiverDropped = false →
    Coalesced SequencedControl.Geometry q.accepted (q.delivered ++ q.inFlight)
  /-- the same without an account of the queue's content -/
  outside : ∃ rest, Coalesced SequencedControl.Geometry q.accepted (q.delivered ++ rest)

theorem inv_new : Inv new where
  ascending := List.Pairwise.nil
  below := nofun
  slot := nofun
  ordered := nofun
  hands := trivial
  inside := fun _ => Coalesced.nil
  outside := ⟨[], Coalesced.nil⟩

variable {q q' : TerminalControlQueue}

variable (h : Inv q)

include h

open List

theorem Inv.inOrder : InOrder q := by
  obtain ⟨rest, hc⟩ := h.outside
  refine ⟨(sublist_append_left _ _).trans hc.sublist, ?_, ?_⟩
  · intro e he hd hnot
    obtain ⟨d, hd, hlt⟩ := hd
    refine hc.superseded he ?_
    rw [mem_append, not_or]
    refine ⟨hnot, fun hrest => ?_⟩
    have := (pairwise_append.mp (h.ascending.sublist hc.sublist)).2.2 _ hd _ hrest
    omega
  · intro halive e he hdel hin
    exact (h.inside halive).superseded he (by simp [hdel, hin])

/-! ## The steps -/

variable (halive : q.receiverDropped = false)

include halive

/-- A step of the receiver only moves commands along: the invariant is kept if
what was delivered together with what is inside stays the same sequence. -/
theorem Inv.move (hhands : HandsFor q'.phase q'.pending)
    (hseq : q'.delivered ++ q'.inFlight = q.delivered ++ q.inFlight)
    (haccepted : q'.accepted = q.accepted := by rfl)
    (hnext : q'.nextSequence = q.nextSequence := by rfl)
    (hslot : ∀ g ∈ q'.geometry, g ∈ q.geometry := by exact fun _ hg => hg)
    (hchannel : ∀ i ∈ q'.channel, i ∈ q.channel := by exact fun _ hi => hi) : Inv q' := by
  have hc : Coalesced SequencedControl.Geometry q'.accepted (q'.delivered ++ q'.inFlight) := by
    rw [haccepted, hseq]
    exact h.inside halive
  refine ⟨?_, ?_, ?_, ?_, hhands, fun _ => hc, _, hc⟩
  · rw [haccepted]
    exact h.ascending
  · rw [haccepted, hnext]
    exact h.below
  · exact fun g hg => h.slot g (hslot g hg)
  · exact fun i hi => h.ordered i (hchannel i hi)

variable {item : QueuedTerminalControl}

omit h halive in
theorem head_mem {rest : List QueuedTerminalControl} (hch : q.channel = item :: rest) :
    ∀ i ∈ rest, i ∈ q.channel := by
  rw [hch]
  exact fun _ => mem_cons_of_mem _

/-- The channel read moves at most one command, to empty hands. -/
theorem inv_tryRecv (hp : q.phase = .idle) :
    Inv q.tryRecv ∧ q.tryRecv.receiverDropped = false ∧ q.tryRecv.phase = .idle := by
  unfold tryRecv
  by_cases hread : (q.pending.isNone && !q.closed) = true
  · rw [if_pos hread]
    simp only [Bool.and_eq_true, Option.isNone_iff_eq_none] at hread
    split
    next item rest hch =>
      refine ⟨h.move halive ?_ ?_ rfl rfl (fun _ hg => hg) (head_mem hch), halive, hp⟩
      · rw [hp]
        trivial
      · simp [inFlight, hch, hread.1]
    next hch =>
      split
      · exact ⟨h.move halive h.hands rfl, halive, hp⟩
      · exact ⟨h, halive, hp⟩
  · rw [if_neg hread]
    exact ⟨h, halive, hp⟩

open QueuedTerminalControl

theorem inv_poll (hp : q.phase = .idle) : Inv q.poll := by
  obtain ⟨h, halive, hp⟩ := inv_tryRecv h halive hp
  unfold poll
  generalize q.tryRecv = q at *
  dsimp only
  split
  next entry g hpend =>
    refine h.move halive trivial ?_
    simp [deliver, inFlight, hpend, commands]
  next hpre =>
    refine h.move halive ?_ rfl
    intro p hpend
    rcases p with ⟨entry, _ | g⟩
    · rfl
    · exact absurd hpend (hpre entry g)

/-- The invariant does not depend on whether the receiver returns or waits. -/
theorem inv_nothingReady (hpend : q.pending = none) : Inv q.nothingReady := by
  refine h.move halive ?_ rfl
  unfold nothingReady
  split
  · trivial
  · exact hpend

variable {g : SequencedControl}

/-- Geometry in the slot is newer than the command the receiver holds: the
comparison in `take_ready` never picks the slot. -/
theorem Inv.pending_lt_slot {p : QueuedTerminalControl} (hpend : q.pending = some p)
    (hslot : q.geometry = some g) : p.entry.sequence < g.sequence := by
  have hasc := h.ascending.sublist (h.inside halive).sublist
  obtain ⟨-, hin, -⟩ := pairwise_append.mp hasc
  refine (pairwise_append.mp hin).2.2 p.entry ?_ g ?_
  · simp [hpend, commands]
  · simp [hslot]

theorem inv_peek (hp : q.phase = .scanning) : Inv q.peek := by
  have hpre := h.hands
  rw [hp] at hpre
  have hdeliver : ∀ p, q.pending = some p → Inv ({ q with pending := none }.deliver p.entry) := by
    intro p hpend
    refine h.move halive trivial ?_
    simp [deliver, inFlight, hpend, commands, hpre p hpend]
  unfold peek
  split
  next hpend _ => exact inv_nothingReady h halive hpend
  next p hpend _ => exact hdeliver p hpend
  next hpend _ => exact h.move halive hpend rfl
  next p n hpend hslot =>
    obtain ⟨g, hg, rfl⟩ := Option.map_eq_some_iff.mp hslot
    have hlt := h.pending_lt_slot halive hpend hg
    rw [if_neg (by omega)]
    exact hdeliver p hpend

/-- With the channel empty, the slot is next in line. -/
theorem inv_take
    (hp : q.phase = .taking) (hch : q.geometry ≠ none → q.channel = []) : Inv q.take := by
  have hpend : q.pending = none := by
    have := h.hands
    rwa [hp] at this
  unfold take
  split
  next g hslot =>
    refine h.move halive trivial ?_ rfl rfl (by simp [deliver])
    simp [deliver, inFlight, hpend, hch, hslot]
  next => exact inv_nothingReady h halive hpend

/-- Otherwise the ordered command at the head of the channel is overtaken. -/
theorem not_inOrder_take (hslot : q.geometry = some g) (hitem : item ∈ q.channel) :
    ¬ InOrder q.take := by
  intro hord
  have hasc := h.ascending.sublist (h.inside halive).sublist
  have hflight : item.entry ∈ (q.pending.toList ++ q.channel).flatMap commands :=
    mem_flatMap.mpr ⟨item, by simp [hitem], by simp [commands]⟩
  have hin : item.entry ∈ q.inFlight := mem_append_left _ hflight
  -- the command is older than the slot's geometry
  have hlt : item.entry.sequence < g.sequence := by
    obtain ⟨-, hin, -⟩ := pairwise_append.mp hasc
    exact (pairwise_append.mp hin).2.2 _ hflight g (by simp [hslot])
  -- and it has not been delivered
  have hnot : item.entry ∉ q.delivered := fun hd => by
    have := (pairwise_append.mp hasc).2.2 _ hd _ hin
    omega
  have hacc : item.entry ∈ q.accepted := (h.inside halive).sublist.subset (mem_append_right _ hin)
  have htake : q.take = { q with geometry := none }.deliver g := by
    unfold take
    simp only [hslot]
  rw [htake] at hord
  obtain ⟨_, _, _, -, hgeo, -⟩ := hord.passedOver item.entry hacc ⟨g, by simp [deliver], hlt⟩ (by
    simp only [deliver, mem_append, mem_singleton, not_or]
    exact ⟨hnot, fun heq => by rw [heq] at hlt; omega⟩)
  exact h.ordered item hitem hgeo

theorem inv_recvChannel (hp : q.phase = .waiting) (hstep : q.recvChannel = some q') : Inv q' := by
  have hpend : q.pending = none := by
    have := h.hands
    rwa [hp] at this
  unfold recvChannel at hstep
  split at hstep
  next item rest hch =>
    cases hstep
    refine h.move halive trivial ?_ rfl rfl (fun _ hg => hg) (head_mem hch)
    simp [inFlight, hch, hpend]
  next hch =>
    split at hstep
    · cases hstep
      exact h.move halive trivial rfl
    · cases hstep

omit halive

theorem Inv.below_succ : ∀ e ∈ q.accepted, e.sequence < q.nextSequence + 1 :=
  fun e he => Nat.lt_succ_of_lt (h.below e he)

variable (command : TerminalControlCommand)

/-- Accepting a command: the history grows by a command under a new number. -/
theorem Inv.accepted_snoc :
    let accepted := q.accepted ++ [⟨q.nextSequence, command⟩]
    accepted.Pairwise (fun d e => d.sequence < e.sequence) ∧
      ∀ e ∈ accepted, e.sequence < q.nextSequence + 1 := by
  refine ⟨pairwise_append.mpr ⟨h.ascending, pairwise_singleton _ _, ?_⟩, ?_⟩
  · exact fun d hd => forall_mem_singleton.mpr (h.below d hd)
  · exact forall_mem_append.mpr ⟨h.below_succ, forall_mem_singleton.mpr (Nat.lt_succ_self _)⟩

theorem inv_trySend : Inv (q.trySend command).2 := by
  obtain ⟨hasc, hbelow⟩ := h.accepted_snoc command
  obtain ⟨rest, hrest⟩ := h.outside
  have hkeep := hrest.keep ⟨q.nextSequence, command⟩
  rw [append_assoc] at hkeep
  unfold trySend
  dsimp only
  split
  next hgeo =>
    have hsent : SequencedControl.Geometry ⟨q.nextSequence, command⟩ := hgeo
    refine ⟨hasc, hbelow, ?_, h.ordered, h.hands, fun halive => ?_, _, hkeep⟩
    · intro g hg
      cases hg
      exact hsent
    · -- the slot's old content, if any, is replaced
      have hin := h.inside halive
      rcases hslot : q.geometry with _ | g
      · simpa [inFlight, hslot] using hin.keep ⟨q.nextSequence, command⟩
      · simp only [inFlight, hslot, Option.toList_some, ← append_assoc] at hin
        simpa [inFlight] using hin.replace _ (h.slot g hslot) hsent
  next hgeo =>
    split
    next hdrop =>
      refine { h with below := h.below_succ, slot := nofun, inside := ?_ }
      simp [hdrop]
    next =>
      split
      next => exact { h with below := h.below_succ }
      next =>
        refine ⟨hasc, hbelow, nofun, ?_, h.hands, fun halive => ?_, _, hkeep⟩
        · exact forall_mem_append.mpr ⟨h.ordered, forall_mem_singleton.mpr hgeo⟩
        · have hin := (h.inside halive).keep ⟨q.nextSequence, command⟩
          simpa [inFlight, commands] using hin

omit h

/-- Inversion for the receiver's steps. -/
theorem receiving_eq_some {phase : ReceiverPhase}
    {next : Option TerminalControlQueue} (h : q.receiving phase next = some q') :
    q.receiverDropped = false ∧ q.phase = phase ∧ next = some q' := by
  unfold receiving at h
  obtain ⟨hc, h⟩ := of_check h
  exact ⟨hc.1, hc.2, h⟩

theorem inv_step {a : ControlAction} (h : Inv q)
    (hG : q.NoOvertaking a) (hstep : q.step a = some q') : Inv q' := by
  cases a with
  | trySend command =>
    simp only [step] at hstep
    obtain ⟨-, hstep⟩ := of_exit hstep
    cases hstep
    exact inv_trySend h command
  | dropSender =>
    cases hstep
    exact { h with }
  | dropReceiver =>
    cases hstep
    exact { h with inside := nofun }
  | poll =>
    obtain ⟨halive, hp, hq⟩ := receiving_eq_some hstep
    cases hq
    exact inv_poll h halive hp
  | peek =>
    obtain ⟨halive, hp, hq⟩ := receiving_eq_some hstep
    cases hq
    exact inv_peek h halive hp
  | take =>
    obtain ⟨halive, hp, hq⟩ := receiving_eq_some hstep
    cases hq
    exact inv_take h halive hp (hG halive hp)
  | recvChannel =>
    obtain ⟨halive, hp, hq⟩ := receiving_eq_some hstep
    exact inv_recvChannel h halive hp hq
  | recvNotified =>
    obtain ⟨halive, hp, hq⟩ := receiving_eq_some hstep
    split at hq
    · cases hq
      exact h.move halive trivial rfl
    · cases hq
  | cancelRecv =>
    obtain ⟨halive, hp, hq⟩ := receiving_eq_some hstep
    cases hq
    exact h.move halive trivial rfl

/-- A step that overtakes is enabled, and breaks the contract. -/
theorem not_inOrder_of_overtaking {a : ControlAction} (h : Inv q)
    (hG : ¬ q.NoOvertaking a) : ∃ q', q.step a = some q' ∧ ¬ InOrder q' := by
  cases a with
  | take =>
    simp only [NoOvertaking, Classical.not_imp] at hG
    obtain ⟨halive, hp, hslot, hch⟩ := hG
    obtain ⟨g, hg⟩ := Option.ne_none_iff_exists'.mp hslot
    obtain ⟨item, hitem⟩ := exists_mem_of_ne_nil _ hch
    refine ⟨q.take, ?_, not_inOrder_take h halive hg hitem⟩
    simp [step, receiving, halive, hp]
  | _ => exact absurd trivial hG

/-! ## Every interleaving -/

/-- **The order of the control queue**. For every interleaving of the sender with
the receiver, the contract `InOrder` holds in every state reached if and only if
the receiver never takes geometry out of the slot while an ordered command waits
in the channel. -/
theorem control_in_order_iff (as : List ControlAction) :
    Always step InOrder new as ↔ Meets step NoOvertaking new as :=
  always_iff_meets Inv.inOrder inv_step not_inOrder_of_overtaking inv_new

/-- The source does not rule that out: the receiver finds the channel empty, the
sender queues input and then a resize, and the receiver, which now finds the
resize in the slot, delivers it before the older input. -/
theorem resize_overtakes_input :
    ¬ Always step InOrder new
      [.poll, .trySend (.input [13] .submission), .trySend (.resize 80 24), .peek, .take] := by
  intro h
  have hlast : run step new
      [.poll, .trySend (.input [13] .submission), .trySend (.resize 80 24), .peek, .take] =
      some { new with
        nextSequence := 2
        channel := [⟨⟨0, .input [13] .submission⟩, none⟩]
        geometryReady := true
        accepted := [⟨0, .input [13] .submission⟩, ⟨1, .resize 80 24⟩]
        delivered := [⟨1, .resize 80 24⟩] } := by decide
  obtain ⟨l, g, r, -, hgeo, -⟩ := (h.last hlast).passedOver ⟨0, .input [13] .submission⟩
    (by decide) (by decide) (by decide)
  cases hgeo

end TerminalControlQueue

end Kanna
