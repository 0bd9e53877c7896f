import Kanna.Lib.Run

/-!
# Agreement on a descriptor handoff

A successor asks the incumbent daemon for its sessions (`request_handoff`), acknowledges the
snapshot and waits for the incumbent to close the connection; if that takes too long it kills
the incumbent. The incumbent (`handle_handoff`, called from its connection loop) waits for the
acknowledgement and rolls back if that takes too long. It answers a late acknowledgement with an
error, which the successor ignores.

* `Agreement` — the successor adopts, or kills, only what was committed or has died.
* `Prompt` — no timer fires around an acknowledgement that is on its way.
-/

namespace Kanna.HandoffAgreement

/-- What the successor sends. Both carry the version of its mode. -/
inductive Command where
  | handoff
  | handoffAdopted
  deriving DecidableEq

/-- What the incumbent sends: the snapshot, with the number of descriptors, or an error. -/
inductive Event where
  | handoffReady (expectedFds : Nat)
  | error

/-- Where the incumbent's connection task is: in the loop, in `handle_handoff` before and after
the metadata are written, waiting for the acknowledgement, past the commit, or gone. -/
inductive Incumbent where
  | loop
  | preparing
  | transferring
  | awaitingAck
  | committed
  | closed
  deriving DecidableEq

/-- Where the successor is in `request_handoff` and `wait_for_handoff_release_with`. -/
inductive Successor where
  | awaitingResponse
  | receivingFds
  | received
  | awaitingRelease
  | awaitingDeath
  | adopted
  | failed
  deriving DecidableEq

/-- The two parties and the messages under way in each direction, from the moment the successor
has sent its request. `verdict` notes whether the
incumbent has committed (`true`) or rolled back (`false`), `died` that it died by itself, and
`killed` that the successor killed it. -/
structure State where
  incumbent : Incumbent := .loop
  successor : Successor := .awaitingResponse
  toIncumbent : List Command := [.handoff]
  toSuccessor : List Event := []
  /-- the descriptors were sent -/
  fdsSent : Bool := false
  /-- the successor has closed the connection -/
  successorClosed : Bool := false
  verdict : Option Bool := none
  died : Bool := false
  killed : Bool := false

/-- The steps of the two parties. -/
inductive Move where
  /-- the incumbent's steps: its loop, `handle_handoff`, the timer, and its end -/
  | receive
  | refuse (answer : Bool)
  | ready (expectedFds : Nat)
  | sendFds
  | receiveAck
  | ackTimeout
  | release
  | disconnect
  | die
  /-- the successor's steps -/
  | response
  | recvFds
  | ack
  | ignore
  | eof
  | releaseTimeout
  | giveUp

/-- The handoff is given up and the incumbent goes on serving. -/
def State.rollBack (s : State) : State := { s with incumbent := .loop, verdict := some false }

/-- The incumbent's steps, where they are enabled. -/
def incumbentStep (s : State) : Move → Option State
  | .receive =>
    if s.incumbent = .loop then
      match s.toIncumbent with
      | .handoff :: rest => some { s with incumbent := .preparing, toIncumbent := rest }
      | .handoffAdopted :: rest =>
        -- "unexpected handoff adoption acknowledgement"
        some { s with toIncumbent := rest, toSuccessor := s.toSuccessor ++ [.error] }
      | [] => if s.successorClosed then some { s with incumbent := .closed } else none
    else none
  | .refuse answer =>
    if s.incumbent = .preparing ∨ s.incumbent = .transferring then
      let toSuccessor := if answer then s.toSuccessor ++ [.error] else s.toSuccessor
      some { s.rollBack with toSuccessor }
    else none
  | .ready expectedFds =>
    if s.incumbent = .preparing then
      some { s with
        incumbent := .transferring
        toSuccessor := s.toSuccessor ++ [.handoffReady expectedFds] }
    else none
  | .sendFds =>
    if s.incumbent = .transferring then some { s with incumbent := .awaitingAck, fdsSent := true }
    else none
  | .receiveAck =>
    if s.incumbent = .awaitingAck then
      match s.toIncumbent with
      | .handoffAdopted :: rest =>
        some { s with incumbent := .committed, toIncumbent := rest, verdict := some true }
      | .handoff :: rest => some { s.rollBack with toIncumbent := rest }
      | [] => if s.successorClosed then some s.rollBack else none
    else none
  | .ackTimeout => if s.incumbent = .awaitingAck then some s.rollBack else none
  | .release =>
    if s.incumbent = .committed then some { s with incumbent := .closed } else none
  | .disconnect =>
    if s.incumbent = .loop then some { s with incumbent := .closed } else none
  | .die => some { s with incumbent := .closed, died := true }
  | _ => none

/-- The successor has given up before the acknowledgement, or could not kill the incumbent. -/
def State.fail (s : State) : State := { s with successor := .failed, successorClosed := true }

/-- The successor's steps, where they are enabled. -/
def successorStep (s : State) : Move → Option State
  | .response =>
    if s.successor = .awaitingResponse then
      match s.toSuccessor with
      | .handoffReady 0 :: rest => some { s with successor := .received, toSuccessor := rest }
      | .handoffReady _ :: rest => some { s with successor := .receivingFds, toSuccessor := rest }
      | .error :: rest => some { s.fail with toSuccessor := rest }
      | [] => if s.incumbent = .closed then some s.fail else none
    else none
  | .recvFds =>
    if s.successor = .receivingFds ∧ s.fdsSent then some { s with successor := .received }
    else none
  | .ack =>
    if s.successor = .received then
      some { s with
        successor := .awaitingRelease
        toIncumbent := s.toIncumbent ++ [.handoffAdopted] }
    else none
  | .ignore =>
    if s.successor = .awaitingRelease ∨ s.successor = .awaitingDeath then
      match s.toSuccessor with
      | _ :: rest => some { s with toSuccessor := rest }
      | [] => none
    else none
  | .eof =>
    if (s.successor = .awaitingRelease ∨ s.successor = .awaitingDeath) ∧ s.toSuccessor.isEmpty ∧
        s.incumbent = .closed then
      some { s with successor := .adopted }
    else none
  | .releaseTimeout =>
    if s.successor = .awaitingRelease then
      -- `kill_verified`: the process the connection was opened to
      some { s with
        successor := .awaitingDeath
        incumbent := .closed
        killed := s.killed || !s.died }
    else none
  | .giveUp => if s.successor ≠ .adopted then some s.fail else none
  | _ => none

/-- One step of either party. -/
def step (s : State) (a : Move) : Option State := (incumbentStep s a).or (successorStep s a)

/-- The successor adopts, or kills the incumbent, only if the incumbent committed the handoff or
has died; so none that rolled back is killed. -/
def Agreement (s : State) : Prop :=
  (s.successor = .adopted → s.verdict = some true ∨ s.died = true) ∧
    (s.killed = true → s.verdict = some true)

/-- The acknowledgement is sent while the incumbent waits for it, and neither timer fires while it
is on its way. -/
def Prompt (s : State) : Move → Prop
  | .ack => s.incumbent = .awaitingAck
  | .ackTimeout => .handoffAdopted ∉ s.toIncumbent
  | .releaseTimeout => .handoffAdopted ∉ s.toIncumbent
  | _ => True

instance (s : State) : (a : Move) → Decidable (Prompt s a)
  | .ack => inferInstanceAs (Decidable (s.incumbent = .awaitingAck))
  | .ackTimeout | .releaseTimeout => inferInstanceAs (Decidable (.handoffAdopted ∉ s.toIncumbent))
  | .receive | .refuse _ | .ready _ | .sendFds | .receiveAck | .release | .disconnect | .die
  | .response | .recvFds | .ignore | .eof | .giveUp => .isTrue trivial

/-! ### The invariant -/

/-- The successor has not acknowledged yet. -/
def Successor.early : Successor → Bool
  | .awaitingResponse | .receivingFds | .received => true
  | _ => false

/-- The successor has acknowledged, and has not failed. -/
def Successor.acknowledged : Successor → Bool
  | .awaitingRelease | .awaitingDeath | .adopted => true
  | _ => false

/-- No handoff is under way at the incumbent. -/
def Incumbent.idle (incumbent : Incumbent) : Prop := incumbent = .loop ∨ incumbent = .closed

/-- Before the acknowledgement only the request is sent, once; after it the incumbent has
committed or died, or the acknowledgement is the next thing it reads. -/
structure Inv (s : State) : Prop where
  /-- only the request is on its way -/
  early : s.successor.early = true →
    s.toIncumbent = [] ∨ s.toIncumbent = [.handoff] ∧ s.incumbent.idle
  /-- the incumbent has committed or died, or reads the acknowledgement next -/
  acknowledged : s.successor.acknowledged = true →
    s.verdict = some true ∨ s.died = true ∨
      s.incumbent = .awaitingAck ∧ s.toIncumbent = [.handoffAdopted]
  committed : s.verdict = some true → s.incumbent = .committed ∨ s.incumbent = .closed
  /-- only an incumbent that has committed is killed -/
  killed : s.killed = true → s.verdict = some true
  adopted : s.successor = .adopted → s.verdict = some true ∨ s.died = true

variable {s s' : State} {a : Move}

variable (hI : Inv s)

include hI

/-- A handoff that is under way has no verdict in its favour yet. -/
theorem Inv.undecided (hcommitted : s.incumbent ≠ .committed)
    (hclosed : s.incumbent ≠ .closed) : s.verdict ≠ some true := fun h =>
  (hI.committed h).elim hcommitted hclosed

/-- The incumbent rolls back only before the acknowledgement is on its way. -/
theorem Inv.rollBack (hopen : s.verdict ≠ some true)
    (hack : s.incumbent = .awaitingAck → s.toIncumbent ≠ [.handoffAdopted]) : Inv s.rollBack where
  early := fun h => (hI.early h).imp_right fun h => ⟨h.1, .inl rfl⟩
  acknowledged := fun h => by
    obtain hcommitted | hdied | ⟨hwaits, hsent⟩ := hI.acknowledged h
    · exact absurd hcommitted hopen
    · exact .inr (.inl hdied)
    · exact absurd hsent (hack hwaits)
  committed := nofun
  killed := fun h => absurd (hI.killed h) hopen
  adopted := fun h => .inr ((hI.adopted h).resolve_left hopen)

/-- A move of the incumbent off the acknowledgement that reaches no verdict. -/
theorem Inv.move {incumbent : Incumbent} {toIncumbent : List Command}
    (hoff : s.incumbent ≠ .awaitingAck)
    (hcommitted : s.verdict = some true → incumbent = .committed ∨ incumbent = .closed)
    (hearly : s.successor.early = true →
      toIncumbent = [] ∨ toIncumbent = [.handoff] ∧ incumbent.idle) :
    Inv { s with incumbent, toIncumbent } where
  early := hearly
  acknowledged := fun h => by
    obtain hcommitted | hdied | ⟨hwaits, -⟩ := hI.acknowledged h
    · exact .inl hcommitted
    · exact .inr (.inl hdied)
    · exact absurd hwaits hoff
  committed := hcommitted
  killed := hI.killed
  adopted := hI.adopted

/-- What is sent to the successor plays no part. -/
theorem Inv.send (toSuccessor : List Event) (fdsSent : Bool) :
    Inv { s with toSuccessor, fdsSent } :=
  { hI with }

/-- A move inside `handle_handoff`. -/
theorem Inv.work (incumbent : Incumbent) (hbusy : ¬ s.incumbent.idle)
    (hoff : s.incumbent ≠ .awaitingAck) (hcommitted : s.incumbent ≠ .committed) :
    Inv { s with incumbent } := by
  refine hI.move hoff (fun h => absurd h (hI.undecided hcommitted fun h => hbusy (.inr h))) ?_
  exact fun hearly => .inl ((hI.early hearly).resolve_right fun h => hbusy h.2)

/-- The connection task ends. -/
theorem Inv.close (hoff : s.incumbent ≠ .awaitingAck) : Inv { s with incumbent := .closed } :=
  hI.move hoff (fun _ => .inr rfl) fun hearly =>
    (hI.early hearly).imp_right fun h => ⟨h.1, .inr rfl⟩

theorem Inv.receive (hstep : incumbentStep s .receive = some s') : Inv s' := by
  simp only [incumbentStep] at hstep
  obtain ⟨hloop, hstep⟩ := of_check hstep
  have hoff : s.incumbent ≠ .awaitingAck := by simp [hloop]
  have hopen : s.verdict ≠ some true := hI.undecided (by simp [hloop]) (by simp [hloop])
  split at hstep
  next rest hqueue =>
    cases hstep
    refine hI.move hoff (fun h => absurd h hopen) fun hearly => .inl ?_
    obtain hempty | ⟨hone, -⟩ := hI.early hearly
    · simp [hqueue] at hempty
    · simpa [hqueue] using hone
  next rest hqueue =>
    cases hstep
    have hmoved : Inv { s with toIncumbent := rest } := by
      refine hI.move hoff (fun h => absurd h hopen) fun hearly => ?_
      obtain hempty | ⟨hone, -⟩ := hI.early hearly
      · simp [hqueue] at hempty
      · simp [hqueue] at hone
    exact hmoved.send _ s.fdsSent
  next hqueue =>
    split at hstep
    · cases hstep
      exact hI.close hoff
    · cases hstep

/-- The incumbent waits for the acknowledgement, so the successor has not sent anything else. -/
theorem Inv.receiveAck (hstep : incumbentStep s .receiveAck = some s') : Inv s' := by
  simp only [incumbentStep] at hstep
  obtain ⟨hwaits, hstep⟩ := of_check hstep
  have hopen : s.verdict ≠ some true := hI.undecided (by simp [hwaits]) (by simp [hwaits])
  have hlate : s.toIncumbent ≠ [] → s.successor.early ≠ true := by
    intro hsome hearly
    obtain hempty | ⟨-, hidle⟩ := hI.early hearly
    · exact hsome hempty
    · simp [Incumbent.idle, hwaits] at hidle
  split at hstep
  next rest hqueue =>
    cases hstep
    exact ⟨fun h => absurd h (hlate (by simp [hqueue])), fun _ => .inl rfl, fun _ => .inl rfl,
      fun _ => rfl, fun _ => .inl rfl⟩
  next rest hqueue =>
    cases hstep
    have hback := hI.rollBack hopen fun _ => by simp [hqueue]
    refine ⟨fun h => absurd h (hlate (by simp [hqueue])), fun h => ?_, hback.committed,
      hback.killed, hback.adopted⟩
    exact (hback.acknowledged h).imp_right fun h => h.imp_right fun h => nomatch h.1
  next hqueue =>
    split at hstep
    · cases hstep
      exact hI.rollBack hopen fun _ => by simp [hqueue]
    · cases hstep

/-- A death is all the successor needs to know. -/
theorem Inv.die : Inv { s with incumbent := .closed, died := true } where
  early := fun h => (hI.early h).imp_right fun h => ⟨h.1, .inr rfl⟩
  acknowledged := fun _ => .inr (.inl rfl)
  committed := fun _ => .inr rfl
  killed := hI.killed
  adopted := fun _ => .inr rfl

open HandoffAgreement

theorem Inv.incumbentStep (hprompt : Prompt s a)
    (hstep : incumbentStep s a = some s') : Inv s' := by
  cases a <;> simp only [incumbentStep, reduceCtorEq] at hstep
  case receive => exact hI.receive hstep
  case receiveAck => exact hI.receiveAck hstep
  case refuse answer =>
    obtain ⟨hwork, rfl⟩ := guard_eq_some hstep
    refine Inv.send (hI.rollBack (hI.undecided ?_ ?_) fun hwaits => ?_) _ s.fdsSent
    · obtain h | h := hwork <;> simp [h]
    · obtain h | h := hwork <;> simp [h]
    · simp [hwaits] at hwork
  case ready expectedFds =>
    split_ifs at hstep with hpreparing
    cases hstep
    refine (hI.work .transferring ?_ ?_ ?_).send _ s.fdsSent <;> simp [Incumbent.idle, hpreparing]
  case sendFds =>
    split_ifs at hstep with htransferring
    cases hstep
    refine (hI.work .awaitingAck ?_ ?_ ?_).send s.toSuccessor true <;>
      simp [Incumbent.idle, htransferring]
  case ackTimeout =>
    split_ifs at hstep with hwaits
    cases hstep
    refine hI.rollBack (hI.undecided (by simp [hwaits]) (by simp [hwaits])) ?_
    intro _ hsent
    apply hprompt
    rw [hsent]
    exact List.mem_singleton_self _
  case release =>
    split_ifs at hstep with hcommitted
    cases hstep
    exact hI.close (by simp [hcommitted])
  case disconnect =>
    split_ifs at hstep with hloop
    cases hstep
    exact hI.close (by simp [hloop])
  case die =>
    cases hstep
    exact hI.die

/-- The incumbent waits, so it has read the request, and the acknowledgement is the next thing. -/
theorem Inv.ack (hreceived : s.successor = .received) (hwaits : s.incumbent = .awaitingAck) :
    Inv { s with
      successor := .awaitingRelease
      toIncumbent := s.toIncumbent ++ [.handoffAdopted] } := by
  have hempty : s.toIncumbent = [] := by
    obtain hempty | ⟨-, hidle⟩ := hI.early (by rw [hreceived]; rfl)
    · exact hempty
    · simp [Incumbent.idle, hwaits] at hidle
  refine ⟨nofun, fun _ => .inr (.inr ⟨hwaits, ?_⟩), hI.committed, hI.killed, nofun⟩
  rw [hempty]
  rfl

/-- The incumbent has read the acknowledgement, so it has committed before it is killed. -/
theorem Inv.kill (hwaiting : s.successor = .awaitingRelease)
    (hread : .handoffAdopted ∉ s.toIncumbent) :
    Inv { s with
      successor := .awaitingDeath
      incumbent := .closed
      killed := s.killed || !s.died } := by
  have hover : s.verdict = some true ∨ s.died = true := by
    obtain hcommitted | hdied | ⟨-, hsent⟩ := hI.acknowledged (by rw [hwaiting]; rfl)
    · exact .inl hcommitted
    · exact .inr hdied
    · exact absurd (by rw [hsent]; exact List.mem_singleton_self _) hread
  refine ⟨nofun, fun _ => hover.imp_right .inl, fun _ => .inr rfl, fun h => ?_, nofun⟩
  obtain hcommitted | hdied := hover
  · exact hcommitted
  · exact hI.killed (by simpa [hdied] using h)

/-- The end of the connection is not that of an incumbent that waits for the acknowledgement. -/
theorem Inv.eof (hacknowledged : s.successor.acknowledged = true)
    (hclosed : s.incumbent = .closed) : Inv { s with successor := .adopted } := by
  have hover : s.verdict = some true ∨ s.died = true := by
    obtain hcommitted | hdied | ⟨hwaits, -⟩ := hI.acknowledged hacknowledged
    · exact .inl hcommitted
    · exact .inr hdied
    · simp [hclosed] at hwaits
  exact ⟨nofun, fun _ => hover.imp_right .inl, hI.committed, hI.killed, fun _ => hover⟩

/-- The successor goes from one position before the acknowledgement to a later one, or fails. -/
theorem Inv.later {successor : Successor} {successorClosed : Bool} {toSuccessor : List Event}
    (hlater : successor = .failed ∨ s.successor.early = true ∧ successor.early = true) :
    Inv { s with successor, successorClosed, toSuccessor } where
  early := fun h => by
    obtain rfl | ⟨hearly, -⟩ := hlater
    · cases h
    · exact hI.early hearly
  acknowledged := fun h => by
    obtain rfl | ⟨-, hearly⟩ := hlater
    · cases h
    · cases successor <;> cases h <;> cases hearly
  committed := hI.committed
  killed := hI.killed
  adopted := fun h => by
    obtain rfl | ⟨-, hearly⟩ := hlater
    · cases h
    · rw [show successor = .adopted from h] at hearly
      cases hearly

theorem Inv.successorStep (hprompt : Prompt s a)
    (hstep : successorStep s a = some s') : Inv s' := by
  cases a <;> simp only [successorStep, reduceCtorEq] at hstep
  case response =>
    obtain ⟨hawaiting, hstep⟩ := of_check hstep
    split at hstep
    · cases hstep
      exact hI.later (.inr ⟨by rw [hawaiting]; rfl, rfl⟩)
    · cases hstep
      exact hI.later (.inr ⟨by rw [hawaiting]; rfl, rfl⟩)
    · cases hstep
      exact hI.later (.inl rfl)
    · split at hstep <;> cases hstep
      exact hI.later (.inl rfl)
  case recvFds =>
    split_ifs at hstep with hreceiving
    cases hstep
    exact hI.later (.inr ⟨by rw [hreceiving.1]; rfl, rfl⟩)
  case ack =>
    split_ifs at hstep with hreceived
    cases hstep
    exact hI.ack hreceived hprompt
  case ignore =>
    obtain ⟨-, hstep⟩ := of_check hstep
    split at hstep <;> cases hstep
    exact hI.send _ s.fdsSent
  case eof =>
    split_ifs at hstep with hend
    cases hstep
    refine hI.eof ?_ hend.2.2
    obtain h | h := hend.1 <;> rw [h] <;> rfl
  case releaseTimeout =>
    split_ifs at hstep with hwaiting
    cases hstep
    exact hI.kill hwaiting hprompt
  case giveUp =>
    split_ifs at hstep
    cases hstep
    exact hI.later (.inl rfl)

theorem inv_step (hprompt : Prompt s a) (hstep : step s a = some s') : Inv s' := by
  obtain hstep | ⟨-, hstep⟩ := Option.or_eq_some_iff.mp hstep
  · exact hI.incumbentStep hprompt hstep
  · exact hI.successorStep hprompt hstep

theorem Inv.agreement : Agreement s := ⟨hI.adopted, hI.killed⟩

omit hI

/-- **Agreement of prompt handoffs.** Over every interleaving of the two parties with delayed
messages, disconnects and deaths: if the acknowledgement is sent while the incumbent waits for it
and no timer fires while it is on its way, the successor adopts the snapshot, or kills the
incumbent, only if the incumbent has committed the handoff or has died. -/
theorem handoff_agreement (moves : List Move) (hprompt : Meets step Prompt {} moves) :
    Always step Agreement {} moves := by
  have hinit : Inv {} := ⟨fun _ => .inr ⟨rfl, .inl rfl⟩, nofun, nofun, nofun, nofun⟩
  exact always_of_meets Inv.agreement inv_step hinit hprompt

/-- A handoff of one descriptor that is committed, and whose incumbent is slow to let go. -/
def slowRelease : List Move :=
  [.receive, .ready 1, .sendFds, .response, .recvFds, .ack, .receiveAck, .releaseTimeout,
    .eof]

theorem handoff_agreement_slowRelease :
    Meets step Prompt {} slowRelease ∧ Always step Agreement {} slowRelease := by
  have hprompt : Meets step Prompt {} slowRelease := by decide
  exact ⟨hprompt, handoff_agreement slowRelease hprompt⟩

/-- **An incumbent that rolled back is killed**, and its stale snapshot adopted: it gives up just
before the acknowledgement comes, and the successor ignores its error. -/
theorem rolled_back_killed : ¬ ∀ moves, Always step Agreement {} moves := by
  intro h
  have hrun : (run step {} [.receive, .ready 0, .sendFds, .response, .ack, .ackTimeout,
      .receive, .ignore, .releaseTimeout, .eof]).map
      (fun s => (s.successor, s.verdict, s.died, s.killed)) =
      some (.adopted, some false, false, true) := by decide
  obtain ⟨s, hs, hfields⟩ := Option.map_eq_some_iff.mp hrun
  obtain ⟨hadopted, hverdict, hdied, -⟩ := by simpa only [Prod.mk.injEq] using hfields
  obtain hcommitted | hdead := ((h _).last hs).1 hadopted
  · rw [hverdict] at hcommitted
    cases hcommitted
  · rw [hdied] at hdead
    cases hdead

end Kanna.HandoffAgreement
