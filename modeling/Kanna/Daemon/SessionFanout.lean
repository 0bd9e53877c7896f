import Kanna.Daemon.Segments

/-!
# The fanout of one session

`crates/daemon/src/output.rs` and `connection.rs`: PTY chunks are mirrored into
the session's headless terminal and enqueued to every subscriber under the fanout
lock, and snapshots are taken and queued under the same lock, on registration, on
resync and to publish a resize. So a chunk is either inside a subscriber's
snapshot or queued behind it.

`SessionRun` is the terminal with its fanout; each action under the lock is one
step, and the writer tasks run in between. `segments_delivered` says what reaches
the viewers along every run: from a registration's first authoritative snapshot
on, the lines written are segmented, a dropped chunk is followed by a snapshot
that contains it, and on one socket the registrations of a kind do not mix.

Not every registration starts with such a snapshot: `Observe` asks for none, and a
snapshot that cannot be taken is replaced by a blank one. Until the first snapshot
these get consecutive chunks.
-/

namespace Kanna

universe u v

variable {T : Type u} {C : Type v}

/-- A session's terminal with its fanout. `chunks` records what was mirrored. -/
structure SessionRun (T : Type u) (C : Type v) : Type (max u v) where
  /-- the headless terminal -/
  terminal : T
  /-- the chunks mirrored into it, oldest first -/
  chunks : List C
  /-- the session's status -/
  status : SessionStatus
  /-- the session has exited and its fanout is no longer registered anywhere -/
  ended : Bool
  /-- the registrations by `AttachSnapshot` and `ObserveSnapshot` whose snapshot could
  be taken -/
  hydrated : List ℕ
  /-- the fanout with its writer tasks and sockets -/
  fanout : FanoutRun (SessionEvent T C)
  deriving DecidableEq

/-- What happens to a session's fanout. -/
inductive SessionAction (C : Type v) : Type v where
  /-- `handle_output_chunk`: mirror and enqueue -/
  | chunk (data : C) (now : ℕ)
  /-- `fanout_status_changed` -/
  | statusChanged (status : SessionStatus) (now : ℕ)
  /-- `publish_resize_snapshot` -/
  | publishResizeSnapshot (now : ℕ)
  /-- `resync_drained_subscribers` -/
  | resyncDrainedSubscribers
  /-- `AttachSnapshot`; `ready` if the snapshot can be taken -/
  | attachSnapshot (writerId : ℕ) (ready : Bool)
  /-- `ObserveSnapshot` -/
  | observeSnapshot (writerId : ℕ) (ready : Bool)
  /-- `Observe` -/
  | observe (writerId : ℕ)
  /-- `Detach` -/
  | detach (writerId : ℕ)
  /-- `Unobserve` -/
  | unobserve (writerId : ℕ)
  /-- the client's connection is gone -/
  | disconnect (writerId : ℕ)
  /-- the session exits -/
  | exit (code : ℤ)
  /-- a step of a writer task -/
  | writer (task : ℕ) (move : Subscriber.WriterMove)

namespace SessionRun

/-- A session before its first chunk. -/
def new (init : T) (budget : ℕ) : SessionRun T C where
  terminal := init
  chunks := []
  status := .idle
  ended := false
  hydrated := []
  fanout := FanoutRun.new budget

section Semantics

variable (write : T → C → T) (json : SessionEvent T C → ℕ)

variable (w : SessionRun T C)

/-- The authoritative snapshot, as taken under the fanout lock. -/
def snapshot : SessionEvent T C := .snapshot w.chunks.length w.terminal

/-- The snapshot a registration gets: blank if none can be taken. -/
def initialSnapshot (ready : Bool) : SessionEvent T C :=
  if ready then w.snapshot else .blankSnapshot

/-- The line of an event; the derived serializers of these events do not fail. -/
def line (event : SessionEvent T C) : EventLine (SessionEvent T C) := ⟨event, json event⟩

/-- What an action does to the fanout. -/
def fanoutAction : SessionAction C → FanoutAction (SessionEvent T C)
  | .chunk data now => .enqueue (line json (.output w.chunks.length data)) now
  | .statusChanged status now => .enqueue (line json (.statusChanged status)) now
  | .publishResizeSnapshot now => .enqueue (line json w.snapshot) now
  | .resyncDrainedSubscribers => .resyncDrained [w.snapshot, .statusChanged w.status]
  | .attachSnapshot writerId ready =>
    .register .attached writerId [w.initialSnapshot ready, .statusChanged w.status]
  | .observeSnapshot writerId ready => .register .observer writerId [w.initialSnapshot ready]
  | .observe writerId => .register .observer writerId []
  | .detach writerId => .remove .attached writerId
  | .unobserve writerId => .remove .observer writerId
  | .disconnect writerId => .removeWriterEverywhere writerId
  | .exit code => .deliverFinal (.exit code)
  | .writer task move => .writer task move

/-- What an action does to the session itself. -/
def advance : SessionAction C → SessionRun T C
  | .chunk data _ =>
    { w with terminal := write w.terminal data, chunks := w.chunks ++ [data] }
  | .statusChanged status _ => { w with status := status }
  | .exit _ => { w with ended := true }
  | .attachSnapshot _ true | .observeSnapshot _ true =>
    { w with hydrated := w.fanout.nextTask :: w.hydrated }
  | _ => w

/-- Once the session has exited its fanout is out of reach: nobody registers, and
nothing is enqueued. A resync is only tried when somebody has drained. -/
def enabled : SessionAction C → Bool
  | .resyncDrainedSubscribers => !w.ended && w.fanout.state.hasDrainedLagged
  | .detach _ | .unobserve _ | .disconnect _ | .writer .. => true
  | _ => !w.ended

/-- The interleaving semantics. -/
def step (a : SessionAction C) : Option (SessionRun T C) :=
  if w.enabled a then
    (FanoutRun.step (fun event => some (json event)) w.fanout (w.fanoutAction json a)).map
      fun fanout => { w.advance write a with fanout := fanout }
  else none

end Semantics

/-! ## The invariant -/

open FanoutRun List

section Invariant

variable (write : T → C → T) (init : T)

/-- A registered subscriber that does not lag is in step with the terminal. -/
def InStep (hydrated : List ℕ) (chunks : List C) (s : Subscriber (SessionEvent T C)) : Prop :=
  ∃ σ, Tracks write init (decide (s.task ∈ hydrated)) chunks s.offers σ ∧
    (s.laggedSince = none →
      σ = .bare chunks.length ∧ s.task ∉ hydrated ∨ σ = .inStep chunks.length)

/-- A registration that left the fanout. -/
def Tracked (hydrated : List ℕ) (chunks : List C) (s : Subscriber (SessionEvent T C)) : Prop :=
  ∃ σ, Tracks write init (decide (s.task ∈ hydrated)) chunks s.offers σ

/-- Subscribers are in step or known to lag. -/
abbrev Streams (hydrated : List ℕ) (chunks : List C) (f : FanoutRun (SessionEvent T C)) : Prop :=
  f.Holds (fun _ => InStep write init hydrated chunks) (Tracked write init hydrated chunks)

/-- What every step keeps. -/
structure Inv (w : SessionRun T C) : Prop where
  /-- the terminal is what the chunks make of it -/
  screen : w.terminal = screenAt write init w.chunks w.chunks.length
  /-- the sockets get what is queued -/
  delivery : w.fanout.DeliveryInv w.ended
  /-- the hydrated registrations have their tasks -/
  spawned : ∀ task ∈ w.hydrated, task < w.fanout.nextTask
  streams : Streams write init w.hydrated w.chunks w.fanout

variable {write init} {hydrated hydrated' : List ℕ} {chunks : List C}
  {s s' : Subscriber (SessionEvent T C)}

theorem InStep.tracked (h : InStep write init hydrated chunks s) :
    Tracked write init hydrated chunks s := by
  obtain ⟨σ, hσ, -⟩ := h
  exact ⟨σ, hσ⟩

variable {budget now bytes : ℕ}

/-- An offered line that is neither output nor a snapshot changes nothing. -/
theorem inStep_offer_other {line : EventLine (SessionEvent T C)}
    (h : InStep write init hydrated chunks s) (hline : line.event.isTerminal = false)
    (hoff : (s.offer budget now line).1 = some s') : InStep write init hydrated chunks s' := by
  obtain ⟨σ, hσ, hin⟩ := h
  have hno : ∀ n data, line.event ≠ .output n data := by
    intro n data heq
    rw [heq] at hline
    cases hline
  obtain ⟨-, ⟨-, rfl⟩ | ⟨-, rfl⟩ | ⟨-, -, rfl⟩⟩ := Subscriber.offer_eq_some hoff
  · exact ⟨σ, .skipped hσ hno, hin⟩
  · exact ⟨σ, .skipped hσ hno, nofun⟩
  · exact ⟨σ, .other hσ hline, hin⟩

/-- The next chunk, mirrored and offered under one lock. -/
theorem inStep_offer_chunk {data : C} (h : InStep write init hydrated chunks s)
    (hoff : (s.offer budget now ⟨.output chunks.length data, bytes⟩).1 = some s') :
    InStep write init hydrated (chunks ++ [data]) s' := by
  obtain ⟨σ, hσ, hin⟩ := h
  have hlt : chunks.length < (chunks ++ [data]).length := by simp
  have hdata : (chunks ++ [data])[chunks.length]? = some data := by simp
  have hmore := hσ.append [data]
  obtain ⟨-, ⟨hlag, rfl⟩ | ⟨-, rfl⟩ | ⟨hlag, -, rfl⟩⟩ := Subscriber.offer_eq_some hoff
  · refine ⟨.missed (chunks.length + 1), .missed hmore hσ.position_le hlt, fun hnone => ?_⟩
    have : s.laggedSince = none := hnone
    rw [this] at hlag
    cases hlag
  · exact ⟨.missed (chunks.length + 1), .missed hmore hσ.position_le hlt, nofun⟩
  · obtain ⟨rfl, hbare⟩ | rfl := hin hlag
    · exact ⟨.bare (chunks.length + 1), .lead hmore (decide_eq_false hbare) hdata,
        fun _ => .inl ⟨by simp, hbare⟩⟩
    · exact ⟨.inStep (chunks.length + 1), .output hmore hdata, fun _ => .inr (by simp)⟩

/-- A snapshot of the terminal. -/
theorem inStep_offer_snapshot (h : InStep write init hydrated chunks s)
    (hoff : (s.offer budget now
      ⟨.snapshot chunks.length (screenAt write init chunks chunks.length), bytes⟩).1 = some s') :
    InStep write init hydrated chunks s' := by
  obtain ⟨σ, hσ, hin⟩ := h
  obtain ⟨-, ⟨-, rfl⟩ | ⟨-, rfl⟩ | ⟨-, -, rfl⟩⟩ := Subscriber.offer_eq_some hoff
  · exact ⟨σ, .skipped hσ nofun, hin⟩
  · exact ⟨σ, .skipped hσ nofun, nofun⟩
  · exact ⟨.inStep chunks.length, .snapshot hσ hσ.position_le (Nat.le_refl _), fun _ => .inr rfl⟩

/-- The last line of a session. -/
theorem tracked_takeFinal {line : EventLine (SessionEvent T C)}
    (h : InStep write init hydrated chunks s) (hline : line.event.isTerminal = false) :
    Tracked write init hydrated chunks (s.takeFinal line) := by
  obtain ⟨σ, hσ, -⟩ := h
  obtain htake | ⟨-, -, htake⟩ := s.takeFinal_cases line
  · rw [htake]
    exact ⟨σ, hσ⟩
  · rw [htake]
    exact ⟨σ, .other hσ hline⟩

variable {lines : List (EventLine (SessionEvent T C))}

/-- A batch that starts with a snapshot of the terminal puts a stream in step. -/
theorem tracks_batch {ready : Bool} {os : List (Offer (SessionEvent T C))} {σ : Sync}
    (h : Tracks write init ready chunks os σ)
    (hlines : ∀ line ∈ lines, line.event.isTerminal = false) :
    Tracks write init ready chunks (os ++ ((⟨.snapshot chunks.length
      (screenAt write init chunks chunks.length), bytes⟩ : EventLine (SessionEvent T C)) ::
        lines).map .queued) (.inStep chunks.length) := by
  rw [map_cons, append_cons]
  exact Tracks.lines (fun hline h => .other h hline)
    (.snapshot h h.position_le (Nat.le_refl _)) hlines

/-- A resync with such a batch. -/
theorem inStep_resync (h : InStep write init hydrated chunks s)
    (hlines : ∀ line ∈ lines, line.event.isTerminal = false) :
    InStep write init hydrated chunks (s.resync
      (⟨.snapshot chunks.length (screenAt write init chunks chunks.length), bytes⟩ :: lines)) := by
  obtain heq | ⟨-, -, -, heq⟩ := s.resync_cases (cons_ne_nil _ _)
  · rw [heq]
    exact h
  · rw [heq]
    obtain ⟨σ, hσ, -⟩ := h
    exact ⟨.inStep chunks.length, tracks_batch hσ hlines, fun _ => .inr rfl⟩

/-- Events whose serialization does not fail all get their line. -/
theorem filterMap_serialize (json : SessionEvent T C → ℕ) (events : List (SessionEvent T C)) :
    events.filterMap (EventLine.serialize fun e => some (json e)) = events.map (line json) := by
  induction events with
  | nil => rfl
  | cons e events ih =>
    rw [filterMap_cons, map_cons, ih]
    rfl

variable {events : List (SessionEvent T C)}

/-- A registration that starts with a snapshot of the terminal is in step. -/
theorem inStep_hydrated (json : SessionEvent T C → ℕ) (task writerId : ℕ) (kind : SubscriberKind)
    (hevents : ∀ e ∈ events, e.isTerminal = false) :
    InStep write init hydrated chunks
      (FanoutState.registration (fun e => some (json e)) task writerId kind
        (.snapshot chunks.length (screenAt write init chunks chunks.length) :: events)) := by
  rw [FanoutState.registration_eq, filterMap_serialize]
  refine ⟨.inStep chunks.length, ?_, fun _ => .inr rfl⟩
  refine tracks_batch (.nil (Nat.le_refl chunks.length)) fun l hl => ?_
  obtain ⟨e, he, rfl⟩ := mem_map.mp hl
  exact hevents e he

variable {task : ℕ} (htask : task ∉ hydrated)

include htask

/-- A registration that starts with nothing is in step with the output. -/
theorem inStep_bare (json : SessionEvent T C → ℕ) (writerId : ℕ) (kind : SubscriberKind) :
    InStep write init hydrated chunks
      (FanoutState.registration (fun e => some (json e)) task writerId kind []) := by
  rw [FanoutState.registration_eq]
  exact ⟨.bare chunks.length, .nil (Nat.le_refl _), fun _ => .inl ⟨rfl, htask⟩⟩

/-- So is one that starts with the stand-in for a snapshot. -/
theorem inStep_blank (json : SessionEvent T C → ℕ) (writerId : ℕ) (kind : SubscriberKind)
    (hevents : ∀ e ∈ events, e.isTerminal = false) :
    InStep write init hydrated chunks (FanoutState.registration (fun e => some (json e)) task
      writerId kind (.blankSnapshot :: events)) := by
  rw [FanoutState.registration_eq, filterMap_serialize]
  refine ⟨.bare chunks.length, ?_, fun _ => .inl ⟨rfl, htask⟩⟩
  refine Tracks.lines (fun hline h => .other h hline)
    (.blank (decide_eq_false htask) (Nat.le_refl _)) fun l hl => ?_
  obtain ⟨e, he, rfl⟩ := mem_map.mp hl
  exact hevents e he

omit htask

/-- Streams of the past stay what they were when the terminal takes a chunk. -/
theorem Tracked.append (h : Tracked write init hydrated chunks s) (more : List C) :
    Tracked write init hydrated (chunks ++ more) s := by
  obtain ⟨σ, hσ⟩ := h
  exact ⟨σ, hσ.append more⟩

/-! ## Every step -/

variable {json : SessionEvent T C → ℕ} {w w' : SessionRun T C} {a : SessionAction C}

theorem inv_new (budget : ℕ) : Inv write init (new init budget : SessionRun T C) where
  screen := rfl
  delivery := deliveryInv_new budget
  spawned := nofun
  streams := ⟨fun k _ hs => absurd hs (by cases k <;> exact not_mem_nil),
    fun _ hs => absurd hs not_mem_nil⟩

variable {f : FanoutRun (SessionEvent T C)}

/-- A removal. -/
theorem streams_remove (h : Streams write init hydrated chunks f) (kind : SubscriberKind)
    (writerId : ℕ) :
    Streams write init hydrated chunks (f.advance (f.state.remove kind writerId)) :=
  holds_remove h (fun _ _ hs _ => hs) (fun _ hs _ => hs.tracked) (fun _ hs => hs)

variable (h : Inv write init w)

include h

/-- A line that everybody is offered. -/
theorem streams_enqueue {line : EventLine (SessionEvent T C)}
    (chunks : List C)
    (hf : FanoutRun.step (fun e => some (json e)) w.fanout (.enqueue line now) = some f)
    (hoffer : ∀ s s', InStep write init w.hydrated w.chunks s →
      (s.offer w.fanout.state.budget now line).1 = some s' →
        InStep write init w.hydrated chunks s')
    (hleft : ∀ s, Tracked write init w.hydrated w.chunks s →
      Tracked write init w.hydrated chunks s) :
    Streams write init w.hydrated chunks f := by
  cases hf
  exact holds_enqueue h.streams (fun _ s s' hs hoff => hoffer s s' hs hoff)
    (fun _ s hs _ => hleft s hs.tracked) hleft

/-- A new registration. The others do not care whether it is hydrated. -/
theorem streams_register {kind : SubscriberKind} {writerId : ℕ}
    {events : List (SessionEvent T C)} {f : FanoutRun (SessionEvent T C)}
    (hf : FanoutRun.step (fun e => some (json e)) w.fanout (.register kind writerId events) =
      some f) (hothers : ∀ task < w.fanout.nextTask, task ∈ hydrated ↔ task ∈ w.hydrated)
    (hnew : InStep write init hydrated w.chunks
      (FanoutState.registration (fun e => some (json e)) w.fanout.nextTask writerId kind events)) :
    Streams write init hydrated w.chunks f := by
  cases hf
  have hcarry : Streams write init hydrated w.chunks w.fanout := by
    refine ⟨fun kind s hs => ?_, fun s hs => ?_⟩
    · have hstays := hothers s.task
        (h.delivery.distinct.lt_nextTask (mem_all.mpr (.inl ⟨kind, hs⟩)))
      simpa only [InStep, hstays] using h.streams.registered kind s hs
    · have hstays := hothers s.task (h.delivery.distinct.lt_nextTask (mem_all.mpr (.inr hs)))
      simpa only [Tracked, hstays] using h.streams.left s hs
  have := holds_register hcarry (fun _ _ hs _ => hs) (fun _ hs _ => hs.tracked)
    (fun _ hs => hs) hnew
  exact ⟨this.registered, this.left⟩

/-- A step of a writer task, which changes neither the offers nor the lag. -/
theorem streams_writer {task : ℕ} {move : Subscriber.WriterMove}
    (hf : FanoutRun.step (fun e => some (json e)) w.fanout (.writer task move) = some f) :
    Streams write init w.hydrated w.chunks f := by
  obtain ⟨s, s', hs, -, hw, -, rfl⟩ := writer_eq_some hf
  have hput : Streams write init w.hydrated w.chunks (w.fanout.put s') := by
    refine holds_put h.delivery.distinct h.streams hs hw.task_eq ?_ ?_
      (fun _ _ ht _ => ht) (fun _ ht _ => ht)
    · rintro - ⟨σ, hσ, hin⟩
      cases hw <;> exact ⟨σ, hσ, hin⟩
    · rintro ⟨σ, hσ⟩
      cases hw <;> exact ⟨σ, hσ⟩
  exact ⟨hput.registered, hput.left⟩

/-- The sockets, along a step of the session. -/
theorem delivery_step (hen : w.enabled a = true)
    (hf : FanoutRun.step (fun e => some (json e)) w.fanout (w.fanoutAction json a) = some f) :
    f.DeliveryInv (w.advance write a).ended := by
  have hdel := FanoutRun.deliveryInv_step h.delivery (fun kind writerId events heq => by
    -- only a session that has not exited lets anybody register
    cases a <;> cases heq <;> simpa [enabled] using hen) hf
  have hended : (w.advance write a).ended = (w.ended || a matches .exit _) := by
    unfold advance
    split <;> simp_all
  cases a <;> simpa [fanoutAction, hended] using hdel

theorem spawned_step
    (hf : FanoutRun.step (fun e => some (json e)) w.fanout (w.fanoutAction json a) = some f) :
    ∀ task ∈ (w.advance write a).hydrated, task < f.nextTask := by
  cases a with
  | attachSnapshot writerId ready | observeSnapshot writerId ready =>
    cases hf
    cases ready with
    | false => exact fun task hmem => Nat.lt_succ_of_lt (h.spawned task hmem)
    | true =>
      refine forall_mem_cons.mpr ⟨Nat.lt_succ_self _, fun task hmem => ?_⟩
      exact Nat.lt_succ_of_lt (h.spawned task hmem)
  | observe =>
    cases hf
    exact fun task hmem => Nat.lt_succ_of_lt (h.spawned task hmem)
  | writer task move =>
    obtain ⟨s, s', -, -, -, -, rfl⟩ := writer_eq_some hf
    exact h.spawned
  | _ =>
    cases hf
    exact h.spawned

omit h in
theorem inv_step (h : Inv write init w) (hstep : step write json w a = some w') :
    Inv write init w' := by
  obtain ⟨hen, hstep⟩ := of_check hstep
  obtain ⟨f, hf, rfl⟩ := Option.map_eq_some_iff.mp hstep
  have hdel := delivery_step h hen hf
  have hspawned := spawned_step h hf
  have hnew : w.fanout.nextTask ∉ w.hydrated := fun hmem => lt_irrefl _ (h.spawned _ hmem)
  have hsnap : w.snapshot =
      .snapshot w.chunks.length (screenAt write init w.chunks w.chunks.length) := by
    rw [snapshot, h.screen]
  cases a with
  | chunk data now =>
    refine ⟨?_, hdel, hspawned, streams_enqueue h _ hf (fun _ _ => inStep_offer_chunk)
      (fun _ hs => hs.append [data])⟩
    show write w.terminal data =
      screenAt write init (w.chunks ++ [data]) (w.chunks ++ [data]).length
    have hdata : (w.chunks ++ [data])[w.chunks.length]? = some data := by simp
    rw [length_append, length_singleton, screenAt_succ hdata,
      screenAt_append (Nat.le_refl _), ← h.screen]
  | statusChanged status now =>
    exact ⟨h.screen, hdel, hspawned, streams_enqueue h _ hf
      (fun _ _ hs hoff => inStep_offer_other hs rfl hoff) (fun _ hs => hs)⟩
  | publishResizeSnapshot now =>
    refine ⟨h.screen, hdel, hspawned, streams_enqueue h _ hf (fun s s' hs hoff => ?_)
      (fun _ hs => hs)⟩
    rw [hsnap] at hoff
    exact inStep_offer_snapshot hs hoff
  | resyncDrainedSubscribers =>
    refine ⟨h.screen, hdel, hspawned, ?_⟩
    cases hf
    refine holds_resyncDrained h.streams (fun _ _ hs => hs) ?_ (fun _ hs => hs)
    intro _ s lines _ hlines hs
    obtain rfl : [line json w.snapshot, line json (.statusChanged w.status)] = lines :=
      Option.some.inj hlines
    rw [hsnap]
    exact inStep_resync hs (forall_mem_singleton.mpr rfl)
  | attachSnapshot writerId ready | observeSnapshot writerId ready =>
    cases ready with
    | true =>
      refine ⟨h.screen, hdel, hspawned, streams_register h hf (fun task hlt => ?_) ?_⟩
      · exact mem_cons.trans (or_iff_right (Nat.ne_of_lt hlt))
      · rw [initialSnapshot, if_pos rfl, hsnap]
        exact inStep_hydrated json _ _ _ (by simp [SessionEvent.isTerminal])
    | false =>
      exact ⟨h.screen, hdel, hspawned, streams_register h hf (fun _ _ => Iff.rfl)
        (inStep_blank hnew json _ _ (by simp [SessionEvent.isTerminal]))⟩
  | observe writerId =>
    exact ⟨h.screen, hdel, hspawned, streams_register h hf (fun _ _ => Iff.rfl)
      (inStep_bare hnew json _ _)⟩
  | detach writerId | unobserve writerId =>
    cases hf
    exact ⟨h.screen, hdel, hspawned, streams_remove h.streams _ _⟩
  | disconnect writerId =>
    cases hf
    refine ⟨h.screen, hdel, hspawned, ?_⟩
    rw [advance_removeWriterEverywhere]
    exact streams_remove (streams_remove h.streams _ _) _ _
  | exit code =>
    cases hf
    refine ⟨h.screen, hdel, hspawned, holds_deliverFinal h.streams (fun _ _ _ hs => hs) ?_
      (fun _ hs => hs)⟩
    intro _ s line _ hl hs
    obtain rfl : (⟨.exit code, json (.exit code)⟩ : EventLine (SessionEvent T C)) = line :=
      Option.some.inj hl
    exact tracked_takeFinal hs rfl
  | writer task move =>
    have hstreams := streams_writer h hf
    exact ⟨h.screen, hdel, hspawned, hstreams⟩

end Invariant

/-! ## What reaches the viewers -/

/-- **What the viewers of a session receive**. -/
structure SegmentsDelivered (write : T → C → T) (init : T) (w : SessionRun T C) : Prop where
  /-- from its first authoritative snapshot on, what a registration has put on its
  socket is segmented, and replaying it gives the session's terminal at that point;
  before it come consecutive chunks, and nothing if the registration was hydrated -/
  replays : ∀ s ∈ w.fanout.all, ∃ lead rest,
    terminalEvents (written w.fanout.log s.task) = lead ++ rest ∧
    (∃ n, Bare w.chunks lead n) ∧ (s.task ∈ w.hydrated → lead = []) ∧
    (rest = [] ∨ ∃ n, n ≤ w.chunks.length ∧ Segmented write init w.chunks rest n ∧
      replay write rest = some (screenAt write init w.chunks n))
  /-- after a dropped chunk the next terminal line is a snapshot that contains it -/
  resynced : ∀ s ∈ w.fanout.all, ∀ pre post i data bytes,
    s.offers = pre ++ .dropped ⟨.output i data, bytes⟩ :: post →
    ∀ e es, terminalEvents (Offer.queuedLines post) = e :: es →
      ∃ n screen, e = .snapshot n screen ∧ i < n
  /-- what a registration has put on its socket is what was queued for it first -/
  inOrder : ∀ s ∈ w.fanout.all, written w.fanout.log s.task <+: Offer.queuedLines s.offers
  /-- on a socket, the registrations of a kind write one after the other -/
  grouped : w.fanout.log.Pairwise fun c d =>
    c.writerId = d.writerId → c.kind = d.kind → c.task ≤ d.task

section Delivered

variable {write : T → C → T} {init : T} {chunks : List C} {w : SessionRun T C}

/-- A beginning of lead and segments is a lead and segments. -/
theorem segments_of_prefix {pre lead rest : List (SessionEvent T C)} {σ : Sync}
    (hpre : pre <+: lead ++ rest) (hfits : σ.Fits write init chunks lead rest) :
    ∃ lead' rest', pre = lead' ++ rest' ∧ lead' <+: lead ∧
      (rest' = [] ∨ ∃ n, Segmented write init chunks rest' n) := by
  obtain hshort | ⟨r, rfl⟩ := prefix_or_prefix_of_prefix hpre (prefix_append lead rest)
  · exact ⟨pre, [], (append_nil _).symm, hshort, .inl rfl⟩
  · refine ⟨lead, r, rfl, prefix_rfl, ?_⟩
    have hr : r <+: rest := (prefix_append_right_inj lead).mp hpre
    by_cases hne : r = []
    · exact .inl hne
    · cases σ with
      | bare n =>
        obtain ⟨rfl, -⟩ := hfits
        exact .inl (prefix_nil.mp hr)
      | inStep n => exact .inr (Segmented.of_prefix hfits hr hne)
      | missed n =>
        obtain rfl | ⟨m, -, hseg⟩ := hfits
        · exact .inl (prefix_nil.mp hr)
        · exact .inr (hseg.of_prefix hr hne)

variable {s : Subscriber (SessionEvent T C)}

theorem Inv.tracked (h : Inv write init w) (hs : s ∈ w.fanout.all) :
    Tracked write init w.hydrated w.chunks s := by
  obtain ⟨k, hs⟩ | hs := mem_all.mp hs
  · exact (h.streams.registered k s hs).tracked
  · exact h.streams.left s hs

theorem Inv.segmentsDelivered (h : Inv write init w) : SegmentsDelivered write init w := by
  refine ⟨fun s hs => ?_, fun s hs pre post i data bytes hoffers e es he => ?_,
    fun s hs => h.delivery.written_prefix hs, h.delivery.grouped⟩
  · obtain ⟨σ, hσ⟩ := h.tracked hs
    obtain ⟨lead, rest, heq, ⟨n, hlead⟩, hnone, hfits⟩ := hσ.segments
    have hpre : terminalEvents (written w.fanout.log s.task) <+: lead ++ rest := by
      rw [← heq]
      exact ((h.delivery.written_prefix hs).map _).filter _
    obtain ⟨lead', rest', hsplit, hle, hrest⟩ := segments_of_prefix hpre hfits
    refine ⟨lead', rest', hsplit, hlead.of_prefix hle, fun hmem => ?_,
      hrest.imp_right fun ⟨n, hseg⟩ => ⟨n, hseg.le_length, hseg, replay_segmented hseg⟩⟩
    rw [hnone (decide_eq_true hmem)] at hle
    exact prefix_nil.mp hle
  · obtain ⟨σ, hσ⟩ := h.tracked hs
    obtain ⟨hnil, -⟩ | ⟨n, screen, es', hsnap, hlt⟩ := hσ.after_dropped hoffers
    · rw [hnil] at he
      cases he
    · rw [hsnap] at he
      obtain ⟨rfl, -⟩ := cons.inj he
      exact ⟨n, screen, rfl, hlt⟩

end Delivered

/-- **Segments**. For every run of a session's fanout, with any terminal, any
budget and any interleaving of chunks, status changes, snapshots, registrations,
removals, resyncs and writer steps, the viewers receive what `SegmentsDelivered`
says, in every state reached. -/
theorem segments_delivered (write : T → C → T) (json : SessionEvent T C → ℕ) (init : T)
    (budget : ℕ) (as : List (SessionAction C)) :
    Always (step write json) (SegmentsDelivered write init) (new init budget) as :=
  (always_of_invariant inv_step as (inv_new budget)).mono Inv.segmentsDelivered

/-- A viewer that observes without a snapshot receives bare output: what is
written to its socket is not a sequence of segments. -/
theorem observer_receives_bare_output :
    ¬ Always (step (fun screen data => screen ++ [data]) (fun _ => 40))
      (fun w : SessionRun (List ℕ) ℕ => ∀ s ∈ w.fanout.all,
        terminalEvents (written w.fanout.log s.task) = [] ∨
          ∃ n, Segmented (fun screen data => screen ++ [data]) [] w.chunks
            (terminalEvents (written w.fanout.log s.task)) n)
      (new [] subscriberMailboxMaxBytes)
      [.observe 1, .chunk 7 0, .writer 0 .recv, .writer 0 .startWrite, .writer 0 .finishWrite] := by
  intro h
  have hlast : run (step (fun screen data => screen ++ [data]) (fun _ => 40))
      (new [] subscriberMailboxMaxBytes : SessionRun (List ℕ) ℕ)
      [.observe 1, .chunk 7 0, .writer 0 .recv, .writer 0 .startWrite, .writer 0 .finishWrite] =
      some {
        terminal := [7]
        chunks := [7]
        status := .idle
        ended := false
        hydrated := []
        fanout := {
          state := ⟨8388608, [], [{ Subscriber.fresh 0 1 .observer with
            offers := [.queued ⟨.output 0 7, 40⟩] }]⟩
          detached := []
          nextTask := 1
          log := [⟨0, 1, .observer, ⟨.output 0 7, 40⟩⟩] } } := by decide
  obtain hnil | ⟨n, hseg⟩ := h.last hlast _ mem_cons_self
  · cases hnil
  · -- segments replay to a screen, bare output does not
    cases replay_segmented hseg

end SessionRun

end Kanna
