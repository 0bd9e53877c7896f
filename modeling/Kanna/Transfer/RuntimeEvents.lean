import Kanna.Lib.Durable
import Kanna.Lib.Run

/-!
# The runtime event channel

`RuntimeEventSender` and `RuntimeEventReceiver` of `runtime/state.rs`. Ordinary events go through
a bounded queue. Of the companion snapshots only the latest one for each task of each peer is
kept, in the map `pending`, and `ready` lists the keys of the map in the order in which they are
to be received. A channel with one slot wakes the receiver, and after a burst of ordinary events
it looks at the snapshots first.

Every section under the mutex and every operation on a channel is one step. A `send` that has
more than one of them is kept in `senders` in between, and `recv` has a program counter. The
channels stay open.
-/

namespace Kanna.RuntimeEvents

open Durable

/-- `MAX_COMPANION_OBSERVERS`. -/
def maxCompanionObservers : ℕ := 64

/-- `MAX_RELIABLE_EVENTS_BEFORE_COMPANION`. -/
def maxReliableEventsBeforeCompanion : ℕ := 32

/-- A peer and a task. -/
abbrev Key : Type := String × String

/-- The frames of a companion event, as far as `send` tells them apart. -/
inductive Frame where
  | companionSnapshot (content : String)
  | companionUnavailable (content : String)
  | companionError (content : String)
  | other (content : String)
  deriving DecidableEq

/-- `RuntimeEvent::CompanionEvent`. -/
structure CompanionEvent where
  key : Key
  generation : String
  generationOrder : ℕ
  frame : Frame
  deriving DecidableEq

/-- `RuntimeEvent`. -/
inductive RuntimeEvent where
  | companion (event : CompanionEvent)
  | other (content : String)

/-! ### The sections -/

/-- `CompanionEventState`. -/
structure CompanionEventState where
  /-- the newest event of each key -/
  pending : Records Key CompanionEvent
  /-- the keys in the order of their turn -/
  ready : List Key
  /-- what was registered last -/
  currentGenerations : Records Key (ℕ × String)

/-- A later generation is registered, or another one of the same order. -/
def outdated (generation : String) (generationOrder : ℕ) : Option (ℕ × String) → Bool
  | none => false
  | some (currentOrder, currentGeneration) =>
    currentOrder > generationOrder ||
      (currentOrder == generationOrder && currentGeneration != generation)

/-- What became of a snapshot: it is older than the registered generation, there are too many
observers, or it is pending. -/
inductive Outcome where
  | dropped
  | refused
  | queued
  deriving DecidableEq

namespace CompanionEventState

variable (s : CompanionEventState)

/-- Removes the pending event of a key. -/
def remove (key : Key) : CompanionEventState :=
  { s with pending := s.pending.erase key, ready := s.ready.filter (· ≠ key) }

/-- The current generation of a companion. -/
def setGeneration (key : Key) (generation : String) (generationOrder : ℕ) : CompanionEventState :=
  { s with currentGenerations := s.currentGenerations.insert key (generationOrder, generation) }

/-- `register_companion_generation`. -/
def registerCompanionGeneration (key : Key) (generation : String)
    (generationOrder : ℕ) : CompanionEventState × Bool :=
  if outdated generation generationOrder (s.currentGenerations.lookup key) then (s, false)
  else
    let registered := s.setGeneration key generation generationOrder
    if (s.pending.lookup key).any fun pending =>
        pending.generationOrder < generationOrder ||
          (pending.generationOrder == generationOrder && pending.generation != generation) then
      (registered.remove key, true)
    else (registered, true)

/-- `unregister_companion_generation`. -/
def unregisterCompanionGeneration (key : Key) (generation : String)
    (generationOrder : ℕ) : CompanionEventState :=
  if s.currentGenerations.lookup key = some (generationOrder, generation) then
    { s.remove key with currentGenerations := s.currentGenerations.erase key }
  else s

/-- `invalidate_companion`. -/
def invalidateCompanion (key : Key) (generation : String)
    (generationOrder : ℕ) : CompanionEventState :=
  if (s.pending.lookup key).any fun pending =>
      pending.generation == generation && pending.generationOrder == generationOrder then
    s.remove key
  else s

/-- Enters a snapshot into the map, in the place of the one for the same key. -/
def enqueue (event : CompanionEvent) : CompanionEventState × Outcome :=
  if (s.pending.lookup event.key).isSome then
    ({ s with pending := s.pending.insert event.key event }, .queued)
  else if s.pending.entries.length ≥ maxCompanionObservers then (s, .refused)
  else
    ({ s with
        pending := s.pending.insert event.key event
        ready := s.ready ++ [event.key] }, .queued)

/-- The section of `send` for a snapshot. -/
def sendSnapshot (event : CompanionEvent) : CompanionEventState × Outcome :=
  match s.currentGenerations.lookup event.key with
  | none => (s.setGeneration event.key event.generation event.generationOrder).enqueue event
  | some current =>
    if outdated event.generation event.generationOrder (some current) then (s, .dropped)
    else s.enqueue event

/-- The loop of `take_companion`. -/
def takeLoop (s : CompanionEventState) : List Key → CompanionEventState × Option CompanionEvent
  | [] => ({ s with ready := [] }, none)
  | key :: ready =>
    match s.pending.lookup key with
    | none => takeLoop s ready
    | some event => ({ s with pending := s.pending.erase key, ready := ready }, some event)

/-- `take_companion`. -/
def takeCompanion : CompanionEventState × Option CompanionEvent :=
  s.takeLoop s.ready

end CompanionEventState

/-! ### Senders and the receiver -/

/-- The next step of a `send`. -/
inductive Sender where
  | notify
  | invalidate (event : CompanionEvent)
  | ordinary (event : RuntimeEvent)

/-- Where `recv` is. -/
inductive Phase where
  /-- not called -/
  | idle
  | first
  | take
  | second
  /-- in `select!` -/
  | waiting
  deriving DecidableEq

/-- The channel. -/
structure Channel where
  companion : CompanionEventState
  /-- the bounded queue -/
  ordinary : List RuntimeEvent
  capacity : ℕ
  /-- a permit for the receiver is stored -/
  notified : Bool
  /-- the sends under way -/
  senders : List Sender
  /-- where `recv` is -/
  phase : Phase
  /-- the ordinary events since the last companion event -/
  reliableBurst : ℕ
  /-- the ordinary events in the order in which they were sent -/
  sent : List RuntimeEvent
  /-- the ordinary events that were received -/
  received : List RuntimeEvent
  /-- the registrations that returned true -/
  registered : List (Key × ℕ)
  /-- the companion events that were received, with the highest order registered by then -/
  snapshots : List (CompanionEvent × ℕ)
  /-- the ordinary events received since a companion event was received or none was pending -/
  since : ℕ

namespace Channel

variable (s : Channel)

/-- The highest order that was registered for a key. -/
def highest (key : Key) : ℕ :=
  ((s.registered.filter (·.1 = key)).map Prod.snd).foldr max 0

/-- The companion events have changed. -/
def setCompanion (companion : CompanionEventState) : Channel :=
  { s with companion := companion }

/-- The first step of `send`. -/
def send : RuntimeEvent → Channel
  | .other content => { s with senders := s.senders ++ [.ordinary (.other content)] }
  | .companion event =>
    match event.frame with
    | .companionSnapshot _ | .companionUnavailable _ =>
      let result := s.companion.sendSnapshot event
      { s with
        companion := result.1
        senders := if result.2 = .queued then s.senders ++ [.notify] else s.senders }
    | .companionError _ =>
      if outdated event.generation event.generationOrder
          (s.companion.currentGenerations.lookup event.key) then s
      else { s with senders := s.senders ++ [.invalidate event] }
    | .other _ =>
      if outdated event.generation event.generationOrder
          (s.companion.currentGenerations.lookup event.key) then s
      else { s with senders := s.senders ++ [.ordinary (.companion event)] }

/-- A later step of a `send`. One that has to wait for room is not enabled. -/
def resume (k : ℕ) : Option Channel :=
  match s.senders[k]? with
  | none => none
  | some .notify => some { s with notified := true, senders := s.senders.eraseIdx k }
  | some (.invalidate event) =>
    some { s with
      companion := s.companion.invalidateCompanion event.key event.generation
        event.generationOrder
      senders := s.senders.set k (.ordinary (.companion event)) }
  | some (.ordinary event) =>
    if s.ordinary.length < s.capacity then
      some { s with
        ordinary := s.ordinary ++ [event]
        sent := s.sent ++ [event]
        senders := s.senders.eraseIdx k }
    else none

/-- `try_send`, which fails if there is no room. -/
def trySend (event : RuntimeEvent) : Channel :=
  if s.ordinary.length < s.capacity then
    { s with ordinary := s.ordinary ++ [event], sent := s.sent ++ [event] }
  else s

/-- The receiver goes on. -/
def setPhase (phase : Phase) : Channel := { s with phase := phase }

/-- `recv` returns the first ordinary event, or goes on. -/
def recvOrdinary (otherwise : Option Channel) : Option Channel :=
  match s.ordinary with
  | [] => otherwise
  | event :: rest =>
    some { s with
      ordinary := rest
      received := s.received ++ [event]
      reliableBurst := s.reliableBurst + 1
      since := s.since + 1
      phase := .idle }

/-- `recv` looks at the snapshots. -/
def recvCompanion : Channel :=
  match s.companion.takeCompanion with
  | (companion, none) => { s with companion := companion, phase := .second }
  | (companion, some event) =>
    { s with
      companion := companion
      reliableBurst := 0
      since := 0
      snapshots := s.snapshots ++ [(event, s.highest event.key)]
      phase := .idle }

/-- The next step of `recv`. A receiver that sleeps has none. -/
def recv : Option Channel :=
  match s.phase with
  | .idle => some (s.setPhase .first)
  | .first =>
    if s.reliableBurst < maxReliableEventsBeforeCompanion then
      s.recvOrdinary (some (s.setPhase .take))
    else some (s.setPhase .take)
  | .take => some s.recvCompanion
  | .second => s.recvOrdinary (some (s.setPhase .waiting))
  | .waiting =>
    s.recvOrdinary (if s.notified then some { s with notified := false, phase := .first } else none)

/-- Nothing is pending, so nothing has been waiting. -/
def settle : Channel :=
  if s.companion.ready.isEmpty then { s with since := 0 } else s

end Channel

/-! ### Moves -/

/-- The calls of the senders and of the receiver, and how those that wait go on. -/
inductive Move where
  | registerCompanionGeneration (key : Key) (generation : String) (generationOrder : ℕ)
  | unregisterCompanionGeneration (key : Key) (generation : String) (generationOrder : ℕ)
  | invalidateCompanion (key : Key) (generation : String) (generationOrder : ℕ)
  | send (event : RuntimeEvent)
  | resume (k : ℕ)
  | trySend (event : RuntimeEvent)
  | recv
  /-- a `recv` that waits is dropped -/
  | cancel

namespace Channel

/-- One step, before `since` is settled. -/
def apply (s : Channel) : Move → Option Channel
  | .registerCompanionGeneration key generation generationOrder =>
    let result := s.companion.registerCompanionGeneration key generation generationOrder
    some { s with
      companion := result.1
      registered := if result.2 then (key, generationOrder) :: s.registered else s.registered }
  | .unregisterCompanionGeneration key generation generationOrder =>
    some (s.setCompanion
      (s.companion.unregisterCompanionGeneration key generation generationOrder))
  | .invalidateCompanion key generation generationOrder =>
    some (s.setCompanion (s.companion.invalidateCompanion key generation generationOrder))
  | .send event => some (s.send event)
  | .resume k => s.resume k
  | .trySend event => some (s.trySend event)
  | .recv => s.recv
  | .cancel => if s.phase = .waiting then some (s.setPhase .idle) else none

end Channel

/-- One move, after which the receiver takes what it waits for. -/
def step (s : Channel) (move : Move) : Option Channel := (s.apply move).map Channel.settle

/-- `runtime_event_channel_with_capacity`. -/
def runtimeEventChannelWithCapacity (capacity : ℕ) : Channel :=
  ⟨⟨∅, [], ∅⟩, [], max capacity 1, false, [], .idle, 0, [], [], [], [], 0⟩

end Kanna.RuntimeEvents
