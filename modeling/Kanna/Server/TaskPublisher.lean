import Kanna.Lib.Run

/-!
# Publishing task snapshots to the relay

`crates/kanna-server/src/cloud_task_publisher.rs`, `PublisherState`: the relay loop observes the
desktop's tasks and publishes a snapshot of them when it differs from the last one that the relay
answered. A request that gets no answer is sent again, a few times, before the connection is given
up; a new connection publishes again whatever was answered before.

The requests are numbered in one sequence for all connections. An acknowledgment names its
request, so that a late one is not taken for that of a later request.
-/

namespace Kanna

/-- `MAX_PUBLISH_ATTEMPTS`. -/
def maxPublishAttempts : ℕ := 3

/-- `ACK_TIMEOUT`, in milliseconds. -/
def ackTimeout : ℕ := 15000

/-- What the publisher asks of a snapshot (`CloudTaskSnapshotEnvelope`). -/
class CloudSnapshot (S : Type) where
  forPublicationVersion : ℕ → S → S
  fingerprint : S → String

open CloudSnapshot

/-- `PublishRequest`, by the number in its id. -/
structure PublishRequest (S : Type) where
  number : ℕ
  snapshot : S

/-- `PublishRequest::id`. -/
def PublishRequest.id {S : Type} (request : PublishRequest S) : String :=
  s!"task-snapshot-{request.number}"

/-- `InFlight`. -/
structure InFlight (S : Type) where
  request : PublishRequest S
  attempt : ℕ
  sentAt : ℕ

/-- `PublisherStep`. -/
inductive PublisherStep (S : Type) where
  | publish (request : PublishRequest S)
  | reconnect
  | wait

/-- `PublisherState`, over the type of the snapshots. A retry is due at its first component and
is the attempt that the second one counts. -/
structure PublisherState (S : Type) where
  authenticated : Bool := false
  publicationVersion : ℕ := 1
  forceReconcile : Bool := false
  /-- the newest snapshot -/
  latest : Option S := none
  lastAckedFingerprint : Option String := none
  inFlight : Option (InFlight S) := none
  retryAt : Option (ℕ × ℕ) := none
  reconnect : Bool := false
  /-- the number of the next request -/
  nextId : ℕ := 1

namespace PublisherState

variable {S : Type} [CloudSnapshot S]

variable (s : PublisherState S)

/-- `on_authenticated`. -/
def onAuthenticated (advertisedVersion : Option ℕ) : PublisherState S :=
  { s with
    authenticated := true
    publicationVersion := if advertisedVersion = some 2 then 2 else 1
    forceReconcile := true
    reconnect := false }

/-- `on_disconnected`. -/
def onDisconnected : PublisherState S :=
  { s with
    authenticated := false, forceReconcile := true, inFlight := none, retryAt := none
    reconnect := false }

/-- `observe`. -/
def observe (snapshot : S) : PublisherState S :=
  { s with latest := some snapshot }

/-- `schedule_retryable_failure`. -/
def scheduleRetryableFailure (attempt now : ℕ) : PublisherState S :=
  { s with
    retryAt := some (now + 1000 * 1 <<< (min attempt maxPublishAttempts - 1),
      min (attempt + 1) maxPublishAttempts) }

/-- `schedule_failure`. -/
def scheduleFailure (attempt now : ℕ) : PublisherState S :=
  if maxPublishAttempts ≤ attempt then { s with reconnect := true }
  else { s with retryAt := some (now + 1000 * 1 <<< (attempt - 1), attempt + 1) }

/-- The end of `next_step`. -/
def send (request : PublishRequest S) (now : ℕ) : PublisherState S :=
  { s with
    retryAt := none
    forceReconcile := false
    nextId := s.nextId + 1
    inFlight := some ⟨request, (s.retryAt.map (·.2)).getD 1, now⟩ }

/-- The part of `next_step` with no request in flight. -/
def publishLatest (now : ℕ) : PublisherState S × PublisherStep S :=
  if s.retryAt.any (now < ·.1) then (s, .wait)
  else
    match s.latest.map (forPublicationVersion s.publicationVersion) with
    | none => (s, .wait)
    | some snapshot =>
      if s.retryAt.isNone ∧ s.forceReconcile = false ∧
          s.lastAckedFingerprint = some (fingerprint snapshot) then
        (s, .wait)
      else
        (s.send ⟨s.nextId, snapshot⟩ now, .publish ⟨s.nextId, snapshot⟩)

/-- `next_step`. -/
def nextStep (now : ℕ) : PublisherState S × PublisherStep S :=
  if s.reconnect then (s, .reconnect)
  else if s.authenticated = false then (s, .wait)
  else
    match s.inFlight with
    | none => s.publishLatest now
    | some flying =>
      if now - flying.sentAt < ackTimeout then (s, .wait)
      else
        let s := { s with inFlight := none }.scheduleFailure flying.attempt now
        if s.reconnect then (s, .reconnect) else s.publishLatest now

/-- `on_ack`. -/
def onAck (id : String) (ok retryable : Bool) (now : ℕ) : PublisherState S × Except String Unit :=
  match s.inFlight with
  | none => (s, .error s!"unexpected task snapshot acknowledgement {id}")
  | some flying =>
    if flying.request.id ≠ id then
      (s, .error s!"task snapshot acknowledgement id mismatch: {id}")
    else
      let s := { s with inFlight := none }
      if ok = false ∧ retryable then (s.scheduleRetryableFailure flying.attempt now, .ok ())
      else
        -- a permanent refusal is an answer too
        ({ s with lastAckedFingerprint := some (fingerprint flying.request.snapshot) }, .ok ())

/-- What `next_step` can do, with what it found in each case. -/
inductive Ticked (s : PublisherState S) (now : ℕ) : PublisherState S × PublisherStep S → Prop where
  | reconnect : s.reconnect → Ticked s now (s, .reconnect)
  | busy : s.authenticated = false ∨ s.latest = none ∨ s.inFlight ≠ none ∨ s.retryAt ≠ none →
      Ticked s now (s, .wait)
  | suppressed {latest : S} : s.reconnect = false → s.forceReconcile = false →
      s.inFlight = none → s.retryAt = none → s.latest = some latest →
      s.lastAckedFingerprint =
        some (fingerprint (forPublicationVersion s.publicationVersion latest)) →
      Ticked s now (s, .wait)
  | givenUp : Ticked s now ({ s with inFlight := none, reconnect := true }, .reconnect)
  | failed {flying : InFlight S} (due : ℕ) : s.inFlight = some flying →
      flying.attempt < maxPublishAttempts →
      Ticked s now ({ s with inFlight := none, retryAt := some (due, flying.attempt + 1) }, .wait)
  | published (snapshot : S) :
      Ticked s now (s.send ⟨s.nextId, snapshot⟩ now, .publish ⟨s.nextId, snapshot⟩)

variable {s : PublisherState S}

theorem publishLatest_waits {now due attempt : ℕ} (hretry : s.retryAt = some (due, attempt))
    (hdue : now < due) : s.publishLatest now = (s, .wait) := by
  simp [publishLatest, hretry, hdue]

theorem ticked_publishLatest {now : ℕ} (hrec : s.reconnect = false) (hidle : s.inFlight = none) :
    Ticked s now (s.publishLatest now) := by
  unfold publishLatest
  split_ifs with hretry
  · refine .busy (.inr (.inr (.inr fun hnone => ?_)))
    simp [hnone] at hretry
  · cases hlatest : s.latest with
    | none => exact .busy (.inr (.inl hlatest))
    | some latest =>
      dsimp only [Option.map_some]
      split_ifs with hsame
      · obtain ⟨hnone, hforce, hacked⟩ := hsame
        exact .suppressed hrec hforce hidle (Option.isNone_iff_eq_none.mp hnone) hlatest hacked
      · exact .published _

theorem ticked_nextStep (s : PublisherState S) (now : ℕ) : Ticked s now (s.nextStep now) := by
  unfold nextStep
  split_ifs with hrec hauth
  · exact .reconnect hrec
  · exact .busy (.inl hauth)
  · rw [Bool.not_eq_true] at hrec
    cases hflying : s.inFlight with
    | none => exact ticked_publishLatest hrec hflying
    | some flying =>
      by_cases hyoung : now - flying.sentAt < ackTimeout
      · dsimp only
        rw [if_pos hyoung]
        exact .busy (.inr (.inr (.inl (by simp [hflying]))))
      · dsimp only
        rw [if_neg hyoung]
        by_cases hlast : maxPublishAttempts ≤ flying.attempt
        · rw [scheduleFailure, if_pos hlast]
          exact .givenUp
        · have hdelay : 0 < 1000 * 1 <<< (flying.attempt - 1) :=
            Nat.mul_pos (by decide) (Nat.one_shiftLeft _ ▸ Nat.two_pow_pos _)
          -- the retry is due later, so nothing is sent in this step
          rw [scheduleFailure, if_neg hlast, if_neg (by simp [hrec]),
            publishLatest_waits rfl (Nat.lt_add_of_pos_right hdelay)]
          exact .failed _ hflying (Nat.lt_of_not_le hlast)

end PublisherState

/-- The publisher with its history: the requests it handed out, the last one first, and the last
one again if the relay has accepted it or refused it for good in this connection. -/
structure Publication (S : Type) extends PublisherState S where
  sent : List (PublishRequest S) := []
  answered : Option (PublishRequest S × Bool) := none

/-- What the relay loop does with the publisher. -/
inductive PublisherMove (S : Type) where
  | authenticated (advertisedVersion : Option ℕ)
  | disconnected
  | observe (snapshot : S)
  | tick (now : ℕ)
  | ack (id : String) (ok retryable : Bool) (now : ℕ)

namespace Publication

open PublisherState

variable {S : Type} [CloudSnapshot S]

/-- The history after a step of the publisher. -/
def record (s : Publication S) : PublisherState S × PublisherStep S → Publication S
  | (publisher, .publish request) => { toPublisherState := publisher, sent := request :: s.sent }
  | (publisher, _) => { s with toPublisherState := publisher }

/-- The history after an acknowledgment. -/
def answer (s : Publication S) (id : String) (ok retryable : Bool) (now : ℕ) : Publication S :=
  { s with
    toPublisherState := (s.onAck id ok retryable now).1
    answered :=
      match s.inFlight with
      | none => s.answered
      | some flying =>
        if flying.request.id ≠ id then s.answered
        else if ok = false ∧ retryable then s.answered
        else some (flying.request, ok) }

/-- One move of the relay loop. -/
def step (s : Publication S) : PublisherMove S → Option (Publication S)
  | .authenticated version =>
    some { s with toPublisherState := s.onAuthenticated version, answered := none }
  | .disconnected => some { s with toPublisherState := s.onDisconnected, answered := none }
  | .observe snapshot => some { s with toPublisherState := s.toPublisherState.observe snapshot }
  | .tick now => some (s.record (s.nextStep now))
  | .ack id ok retryable now => some (s.answer id ok retryable now)

/-- What every move keeps. `settled` is the point: a publisher that is connected and has neither
a request in flight nor a retry nor a reconnect ahead got its last fingerprint from an answer to
its last request. -/
structure Valid (s : Publication S) : Prop where
  /-- a new request gets a new number -/
  numbered : ∀ request ∈ s.sent, request.number < s.nextId
  distinct : (s.sent.map PublishRequest.number).Nodup
  /-- the request in flight is the last one -/
  flying : ∀ flying ∈ s.inFlight, s.sent.head? = some flying.request ∧
    1 ≤ flying.attempt ∧ flying.attempt ≤ maxPublishAttempts
  retry : ∀ retry ∈ s.retryAt, 1 ≤ retry.2 ∧ retry.2 ≤ maxPublishAttempts
  settled : s.authenticated → s.forceReconcile = false → s.reconnect = false →
    s.inFlight = none → s.retryAt = none → ∃ request ok, s.answered = some (request, ok) ∧
      s.sent.head? = some request ∧ s.lastAckedFingerprint = some (fingerprint request.snapshot)

variable {s s' : Publication S}

theorem Valid.record (hs : s.Valid) {now : ℕ} {result : PublisherState S × PublisherStep S}
    (hticked : Ticked s.toPublisherState now result) : (s.record result).Valid := by
  cases hticked with
  | reconnect _ | busy _ | suppressed _ _ _ _ _ _ => exact hs
  | givenUp => exact { hs with flying := nofun, settled := nofun }
  | failed due hflying hlast =>
    refine { hs with flying := nofun, settled := nofun, retry := ?_ }
    rintro _ ⟨⟩
    exact ⟨Nat.le_add_left .., hlast⟩
  | published snapshot =>
    refine ⟨?_, ?_, ?_, nofun, nofun⟩
    · rintro request (_ | ⟨_, hmem⟩)
      · exact Nat.lt_succ_self _
      · exact Nat.lt_succ_of_lt (hs.numbered request hmem)
    · refine List.nodup_cons.mpr ⟨fun hmem => ?_, hs.distinct⟩
      obtain ⟨request, hmem, heq⟩ := List.mem_map.mp hmem
      exact Nat.ne_of_lt (hs.numbered request hmem) heq
    · rintro _ ⟨⟩
      refine ⟨rfl, ?_⟩
      cases hretry : s.retryAt with
      | none => exact (by decide : 1 ≤ 1 ∧ 1 ≤ maxPublishAttempts)
      | some retry => exact hs.retry retry hretry

theorem Valid.answer (hs : s.Valid) (id : String) (ok retryable : Bool) (now : ℕ) :
    (s.answer id ok retryable now).Valid := by
  unfold Publication.answer onAck
  cases hflying : s.inFlight with
  | none => exact hs
  | some flying =>
    obtain ⟨hhead, -⟩ := hs.flying flying hflying
    dsimp only
    split_ifs with hid hretry
    · exact hs
    · refine { hs with flying := nofun, settled := nofun, retry := ?_ }
      rintro _ ⟨⟩
      exact ⟨Nat.le_min.mpr ⟨Nat.le_add_left .., by decide⟩, Nat.min_le_right ..⟩
    · exact { hs with flying := nofun, settled := fun _ _ _ _ _ => ⟨_, ok, rfl, hhead, rfl⟩ }

theorem Valid.step (hs : s.Valid) {move : PublisherMove S}
    (hstep : step s move = some s') : s'.Valid := by
  cases move <;> cases hstep
  case tick now => exact hs.record (ticked_nextStep s.toPublisherState now)
  case ack id ok retryable now => exact hs.answer id ok retryable now
  case observe => exact { hs with }
  case authenticated => exact { hs with settled := nofun }
  case disconnected => exact { hs with flying := nofun, retry := nofun, settled := nofun }

/-- **Nothing to do means published.** For every order of connections, observations, steps and
acknowledgments: no two requests have the same number; only the last one can be in flight, in one
of its three attempts; and when `next_step` of a connected publisher waits with neither a request
in flight nor a retry ahead, the last request carried the snapshot observed last, in the version
of the connection, and this connection brought its answer. -/
theorem published_latest (moves : List (PublisherMove S)) :
    Always Publication.step
      (fun s => (s.sent.map PublishRequest.number).Nodup ∧
        (∀ flying ∈ s.inFlight, s.sent.head? = some flying.request ∧
          1 ≤ flying.attempt ∧ flying.attempt ≤ maxPublishAttempts) ∧
        ∀ latest now state, s.authenticated → s.latest = some latest →
          s.nextStep now = (state, .wait) → state.inFlight = none → state.retryAt = none →
          ∃ request ok, s.answered = some (request, ok) ∧ s.sent.head? = some request ∧
            fingerprint request.snapshot =
              fingerprint (forPublicationVersion s.publicationVersion latest))
      {} moves := by
  have hstart : Valid ({} : Publication S) := ⟨nofun, List.nodup_nil, nofun, nofun, nofun⟩
  refine (always_of_invariant (fun hs hstep => hs.step hstep) moves hstart).mono fun {s} hs => ?_
  refine ⟨hs.distinct, hs.flying, ?_⟩
  intro latest now state hauth hlatest hnext hidle hretry
  have hticked := ticked_nextStep s.toPublisherState now
  rw [hnext] at hticked
  cases hticked with
  | busy h => simp_all
  | failed => simp at hretry
  | suppressed hrec hforce _ _ hlatest' hacked =>
    obtain ⟨request, ok, hanswered, hhead, hlast⟩ := hs.settled hauth hforce hrec hidle hretry
    obtain rfl : latest = _ := Option.some.inj (hlatest.symm.trans hlatest')
    exact ⟨request, ok, hanswered, hhead, Option.some.inj (hlast.symm.trans hacked)⟩

end Publication

end Kanna
