import Kanna.Relay.PushOperations

/-!
# Tokens that the push provider rejects

A delivery reads the pairings and the registrations of the account, sends to their tokens, and
retires the records whose token the provider rejects. The retirement of a registration compares
the token again. That of a pairing compares certificates, with the certificate that the
delivery had read; a device that has meanwhile renewed its token under the same certificate is
retired for the token that it no longer has.

The rejections are right in the runs where a token that is renewed while a delivery of the pair
is in flight comes with a certificate that the delivery's own cannot follow (`RenewsToken`).
-/

namespace Kanna.Relay

open Durable

/-- A pairing that a delivery in flight may retire: the certificate it has read, and the token
it sends to. -/
structure InFlight where
  ref : PairingKey
  candidate : Certificate
  token : String

/-- The pairing of a document, for a delivery to `token`. -/
def inFlight (token : String) (doc : BindingDoc) : Option InFlight :=
  (storedCertificate doc.2).toOption.map fun candidate => ⟨doc.1, candidate, token⟩

/-- The pairings that an operation may retire after the provider has answered. -/
def Pending.inFlight : Pending → List InFlight
  | .publishing _ _ (some docs) _ => docs.filterMap fun doc =>
      (doc.2.fcmToken.map jsTrim).bind fun token => Relay.inFlight token doc
  | .delivery target _ _ => target.anonymousBindings.filterMap (Relay.inFlight target.token)
  | .reconcile ref candidate token _ => [⟨ref, candidate, token⟩]
  | _ => []

/-- The certificate that a delivery has read cannot follow the one of a registration. -/
def Outdated (candidate cert : Certificate) : Prop :=
  candidate.issuedAt < cert.issuedAt ∨
    (candidate.issuedAt = cert.issuedAt ∧ candidate.signature ≠ cert.signature)

instance (candidate cert : Certificate) : Decidable (Outdated candidate cert) :=
  inferInstanceAs (Decidable (_ ∨ (_ ∧ _)))

/-- The registration that a move commits: the request and the token. -/
def PushState.registering (s : PushState) : PushMove → Option (PairingRequest × String)
  | .commit i _ =>
    match s.pending[i]? with
    | some (.register request fcmToken _) => some (request, fcmToken)
    | _ => none
  | _ => none

/-- A registration that commits while deliveries of its pair are in flight has their token, or
a certificate that theirs cannot follow. -/
def RenewsToken (crypto : PushCrypto) (s : PushState) (move : PushMove) : Prop :=
  ∀ registration ∈ s.registering move, ∀ op ∈ s.pending, ∀ flight ∈ op.inFlight,
    flight.ref = pairingKey crypto registration.1.desktopPubKey registration.1.deviceId →
    flight.token = jsTrim registration.2 ∨ Outdated flight.candidate registration.1.cert

instance (crypto : PushCrypto) (s : PushState) (move : PushMove) :
    Decidable (RenewsToken crypto s move) :=
  inferInstanceAs (Decidable (∀ registration ∈ s.registering move, ∀ op ∈ s.pending,
    ∀ flight ∈ op.inFlight, _ → (_ ∨ _)))

/-- The rejections that have retired a record named the token that it held. -/
def RejectsHeld (s : PushState) : Prop :=
  (∀ ref token held, .pairingRejected ref token (some held) ∈ s.log → jsTrim held = token) ∧
  ∀ ref token held, .deviceRejected ref token held ∈ s.log → held = some token

/-! ### What is in flight -/

/-- The comparison depends on the mark alone. -/
theorem assert_congr {candidate : Certificate} {record other : PairingRecord}
    (h : record.mark = other.mark) :
    assertCurrentOrNewerCertificate candidate (some record) =
      assertCurrentOrNewerCertificate candidate (some other) := by
  rcases record with ⟨_, _, _, _, issuedAt, _, signature⟩
  rcases other with ⟨_, _, _, _, issuedAt', _, signature'⟩
  cases issuedAt with
  | none =>
    cases issuedAt' with
    | none => rfl
    | some issuedAt' => cases h
  | some issuedAt =>
    cases issuedAt' with
    | none => cases h
    | some issuedAt' =>
      cases h
      rfl

/-- The comparison refuses an outdated certificate. -/
theorem assert_ne_ok_of_outdated {candidate cert : Certificate} {record : PairingRecord}
    (hmark : record.mark = some cert.mark) (h : Outdated candidate cert) :
    assertCurrentOrNewerCertificate candidate (some record) ≠ .ok () := by
  intro hok
  rcases before_of_assert hok hmark with hlt | heq
  · have hlt : cert.issuedAt < candidate.issuedAt := hlt
    rcases h with hlt' | ⟨heq, -⟩ <;> omega
  · have hissued : cert.issuedAt = candidate.issuedAt := congrArg Prod.fst heq
    have hsignature : some cert.signature = some candidate.signature := congrArg Prod.snd heq
    rcases h with hlt' | ⟨-, hne⟩
    · omega
    · exact hne (Option.some.inj hsignature).symm

/-- The pairing holds the token of the delivery, or would refuse its certificate. -/
def InFlight.Safe (s : PushState) (flight : InFlight) : Prop :=
  ∀ record held, s.pairings.lookup flight.ref = some record → record.liveToken = some held →
    jsTrim held = flight.token ∨
      assertCurrentOrNewerCertificate flight.candidate (some record) ≠ .ok ()

variable {s s' : PushState}

variable {crypto : PushCrypto} {op : Pending}

/-- **A new operation is safe**: it has just been read, or comes from one that was. -/
theorem Origin.safe (h : Origin crypto s op)
    (hsafe : ∀ other ∈ s.pending, ∀ flight ∈ other.inFlight, flight.Safe s) :
    ∀ flight ∈ op.inFlight, flight.Safe s := by
  intro flight hflight
  cases h with
  | bindings hop hdocs =>
    obtain ⟨doc, hdoc, hsome⟩ := List.mem_filterMap.mp hflight
    obtain ⟨token, htoken, hread⟩ := Option.bind_eq_some_iff.mp hsome
    obtain ⟨candidate, -, rfl⟩ := Option.map_eq_some_iff.mp hread
    intro record held hrecord hheld
    cases (hdocs doc hdoc).symm.trans hrecord
    rw [(Option.filter_eq_some_iff.mp hheld).1] at htoken
    exact .inl (Option.some.inj htoken)
  | @devices input nowMs bindings docs hop =>
    refine hsafe _ hop flight ?_
    cases bindings with
    | none => cases hflight
    | some bindings => exact hflight
  | delivery hop hdocs =>
    obtain ⟨doc, hdoc, hread⟩ := List.mem_filterMap.mp hflight
    obtain ⟨hmem, htoken⟩ := hdocs doc hdoc
    refine hsafe _ hop flight (List.mem_filterMap.mpr ⟨doc, hmem, ?_⟩)
    rw [htoken, Option.bind_some, hread]
  | @reconcile target desktopId nowMs doc candidate hop hdoc hcandidate =>
    rw [List.mem_singleton.mp hflight]
    refine hsafe _ hop _ (List.mem_filterMap.mpr ⟨doc, hdoc, ?_⟩)
    rw [inFlight, hcandidate]
    rfl
  | _ => cases hflight

/-- **A transaction keeps what is in flight safe**, if its registration renews the token as it
should. -/
theorem InFlight.Safe.transacted
    {flight : InFlight} (h : flight.Safe s) (htransacted : Transacted crypto s op s')
    (hrenews : ∀ request fcmToken nowMs, op = .register request fcmToken nowMs →
      flight.ref = pairingKey crypto request.desktopPubKey request.deviceId →
      flight.token = jsTrim fcmToken ∨ Outdated flight.candidate request.cert) :
    flight.Safe s' := by
  intro record held hrecord hheld
  have hlive : record.liveToken ≠ none := by
    rw [hheld]
    exact Option.some_ne_none held
  obtain ⟨old, hold, htoken, hmark⟩ | ⟨request, fcmToken, nowMs, hop, hregistered⟩ :=
    htransacted.live_token hrecord hlive
  · rw [← assert_congr hmark]
    exact h old held hold (htoken.trans hheld)
  · rcases hrenews request fcmToken nowMs hop hregistered.key with hsame | houtdated
    · have hfcm := (Option.filter_eq_some_iff.mp hheld).1
      rw [hregistered.token] at hfcm
      cases hfcm
      exact .inl hsame.symm
    · exact .inr (assert_ne_ok_of_outdated hregistered.mark houtdated)

/-! ### Rejections -/

/-- What holds of the log, and of everything in flight. -/
structure Rejecting (s : PushState) : Prop where
  held : RejectsHeld s
  safe : ∀ op ∈ s.pending, ∀ flight ∈ op.inFlight, flight.Safe s

/-- A log that grows by something that is not a rejection. -/
theorem RejectsHeld.cons (h : RejectsHeld s) {entry : PushEntry} (hlog : s'.log = entry :: s.log)
    (hpairing : ∀ ref token held, entry = .pairingRejected ref token (some held) →
      jsTrim held = token)
    (hdevice : ∀ ref token held, entry = .deviceRejected ref token held → held = some token) :
    RejectsHeld s' := by
  rw [RejectsHeld, hlog]
  constructor
  · intro ref token held hmem
    rcases List.mem_cons.mp hmem with heq | hold
    · exact hpairing ref token held heq.symm
    · exact h.1 ref token held hold
  · intro ref token held hmem
    rcases List.mem_cons.mp hmem with heq | hold
    · exact hdevice ref token held heq.symm
    · exact h.2 ref token held hold

/-- **A rejection that retires a record names the token that the record holds.** -/
theorem RejectsHeld.transacted (h : RejectsHeld s) (htransacted : Transacted crypto s op s')
    (hsafe : ∀ flight ∈ op.inFlight, flight.Safe s) : RejectsHeld s' := by
  cases htransacted with
  | registered => exact h.cons rfl nofun nofun
  | desktopRevoked =>
    exact h.cons rfl nofun nofun
  | @reconciled ref candidate token nowMs current certificate write hretires =>
    refine h.cons rfl ?_ nofun
    intro other token' held heq
    obtain ⟨rfl, rfl, hheld⟩ := PushEntry.pairingRejected.inj heq
    have hflight := hsafe ⟨ref, candidate, token⟩ (List.mem_singleton_self _)
    rcases hflight current held hretires.stored hheld with hsame | hrefused
    · exact hsame
    · -- the comparison was made with the certificate of the delivery
      cases hretires.ordering
      exact absurd hretires.newer hrefused
  | deviceRetired hcurrent hheld =>
    refine h.cons rfl nofun ?_
    intro other token held heq
    obtain ⟨rfl, rfl, rfl⟩ := PushEntry.deviceRejected.inj heq
    exact hheld
  | _ => exact h

theorem Rejecting.step {move : PushMove} (h : Rejecting s) (hrenews : RenewsToken crypto s move)
    (hstep : pushStep crypto s move = some s') : Rejecting s' := by
  cases next_of_step hstep with
  | ticked => exact ⟨h.held, h.safe⟩
  | waiting hops =>
    refine ⟨h.held, fun op hop => ?_⟩
    rcases hops op hop with hold | horigin
    · exact h.safe op hold
    · exact horigin.safe h.safe
  | @committed i admitted ops op s' hmove hop hops hdone =>
    have htransacted := transacted_of_transact hdone
    have hmem := List.mem_of_getElem? hop
    refine ⟨RejectsHeld.transacted (s := { s with pending := ops }) h.held htransacted
      (h.safe op hmem), ?_⟩
    rw [htransacted.clock_pending.2]
    intro other hother flight hflight
    have hsafe := h.safe other (hops other hother) flight hflight
    refine InFlight.Safe.transacted (s := { s with pending := ops }) hsafe htransacted ?_
    intro request fcmToken nowMs heq href
    subst hmove heq
    have hregistering : s.registering (.commit i admitted) = some (request, fcmToken) := by
      rw [PushState.registering, hop]
    exact hrenews _ hregistering other (hops other hother) flight hflight href
  | registrations => exact ⟨h.held, h.safe⟩

/-- **The push provider's rejections retire only records that hold the rejected token**, in
every run in which a token that is renewed under a delivery comes with a certificate that the
delivery's own cannot follow. -/
theorem rejections_retire_held_tokens {crypto : PushCrypto} {start : PushState}
    {moves : List PushMove} (hpending : start.pending = []) (hlog : start.log = [])
    (hrenews : Meets (pushStep crypto) (RenewsToken crypto) start moves) :
    Always (pushStep crypto) RejectsHeld start moves := by
  refine always_of_meets (fun h => h.held) Rejecting.step ⟨⟨?_, ?_⟩, ?_⟩ hrenews
  · rw [hlog]
    exact nofun
  · rw [hlog]
    exact nofun
  · rw [hpending]
    exact nofun

/-- A delivery to the token of a device, which renews the token with a certificate issued at a
given time before the provider rejects the old one. -/
def renewUnderDelivery (issuedAt : Int) : List PushMove :=
  [.post (pairingBody "token" 50), .commit 0 true, .publish ⟨"desktop", none, none, true⟩,
    .readBindings 0, .readDevices 0, .send 0 fun _ => true, .post (pairingBody "fresh" issuedAt),
    .commit 1 true, .answer 0 (.rejected "messaging/registration-token-not-registered"),
    .commit 0 true]

theorem rejections_retire_held_tokens_renewed :
    Meets (pushStep trustingCrypto) (RenewsToken trustingCrypto) emptyPush
      (renewUnderDelivery 60) ∧
    Always (pushStep trustingCrypto) RejectsHeld emptyPush (renewUnderDelivery 60) := by
  have hmeets : Meets (pushStep trustingCrypto) (RenewsToken trustingCrypto) emptyPush
      (renewUnderDelivery 60) := by decide
  exact ⟨hmeets, rejections_retire_held_tokens rfl rfl hmeets⟩

/-- **A token that is renewed under the same certificate is retired for the old one.** -/
theorem renewed_token_retired :
    ∃ s, run (pushStep trustingCrypto) emptyPush (renewUnderDelivery 50) = some s ∧
      .pairingRejected ⟨"desktop", "phone"⟩ "token" (some "fresh") ∈ s.log ∧
      (s.pairings.lookup ⟨"desktop", "phone"⟩).bind (·.liveToken) = none ∧
      ¬ RejectsHeld s := by
  refine ⟨_, rfl, by decide, by decide, fun h => ?_⟩
  have hsame := h.1 ⟨"desktop", "phone"⟩ "token" "fresh" (by decide)
  exact absurd hsame (by decide)

end Kanna.Relay
