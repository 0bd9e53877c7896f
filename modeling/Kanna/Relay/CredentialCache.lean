import Kanna.Lib.Run
import Kanna.Lib.TtlCache

/-!
# The relay's revalidation of desktop credentials

Every message a desktop publishes is checked by `revalidateServerAuth`, which trusts a cached
acceptance for a TTL and otherwise reads Firestore (`auth.ts`). A read takes arbitrary time:
Firestore serves its queries at some moments between its start and its end. An acceptance is
cached until the TTL after the *end* of its read; a rejection drops the entry.

An acceptance that Firestore served before the revocation, and that arrives after it, is
honoured for a TTL from then, even after a rejection; `Timely` excludes it.
-/

namespace Kanna.CredentialCache

/-- `DesktopPrincipal`. -/
structure DesktopPrincipal where
  userId : String
  desktopId : String
  deriving DecidableEq

/-- A document of `desktopCredentials`; the digest is absent if it is no usable hash. -/
structure CredentialDoc (Digest : Type) where
  desktopId : String
  revokedAt : Bool
  uid : Option String
  desktopSecretHash : Option Digest

/-- A document of a user's `desktops`, with the id of the user it is under. -/
structure DesktopDoc (Digest : Type) where
  revokedAt : Bool
  desktopSecretHash : Option Digest
  userId : Option String

/-- What Firestore holds: the canonical documents by their ids, and what the query for a desktop
id finds under the users. -/
structure Store (Digest : Type) where
  desktopCredentials : String → Option (CredentialDoc Digest)
  desktops : String → List (DesktopDoc Digest)

/-- The hash of secrets, and how long a verdict is cached. -/
structure Config (Digest : Type) where
  hashDesktopSecret : String → Digest
  desktopCredentialCacheTtlMs : Nat

/-- How many legacy documents are read. -/
def DESKTOP_LOOKUP_LIMIT : Nat := 10

/-- How many verdicts are cached at most. -/
def DESKTOP_CREDENTIAL_CACHE_MAX_ENTRIES : Nat := 10000

/-- The id of a desktop's document. -/
def desktopDocumentId (desktopId : String) : String :=
  if desktopId = "." then "desktop-2e"
  else if desktopId = ".." then "desktop-2e2e"
  else String.ofList (desktopId.toList.map fun c => if c = '/' then '_' else c)

/-- A desktop id with the digest of a secret. -/
structure Credential (Digest : Type) where
  desktopId : String
  digest : Digest
  deriving DecidableEq

variable {Digest : Type} [DecidableEq Digest]

/-- The verdict of a canonical document. -/
def CredentialDoc.verdict (doc : CredentialDoc Digest) (c : Credential Digest) :
    Option DesktopPrincipal :=
  if doc.desktopId = c.desktopId ∧ doc.revokedAt = false ∧ doc.desktopSecretHash = some c.digest
  then doc.uid.map fun uid => ⟨uid, c.desktopId⟩
  else none

/-- The verdict of the documents under the users: they must name one user. -/
def legacyVerdict (docs : List (DesktopDoc Digest)) (c : Credential Digest) :
    Option DesktopPrincipal :=
  let matching := (docs.take DESKTOP_LOOKUP_LIMIT).filter fun doc =>
    doc.revokedAt = false ∧ doc.desktopSecretHash = some c.digest
  match (matching.filterMap DesktopDoc.userId).dedup with
  | [userId] => some ⟨userId, c.desktopId⟩
  | _ => none

/-- How far `readDesktopCredentials` has come: it asks for the canonical document, then, if there
is none, for those under the users. -/
inductive Progress where
  | reading
  | absent
  | done (verdict : Option DesktopPrincipal)

/-- Firestore answers the read that is due. -/
def Progress.serve (store : Store Digest) (c : Credential Digest) : Progress → Progress
  | .reading =>
    match store.desktopCredentials (desktopDocumentId c.desktopId) with
    | some doc => .done (doc.verdict c)
    | none => .absent
  | .absent => .done (legacyVerdict (store.desktops c.desktopId) c)
  | .done verdict => .done verdict

/-- Firestore, read at one moment, accepts the credential. -/
def Store.accepts (store : Store Digest) (c : Credential Digest) : Bool :=
  match store.desktopCredentials (desktopDocumentId c.desktopId) with
  | some doc => (doc.verdict c).isSome
  | none => (legacyVerdict (store.desktops c.desktopId) c).isSome

/-- Since when a credential is refused, and whether a read has rejected it since. -/
structure Revocation where
  atMs : Nat
  rejected : Bool
  deriving DecidableEq

/-- A call that reads: `verifyDesktopCredentials`, or `revalidateServerAuth` with the account and
the desktop it expects. `revoked` notes what was known of the credential when it started. -/
structure Call (Digest : Type) where
  credential : Credential Digest
  expected : Option (String × String)
  startMs : Nat
  revoked : Option Revocation
  progress : Progress := .reading

/-- The answer of a revalidation, with the state of the credential at that moment. -/
structure Decision (Digest : Type) where
  call : Call Digest
  success : Bool
  revoked : Option Revocation

/-- The time, Firestore, the relay's cache and its open calls; `revoked` and `decisions` note the
revocations that stand and the revalidations that were answered. -/
structure State (Digest : Type) where
  now : Nat := 0
  store : Store Digest
  revoked : Credential Digest → Option Revocation
  cache : TtlCache String (Digest × DesktopPrincipal) := .empty
  calls : List (Call Digest) := []
  decisions : List (Decision Digest) := []

/-- `ServerAuthProof`; a device token proves no desktop. -/
inductive ServerAuthProof where
  | desktop (desktopId desktopSecret : String)
  | device (desktopId deviceToken : String)

/-- The desktop that the proof is about. -/
def ServerAuthProof.desktopId : ServerAuthProof → String
  | .desktop desktopId _ => desktopId
  | .device desktopId _ => desktopId

/-- The clock, a write to the store, the two calls, and how a call's reads are served, come back
or fail. -/
inductive Move (Digest : Type) where
  | tick (ms : Nat)
  | write (store : Store Digest)
  | verify (desktopId desktopSecret : String)
  | revalidate (proof : ServerAuthProof) (expectedUserId expectedDesktopId : String)
  | serve (i : Nat)
  | answer (i : Nat)
  | fail (i : Nat)

variable (cfg : Config Digest)

/-- Whether a principal is the one a revalidation expects. -/
def isExpected (expected : String × String) (principal : Option DesktopPrincipal) : Bool :=
  principal = some ⟨expected.1, expected.2⟩

variable (s : State Digest)

/-- A call is answered. -/
def State.decide (call : Call Digest) (success : Bool) : State Digest :=
  { s with decisions := s.decisions ++ [⟨call, success, s.revoked call.credential⟩] }

/-- The end of a call that has read: a revalidation is answered. -/
def State.finish (call : Call Digest) (principal : Option DesktopPrincipal) : State Digest :=
  match call.expected with
  | none => s
  | some expected => s.decide call (isExpected expected principal)

/-- A credential is revoked when Firestore ceases to accept it. It is restored when Firestore
accepts it again, or when the documents under the users come to accept it. -/
def State.write (store : Store Digest) : State Digest :=
  { s with
    store
    revoked := fun c =>
      if store.accepts c then none
      else if (legacyVerdict (store.desktops c.desktopId) c).isSome ∧
          (legacyVerdict (s.store.desktops c.desktopId) c).isNone ∨ s.revoked c = none then
        some ⟨s.now, false⟩
      else s.revoked c }

/-- `cachedDesktopPrincipal`. -/
def cachedDesktopPrincipal (c : Credential Digest) :
    Option DesktopPrincipal × TtlCache String (Digest × DesktopPrincipal) :=
  match s.cache.lookup c.desktopId s.now with
  | (some entry, cache) => (if entry.value.1 = c.digest then some entry.value.2 else none, cache)
  | (none, cache) => (none, cache)

/-- `revalidateServerAuth` up to its read. -/
def revalidateServerAuth (call : Call Digest) (expected : String × String) : State Digest :=
  match cachedDesktopPrincipal s call.credential with
  | (some principal, cache) =>
    State.decide { s with cache } call (isExpected expected (some principal))
  | (none, cache) => { s with cache, calls := s.calls ++ [call] }

/-- `verifyDesktopCredentials` after its read. -/
def verifyDesktopCredentials (c : Credential Digest) :
    Option DesktopPrincipal → State Digest
  | none =>
    { s with
      cache := s.cache.delete c.desktopId
      revoked := Function.update s.revoked c
        ((s.revoked c).map fun revocation => { revocation with rejected := true }) }
  | some principal =>
    { s with
      cache := s.cache.store DESKTOP_CREDENTIAL_CACHE_MAX_ENTRIES cfg.desktopCredentialCacheTtlMs
        c.desktopId (c.digest, principal) s.now }

/-- A call that starts now. -/
def State.call (desktopId desktopSecret : String)
    (expected : Option (String × String)) : Call Digest :=
  let credential := ⟨desktopId, cfg.hashDesktopSecret desktopSecret⟩
  { credential, expected, startMs := s.now, revoked := s.revoked credential }

/-- One move, if it is enabled. -/
def step : Move Digest → Option (State Digest)
  | .tick ms => some { s with now := s.now + ms }
  | .write store => some (s.write store)
  | .verify desktopId desktopSecret =>
    some { s with calls := s.calls ++ [s.call cfg desktopId desktopSecret none] }
  | .revalidate proof expectedUserId expectedDesktopId =>
    match proof with
    | .desktop desktopId desktopSecret =>
      let expected := (expectedUserId, expectedDesktopId)
      let call := s.call cfg desktopId desktopSecret (some expected)
      if desktopId ≠ expectedDesktopId then some (s.decide call false)
      else some (revalidateServerAuth s call expected)
    | .device _ _ => some s
  | .serve i => do
    let call ← s.calls[i]?
    let progress := call.progress.serve s.store call.credential
    return { s with calls := s.calls.set i { call with progress } }
  | .answer i => do
    let call ← s.calls[i]?
    let .done verdict := call.progress | none
    return (verifyDesktopCredentials cfg { s with calls := s.calls.eraseIdx i } call.credential
      verdict).finish call verdict
  | .fail i => do
    let call ← s.calls[i]?
    return State.finish { s with calls := s.calls.eraseIdx i } call none

/-- The relay starts on a given store; what it does not accept is revoked from the start. -/
def State.initial (store : Store Digest) : State Digest :=
  { store, revoked := fun c => if store.accepts c then none else some ⟨0, false⟩ }

/-- A revalidation of a credential that was revoked when it started, and still is, is refused if
the revocation is a TTL old or a read has rejected the credential since. -/
def Decision.Refused (decision : Decision Digest) : Prop :=
  ∀ revocation ∈ decision.call.revoked,
    decision.revoked.map Revocation.atMs = some revocation.atMs →
    (revocation.atMs + cfg.desktopCredentialCacheTtlMs ≤ decision.call.startMs ∨
      revocation.rejected = true) →
    decision.success = false

/-- Every decision so far respects the revocations. -/
def RevocationsHold : Prop := ∀ decision ∈ s.decisions, decision.Refused cfg

/-- The read has found a principal. -/
def Progress.accepted : Progress → Bool
  | .done (some _) => true
  | _ => false

/-- No acceptance arrives for a credential that is revoked. -/
def Timely : Move Digest → Prop
  | .answer i => ∀ call ∈ s.calls[i]?,
      call.progress.accepted = true → s.revoked call.credential = none
  | _ => True

instance (s : State Digest) : (a : Move Digest) → Decidable (Timely s a)
  | .answer i => inferInstanceAs (Decidable (∀ call ∈ s.calls[i]?,
      call.progress.accepted = true → s.revoked call.credential = none))
  | .tick _ | .write _ | .verify _ _ | .revalidate _ _ _ | .serve _ | .fail _ => .isTrue trivial

/-! ### The invariant -/

/-- An entry of a revoked credential is from before the revocation, and no read has rejected the
credential since. -/
def EntryOk (entry : TtlEntry String (Digest × DesktopPrincipal)) : Prop :=
  entry.expiresAtMs ≤ s.now + cfg.desktopCredentialCacheTtlMs ∧
  ∀ revocation ∈ s.revoked ⟨entry.key, entry.value.1⟩,
    entry.expiresAtMs ≤ revocation.atMs + cfg.desktopCredentialCacheTtlMs ∧
      revocation.rejected = false

/-- What every step keeps. -/
structure Inv (s : State Digest) : Prop where
  entries : ∀ entry ∈ s.cache.entries, EntryOk cfg s entry
  decisions : RevocationsHold cfg s

variable {cfg} {s : State Digest}

theorem cachedDesktopPrincipal_snd (s : State Digest) (c : Credential Digest) :
    (cachedDesktopPrincipal s c).2 = (s.cache.lookup c.desktopId s.now).2 := by
  unfold cachedDesktopPrincipal
  split <;> simp_all

variable {call : Call Digest} (hI : Inv cfg s)

include hI

omit [DecidableEq Digest] in
theorem Inv.decide {success : Bool}
    (hright : Decision.Refused cfg ⟨call, success, s.revoked call.credential⟩) :
    Inv cfg (s.decide call success) := by
  refine ⟨hI.entries, fun decision hmem => ?_⟩
  obtain hmem | hmem := List.mem_append.mp hmem
  · exact hI.decisions decision hmem
  · rw [List.mem_singleton.mp hmem]
    exact hright

omit [DecidableEq Digest] in
/-- A call may end if it brings no principal, or one for a credential that is not revoked. -/
theorem Inv.finish {principal : Option DesktopPrincipal}
    (hprincipal : principal ≠ none → s.revoked call.credential = none) :
    Inv cfg (s.finish call principal) := by
  unfold State.finish
  split
  · exact hI
  next expected _ =>
    refine hI.decide fun revocation _ hstill _ => ?_
    cases principal with
    | none => simp [isExpected]
    | some principal =>
      rw [show Decision.revoked _ = none from hprincipal nofun] at hstill
      cases hstill

omit [DecidableEq Digest] in
theorem Inv.cache {cache : TtlCache String (Digest × DesktopPrincipal)}
    (hentries : ∀ entry ∈ cache.entries, entry ∈ s.cache.entries) : Inv cfg { s with cache } :=
  ⟨fun entry hmem => hI.entries entry (hentries entry hmem), hI.decisions⟩

theorem Inv.write (store : Store Digest) : Inv cfg (s.write store) := by
  refine ⟨fun entry hmem => ?_, hI.decisions⟩
  obtain ⟨hnow, hrevoked⟩ := hI.entries entry hmem
  refine ⟨hnow, fun revocation hnew => ?_⟩
  simp only [State.write] at hnew
  split_ifs at hnew
  · cases hnew
  · cases hnew
    exact ⟨hnow, rfl⟩
  · exact hrevoked revocation hnew

variable {c : Credential Digest}

/-- **A cache hit** is for a credential whose revocation, if any, is less than a TTL old and
that no read has rejected since. -/
theorem hit_fresh {principal : DesktopPrincipal}
    {cache : TtlCache String (Digest × DesktopPrincipal)}
    (hhit : cachedDesktopPrincipal s c = (some principal, cache)) : ∀ revocation ∈ s.revoked c,
      s.now < revocation.atMs + cfg.desktopCredentialCacheTtlMs ∧ revocation.rejected = false := by
  intro revocation hrevoked
  unfold cachedDesktopPrincipal at hhit
  split at hhit
  next entry _ hlookup =>
    obtain ⟨hmem, hkey, hlive⟩ := TtlCache.lookup_eq_some hlookup
    split_ifs at hhit with hdigest
    · obtain ⟨hexpires, hrejected⟩ :=
        (hI.entries entry hmem).2 revocation (by rw [hkey, hdigest]; exact hrevoked)
      exact ⟨Nat.lt_of_lt_of_le hlive hexpires, hrejected⟩
    · cases hhit
  · cases hhit

theorem Inv.revalidate (desktopId desktopSecret : String) (expected : String × String) :
    Inv cfg (revalidateServerAuth s (s.call cfg desktopId desktopSecret (some expected))
      expected) := by
  have hless : Inv cfg { s with
      cache := (cachedDesktopPrincipal s
        (s.call cfg desktopId desktopSecret (some expected)).credential).2 } :=
    hI.cache fun entry hmem => TtlCache.mem_lookup (cachedDesktopPrincipal_snd s _ ▸ hmem)
  unfold revalidateServerAuth
  split
  next principal cache hhit =>
    rw [hhit] at hless
    refine hless.decide fun revocation hrevoked _ hlate => ?_
    obtain ⟨hyoung, hrejected⟩ := hit_fresh hI hhit revocation hrevoked
    obtain hold | hknown := hlate
    · exact absurd hyoung (Nat.not_lt.mpr hold)
    · rw [hrejected] at hknown
      cases hknown
  next cache hmiss =>
    rw [hmiss] at hless
    exact ⟨hless.entries, hless.decisions⟩

/-- A rejection drops the entry of its desktop id, so that none is left for the credential. -/
theorem Inv.reject (c : Credential Digest) :
    Inv cfg (verifyDesktopCredentials cfg s c none) := by
  refine ⟨fun entry hmem => ?_, hI.decisions⟩
  obtain ⟨hmem, hkey⟩ := TtlCache.mem_delete.mp hmem
  obtain ⟨hnow, hrevoked⟩ := hI.entries entry hmem
  refine ⟨hnow, fun revocation hnew => hrevoked revocation ?_⟩
  have hother : (⟨entry.key, entry.value.1⟩ : Credential Digest) ≠ c := by
    rintro rfl
    exact hkey rfl
  simpa [verifyDesktopCredentials, hother] using hnew

theorem Inv.accept (hfree : s.revoked c = none) (principal : DesktopPrincipal) :
    Inv cfg (verifyDesktopCredentials cfg s c (some principal)) := by
  refine ⟨fun entry hmem => ?_, hI.decisions⟩
  obtain ⟨hmem, -⟩ | rfl := TtlCache.mem_store hmem
  · exact hI.entries entry hmem
  · exact ⟨Nat.le_refl _, fun revocation hnew => nomatch hfree.symm.trans hnew⟩

theorem Inv.answer {verdict : Option DesktopPrincipal}
    (htimely : verdict ≠ none → s.revoked call.credential = none) :
    Inv cfg ((verifyDesktopCredentials cfg s call.credential verdict).finish call verdict) := by
  cases verdict with
  | none => exact (hI.reject call.credential).finish fun h => absurd rfl h
  | some principal => exact (hI.accept (htimely nofun) principal).finish htimely

omit hI

theorem inv_step {a : Move Digest} {s' : State Digest} (hI : Inv cfg s) (htimely : Timely s a)
    (hstep : step cfg s a = some s') : Inv cfg s' := by
  cases a with
  | tick ms =>
    cases hstep
    refine ⟨fun entry hmem => ?_, hI.decisions⟩
    obtain ⟨hnow, hrevoked⟩ := hI.entries entry hmem
    exact ⟨Nat.le_trans hnow (by simp), hrevoked⟩
  | write store =>
    cases hstep
    exact hI.write store
  | verify desktopId desktopSecret =>
    cases hstep
    exact ⟨hI.entries, hI.decisions⟩
  | revalidate proof expectedUserId expectedDesktopId =>
    cases proof with
    | desktop desktopId desktopSecret =>
      simp only [step] at hstep
      split at hstep
      · cases hstep
        exact hI.decide fun _ _ _ _ => rfl
      · cases hstep
        exact hI.revalidate desktopId desktopSecret _
    | device desktopId deviceToken =>
      cases hstep
      exact hI
  | serve i =>
    obtain ⟨call, -, hstep⟩ := Option.bind_eq_some_iff.mp hstep
    cases hstep
    exact ⟨hI.entries, hI.decisions⟩
  | answer i =>
    obtain ⟨call, hcall, hstep⟩ := Option.bind_eq_some_iff.mp hstep
    have harrives := htimely call hcall
    have hrest : Inv cfg { s with calls := s.calls.eraseIdx i } := ⟨hI.entries, hI.decisions⟩
    split at hstep
    next verdict hdone =>
      cases hstep
      refine hrest.answer fun haccept => harrives ?_
      cases verdict with
      | none => exact absurd rfl haccept
      | some principal => rw [hdone]; rfl
    · cases hstep
  | fail i =>
    obtain ⟨call, -, hstep⟩ := Option.bind_eq_some_iff.mp hstep
    cases hstep
    have hrest : Inv cfg { s with calls := s.calls.eraseIdx i } := ⟨hI.entries, hI.decisions⟩
    exact hrest.finish fun h => absurd rfl h

/-- **Revocation is bounded.** In every interleaving of revalidations, verifications and writes
whose reads take arbitrary time, if no acceptance arrives after the credential it is for was
revoked: a revalidation that starts a TTL or more after the revocation, or after a read has
rejected the credential since, is refused. -/
theorem revocation_bounded (cfg : Config Digest) (store : Store Digest)
    (moves : List (Move Digest)) (htimely : Meets (step cfg) Timely (State.initial store) moves) :
    Always (step cfg) (RevocationsHold cfg) (State.initial store) moves := by
  have hinit : Inv cfg (State.initial store) :=
    ⟨fun _ h => absurd h List.not_mem_nil, fun _ h => absurd h List.not_mem_nil⟩
  exact always_of_meets Inv.decisions inv_step hinit htimely

/-! ### A desktop signs out -/

/-- Secrets that are kept in the clear, for a tenth of a second. -/
def sampleConfig : Config String := ⟨id, 100⟩

/-- Alice's desktop, signed in or signed out. -/
def sampleStore (revokedAt : Bool) : Store String where
  desktopCredentials := fun id =>
    if id = "mac" then some ⟨"mac", revokedAt, some "alice", some "secret"⟩ else none
  desktops := fun _ => []

/-- The desktop's revalidation. -/
def publish : Move String := .revalidate (.desktop "mac" "secret") "alice" "mac"

/-- The desktop connects and publishes; then it signs out, and a TTL later it is refused. -/
def signOut : List (Move String) :=
  [.verify "mac" "secret", .serve 0, .answer 0, publish, .tick 10, .write (sampleStore true),
    .tick 100, publish, .serve 0, .answer 0]

theorem revocation_bounded_signOut :
    Meets (step sampleConfig) Timely (State.initial (sampleStore false)) signOut ∧
      Always (step sampleConfig) (RevocationsHold sampleConfig)
        (State.initial (sampleStore false)) signOut := by
  have htimely : Meets (step sampleConfig) Timely (State.initial (sampleStore false)) signOut := by
    decide
  exact ⟨htimely, revocation_bounded sampleConfig _ signOut htimely⟩

/-- A read accepts before the sign-out and ends after another one has rejected. -/
def slowRead : List (Move String) :=
  [.verify "mac" "secret", .serve 0, .tick 10, .write (sampleStore true), .verify "mac" "secret",
    .serve 1, .answer 1, .tick 200, .answer 0, .tick 10, publish]

/-- **A revoked credential is honoured**, a TTL after the revocation and after a rejection. -/
theorem stale_acceptance :
    ¬ ∀ (cfg : Config String) (store : Store String) (moves : List (Move String)),
      Always (step cfg) (RevocationsHold cfg) (State.initial store) moves := by
  intro h
  have hrun : (run (step sampleConfig) (State.initial (sampleStore false)) slowRead).map
      (fun s => s.decisions.map fun d => (d.call.startMs, d.call.revoked, d.success, d.revoked)) =
      some [(220, some ⟨10, true⟩, true, some ⟨10, true⟩)] := by decide
  obtain ⟨s, hs, hdecisions⟩ := Option.map_eq_some_iff.mp hrun
  obtain ⟨d, hd, hfields⟩ := List.mem_map.mp (hdecisions ▸ List.mem_singleton_self _)
  simp only [Prod.mk.injEq] at hfields
  obtain ⟨-, hstart, hsuccess, hnow⟩ := hfields
  have hrefused := (h sampleConfig _ slowRead).last hs d hd ⟨10, true⟩ hstart (by rw [hnow]; rfl)
    (.inr rfl)
  rw [hsuccess] at hrefused
  cases hrefused

end Kanna.CredentialCache
