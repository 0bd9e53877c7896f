import Kanna.Lib.Durable
import Kanna.Lib.Json
import Kanna.Lib.Run
import Kanna.Lib.Text

/-!
# Anonymous push pairings

`anonymousPush.ts` keeps one document for each pair of a desktop and a device. A desktop signs
a certificate for the device, the device registers its token with it, and every change of the
document is one transaction that first compares certificates: only the exact certificate that
is stored or a later one goes through. A pairing that is retired loses its token and keeps its
certificate, until no certificate that is as old can be valid.

A document may come from an earlier version, so that what the code checks with `typeof` is
optional here. SHA-256 and the verification of a signature are parameters.

* `mutate_ok` — what a transaction compares before it writes.
* `register_ok`, `retire_ok` — what it writes.
-/

namespace Kanna.Relay

open Durable

/-- What a desktop signs for a device. -/
structure PairingPayload where
  deviceId : String
  issuedAt : Int
  expiresAt : Int

/-- The cryptography of the relay. -/
structure PushCrypto where
  sha256 : String → String
  /-- `verifyAnonymousSignature` of a public key, a payload and a signature -/
  verify : String → PairingPayload → String → Bool

/-- `CertificateOrdering`. -/
structure Certificate where
  issuedAt : Int
  expiresAt : Int
  signature : String
  deriving DecidableEq

/-- `AnonymousPushPairingRequest`, and without a token `AnonymousPushPairingRevocation`. -/
structure PairingRequest where
  desktopPubKey : String
  deviceId : String
  fcmToken : Option String
  cert : Certificate

/-- `AnonymousPushRefusal`, or another `Error`. -/
inductive PushError where
  | refusal (status : ℕ) (code message : String)
  | error (message : String)

/-- `MAX_CERTIFICATE_LIFETIME_MS`: 731 days. -/
def maxCertificateLifetimeMs : Int := 731 * 24 * 60 * 60000

/-- `STALE_BINDING_MS`: 180 days. -/
def staleBindingMs : Int := 180 * 24 * 60 * 60 * 1000

/-- `MAX_DEVICES_PER_DESKTOP`. -/
def maxDevicesPerDesktop : ℕ := 10

/-- `MAX_DESKTOPS_PER_TOKEN`. -/
def maxDesktopsPerToken : ℕ := 20

/-! ### The request -/

/-- The answer to a body that does not parse. -/
def malformed : PushError :=
  .refusal 400 "malformed" "Anonymous push pairing is malformed"

/-- A string of bounded length, trimmed. -/
def boundedText (value : Option Json) (maxLength : ℕ) : Except PushError String :=
  match value.bind Json.string? with
  | none => .error malformed
  | some text =>
    if jsTrim text = "" ∨ maxLength < utf16Length text.toList then .error malformed
    else .ok (jsTrim text)

/-- An integer that a double holds exactly. -/
def safeInteger (value : Option Json) : Except PushError Int :=
  match value.bind Json.num? with
  | none => .error malformed
  | some number =>
    if 0 ≤ number ∧ number ≤ 9007199254740991 then .ok number else .error malformed

/-- The fields of a request, and the device that the certificate names. -/
def readPairing (value : Json) (requireFcmToken : Bool) :
    Except PushError (PairingRequest × String) :=
  match value.record?, (value.field "cert").bind Json.record? with
  | some fields, some cert => do
    let desktopPubKey ← boundedText (field fields "desktopPubKey") 128
    let deviceId ← boundedText (field fields "deviceId") 256
    let fcmToken ←
      if requireFcmToken then some <$> boundedText (field fields "fcmToken") 4096 else pure none
    let certDeviceId ← boundedText (field cert "deviceId") 256
    let issuedAt ← safeInteger (field cert "issuedAt")
    let expiresAt ← safeInteger (field cert "expiresAt")
    let signature ← boundedText (field cert "signature") 256
    pure (⟨desktopPubKey, deviceId, fcmToken, ⟨issuedAt, expiresAt, signature⟩⟩, certDeviceId)
  | _, _ => .error malformed

/-- `validateAnonymousPushPairing`. -/
def validateAnonymousPushPairing (crypto : PushCrypto) (value : Json) (nowMs : Int)
    (requireFcmToken : Bool) : Except PushError PairingRequest :=
  match readPairing value requireFcmToken with
  | .error error => .error error
  | .ok (request, certDeviceId) =>
    let cert := request.cert
    if request.deviceId ≠ certDeviceId ∨ nowMs + 5 * 60000 < cert.issuedAt ∨
        cert.expiresAt ≤ nowMs ∨ cert.expiresAt ≤ cert.issuedAt ∨
        maxCertificateLifetimeMs < cert.expiresAt - cert.issuedAt then
      .error (.refusal 401 "invalid_certificate" "Pairing certificate is invalid or expired")
    else if crypto.verify request.desktopPubKey
        ⟨request.deviceId, cert.issuedAt, cert.expiresAt⟩ cert.signature = false then
      .error (.refusal 401 "invalid_certificate" "Pairing certificate signature is invalid")
    else .ok request

variable {nowMs : Int} {request : PairingRequest}

/-- A certificate that was let through cannot outlive the longest lifetime. -/
theorem lifetime_of_validate {crypto : PushCrypto} {value : Json} {requireFcmToken : Bool}
    (h : validateAnonymousPushPairing crypto value nowMs requireFcmToken = .ok request) :
    request.cert.expiresAt ≤ request.cert.issuedAt + maxCertificateLifetimeMs := by
  rw [validateAnonymousPushPairing] at h
  split at h
  · cases h
  · next read _ _ =>
    dsimp only at h
    split_ifs at h with hinvalid hforged
    cases h
    push Not at hinvalid
    obtain ⟨-, -, -, -, hlife⟩ := hinvalid
    omega

/-! ### The documents -/

/-- The document of a pair is named by the hashes of the desktop's key and of the device. -/
structure PairingKey where
  desktopKeyHash : String
  deviceIdHash : String
  deriving DecidableEq

/-- Where the pairing of a device with a desktop is stored. -/
def pairingKey (crypto : PushCrypto) (desktopPubKey deviceId : String) : PairingKey :=
  ⟨crypto.sha256 desktopPubKey, crypto.sha256 deviceId⟩

/-- `AnonymousPushPairingRecord`. -/
structure PairingRecord where
  tokenHash : Option String
  fcmToken : Option String
  updatedAtMs : Option Int
  lastDeliveredAtMs : Option Int
  certIssuedAt : Option Int
  certExpiresAt : Option Int
  certSignature : Option String
  deriving DecidableEq

/-- The collection `anonymousPushPairings`. -/
abbrev Pairings : Type := Records PairingKey PairingRecord

/-- The token of a pairing that is not retired. -/
def PairingRecord.liveToken (record : PairingRecord) : Option String :=
  record.fcmToken.filter (· ≠ "")

/-- `isActiveBinding`. -/
def isActiveBinding (record : PairingRecord) (nowMs : Int) : Bool :=
  record.liveToken.isSome &&
    (match record.updatedAtMs with
    | none => false
    | some updatedAtMs =>
      nowMs - staleBindingMs ≤ updatedAtMs ||
        record.lastDeliveredAtMs.any (nowMs - staleBindingMs ≤ ·))

/-- `storedCertificate`. -/
def storedCertificate (currentBinding : PairingRecord) : Except PushError Certificate :=
  match currentBinding.certIssuedAt, currentBinding.certSignature with
  | some issuedAt, some signature =>
    -- documents of the version before have no expiry
    .ok ⟨issuedAt, currentBinding.certExpiresAt.getD (issuedAt + maxCertificateLifetimeMs),
      signature⟩
  | _, _ => .error (.error "Anonymous push pairing has invalid certificate ordering metadata")

/-- The answer to a certificate older than the stored one. -/
def staleCertificate : PushError :=
  .refusal 409 "stale_certificate" "A newer anonymous push pairing is registered"

/-- `assertCurrentOrNewerCertificate`. -/
def assertCurrentOrNewerCertificate (candidate : Certificate)
    (currentBinding : Option PairingRecord) : Except PushError Unit :=
  match currentBinding.bind (·.certIssuedAt) with
  | none => .ok ()
  | some certIssuedAt =>
    if candidate.issuedAt < certIssuedAt ∨ (candidate.issuedAt = certIssuedAt ∧
        some candidate.signature ≠ currentBinding.bind (·.certSignature)) then
      .error staleCertificate
    else .ok ()

/-- `revokedPairingRecord`. -/
def revokedPairingRecord (currentBinding : PairingRecord) (certificate : Certificate)
    (nowMs : Int) : PairingRecord where
  tokenHash := none
  fcmToken := none
  updatedAtMs := some nowMs
  lastDeliveredAtMs := currentBinding.lastDeliveredAtMs
  certIssuedAt := some certificate.issuedAt
  certExpiresAt := some certificate.expiresAt
  certSignature := some certificate.signature

/-! ### The transactions -/

/-- What a transaction does to the document of its pair. -/
inductive Write where
  | keep
  | delete
  | set (record : PairingRecord)
  deriving DecidableEq

/-- A transaction's write. -/
def Write.apply (pairings : Pairings) (ref : PairingKey) : Write → Pairings
  | .keep => pairings
  | .delete => pairings.erase ref
  | .set record => pairings.insert ref record

/-- The certificate that a transaction is ordered by: its own, or else the stored one. -/
def orderingCertificate (candidate : Option Certificate) (currentBinding : Option PairingRecord) :
    Except PushError (Option Certificate) :=
  match candidate, currentBinding with
  | some candidate, _ => .ok (some candidate)
  | none, some binding => some <$> storedCertificate binding
  | none, none => .ok none

/-- `mutateOrderedAnonymousPushPairing`; `admitted` is what the rate limit of the request said. -/
def mutateOrderedAnonymousPushPairing (pairings : Pairings) (ref : PairingKey)
    (candidate : Option Certificate) (admitted : Bool)
    (mutate : Option PairingRecord → Option Certificate → Except PushError Write) :
    Except PushError Write := do
  let currentBinding := pairings.lookup ref
  let certificate ← orderingCertificate candidate currentBinding
  match certificate with
  | some certificate => assertCurrentOrNewerCertificate certificate currentBinding
  | none => pure ()
  if admitted then mutate currentBinding certificate
  else .error (.refusal 429 "pairing_rate_limit" "Anonymous push pairing rate limit exceeded")

/-- `registerAnonymousPushPairing`, the transaction. -/
def registerAnonymousPushPairing (crypto : PushCrypto) (pairings : Pairings)
    (request : PairingRequest) (fcmToken : String) (nowMs : Int) (admitted : Bool) :
    Except PushError Write :=
  let ref := pairingKey crypto request.desktopPubKey request.deviceId
  let tokenHash := crypto.sha256 fcmToken
  mutateOrderedAnonymousPushPairing pairings ref (some request.cert) admitted
    fun currentBinding _ =>
      let activeDesktopBindingCount := (pairings.entries.filter fun entry =>
        entry.1.desktopKeyHash = ref.desktopKeyHash && entry.2.liveToken.isSome).length
      let tokenBindings := (pairings.entries.filter fun entry =>
        entry.2.tokenHash = some tokenHash).take (maxDesktopsPerToken + 1)
      if (currentBinding.bind (·.liveToken)).isNone ∧
          maxDevicesPerDesktop ≤ activeDesktopBindingCount then
        .error (.refusal 409 "desktop_binding_cap" "Desktop push pairing limit reached")
      else if currentBinding.bind (·.tokenHash) ≠ some tokenHash ∧
          maxDesktopsPerToken ≤ tokenBindings.length then
        .error (.refusal 409 "token_binding_cap" "Push token pairing limit reached")
      else .ok (.set {
        tokenHash := some tokenHash
        fcmToken := some fcmToken
        updatedAtMs := some nowMs
        lastDeliveredAtMs := currentBinding.bind (·.lastDeliveredAtMs)
        certIssuedAt := some request.cert.issuedAt
        certExpiresAt := some request.cert.expiresAt
        certSignature := some request.cert.signature })

/-- Whether the document has been used since a time, so that it is not collected. -/
def usedSince (currentBinding : PairingRecord) (staleBeforeMs : Int) : Bool :=
  (match currentBinding.updatedAtMs with
    | none => true
    | some updatedAtMs => staleBeforeMs ≤ updatedAtMs) ||
    currentBinding.lastDeliveredAtMs.any (staleBeforeMs ≤ ·)

/-- `retireAnonymousPushPairing`, the transaction. -/
def retireAnonymousPushPairing (pairings : Pairings) (ref : PairingKey)
    (candidate : Option Certificate) (nowMs : Int) (staleBeforeMs : Option Int)
    (admitted : Bool) : Except PushError Write :=
  mutateOrderedAnonymousPushPairing pairings ref candidate admitted
    fun currentBinding certificate =>
      match currentBinding, certificate with
      | none, _ => .ok .keep
      | some _, none =>
        .error (.error "Anonymous push pairing has no certificate ordering metadata")
      | some currentBinding, some certificate =>
        if staleBeforeMs.any (usedSince currentBinding) then .ok .keep
        else if certificate.issuedAt + maxCertificateLifetimeMs ≤ nowMs then .ok .delete
        else .ok (.set (revokedPairingRecord currentBinding certificate nowMs))

/-! ### What the transactions compare and write -/

/-- The issue time and the signature that a document is ordered by. -/
abbrev Mark : Type := Int × Option String

/-- Where the stored certificate stands. -/
def PairingRecord.mark (record : PairingRecord) : Option Mark :=
  record.certIssuedAt.map fun issuedAt => (issuedAt, record.certSignature)

/-- Where a certificate stands. -/
def Certificate.mark (certificate : Certificate) : Mark :=
  (certificate.issuedAt, some certificate.signature)

/-- A mark may be followed by itself or by a later one. -/
def Mark.Before (old new : Mark) : Prop := old.1 < new.1 ∨ old = new

theorem Mark.Before.le {old new : Mark} (h : old.Before new) : old.1 ≤ new.1 := by
  rcases h with h | rfl
  · exact Int.le_of_lt h
  · exact Int.le_refl _

theorem Mark.Before.trans {first second third : Mark} (h : first.Before second)
    (h' : second.Before third) : first.Before third := by
  rcases h with h | rfl
  · exact .inl (Int.lt_of_lt_of_le h h'.le)
  · exact h'

/-- The comparison lets through what may follow the stored mark. -/
theorem before_of_assert {candidate : Certificate} {currentBinding : Option PairingRecord}
    (h : assertCurrentOrNewerCertificate candidate currentBinding = .ok ()) {mark : Mark}
    (hmark : currentBinding.bind (·.mark) = some mark) : mark.Before candidate.mark := by
  obtain ⟨binding, rfl, hbinding⟩ := Option.bind_eq_some_iff.mp hmark
  obtain ⟨issuedAt, hissued, rfl⟩ := Option.map_eq_some_iff.mp hbinding
  rw [assertCurrentOrNewerCertificate, Option.bind_some, hissued, Option.bind_some] at h
  dsimp only at h
  split_ifs at h with hstale
  rw [not_or, not_and, not_not] at hstale
  rcases Int.lt_or_eq_of_le (Int.not_lt.mp hstale.1) with hlt | heq
  · exact .inl hlt
  · exact .inr (Prod.ext heq (hstale.2 heq.symm).symm)

variable {pairings : Pairings} {ref : PairingKey} {candidate : Option Certificate} {admitted : Bool}
  {write : Write}

/-- **What a transaction compares** before it writes. -/
theorem mutate_ok {mutate : Option PairingRecord → Option Certificate → Except PushError Write}
    (h : mutateOrderedAnonymousPushPairing pairings ref candidate admitted mutate = .ok write) :
    ∃ certificate, orderingCertificate candidate (pairings.lookup ref) = .ok certificate ∧
      (∀ cert ∈ certificate, assertCurrentOrNewerCertificate cert (pairings.lookup ref) = .ok ()) ∧
      mutate (pairings.lookup ref) certificate = .ok write := by
  rw [mutateOrderedAnonymousPushPairing] at h
  obtain ⟨certificate, hcertificate, h⟩ := of_bind h
  refine ⟨certificate, hcertificate, ?_⟩
  cases certificate with
  | none =>
    split_ifs at h
    exact ⟨nofun, h⟩
  | some cert =>
    obtain ⟨_, hassert, h⟩ := of_bind h
    split_ifs at h
    exact ⟨fun other hother => Option.some.inj hother ▸ hassert, h⟩

/-- **What a registration writes.** -/
theorem register_ok {crypto : PushCrypto} {fcmToken : String}
    (h : registerAnonymousPushPairing crypto pairings request fcmToken nowMs admitted = .ok write) :
    assertCurrentOrNewerCertificate request.cert
        (pairings.lookup (pairingKey crypto request.desktopPubKey request.deviceId)) = .ok () ∧
      ∃ record, write = .set record ∧ record.fcmToken = some fcmToken ∧
        record.mark = some request.cert.mark := by
  rw [registerAnonymousPushPairing] at h
  obtain ⟨certificate, hcertificate, hassert, hwrite⟩ := mutate_ok h
  cases hcertificate
  refine ⟨hassert _ rfl, ?_⟩
  dsimp only at hwrite
  split_ifs at hwrite
  cases hwrite
  exact ⟨_, rfl, rfl, rfl⟩

/-- A retirement that goes through: the pair is left without a token, under a certificate that
may follow the stored one, for as long as that one could be valid. -/
structure Retires (pairings : Pairings) (ref : PairingKey) (candidate : Option Certificate)
    (nowMs : Int) (current : PairingRecord) (certificate : Certificate) (write : Write) : Prop where
  stored : pairings.lookup ref = some current
  ordering : orderingCertificate candidate (some current) = .ok (some certificate)
  newer : assertCurrentOrNewerCertificate certificate (some current) = .ok ()
  write : write = .delete ∧ certificate.issuedAt + maxCertificateLifetimeMs ≤ nowMs ∨
    write = .set (revokedPairingRecord current certificate nowMs)

/-- **What a retirement writes**, if anything. -/
theorem retire_ok {staleBeforeMs : Option Int}
    (h : retireAnonymousPushPairing pairings ref candidate nowMs staleBeforeMs admitted =
      .ok write) :
    write = .keep ∧ (staleBeforeMs = none → pairings.lookup ref = none) ∨
      ∃ current certificate, Retires pairings ref candidate nowMs current certificate write := by
  rw [retireAnonymousPushPairing] at h
  obtain ⟨certificate, hcertificate, hassert, hwrite⟩ := mutate_ok h
  cases hcurrent : pairings.lookup ref with
  | none =>
    rw [hcurrent] at hwrite
    cases hwrite
    exact .inl ⟨rfl, fun _ => rfl⟩
  | some current =>
    rw [hcurrent] at hwrite hcertificate hassert
    cases certificate with
    | none => cases hwrite
    | some certificate =>
      dsimp only at hwrite
      split_ifs at hwrite with hused hexpired
      · cases hwrite
        exact .inl ⟨rfl, fun hnone => by rw [hnone] at hused; cases hused⟩
      · cases hwrite
        exact .inr ⟨current, certificate, hcurrent, hcertificate, hassert _ rfl,
          .inl ⟨rfl, hexpired⟩⟩
      · cases hwrite
        exact .inr ⟨current, certificate, hcurrent, hcertificate, hassert _ rfl, .inr rfl⟩

/-- Another pair keeps its document. -/
theorem lookup_apply_ne (pairings : Pairings) {other : PairingKey} (hne : other ≠ ref)
    (write : Write) : (write.apply pairings ref).lookup other = pairings.lookup other := by
  cases write with
  | keep => rfl
  | delete => exact AList.lookup_erase_ne hne
  | set record => exact AList.lookup_insert_ne hne

/-- A retired pair has no token. -/
theorem Retires.liveToken {current : PairingRecord} {certificate : Certificate}
    (h : Retires pairings ref candidate nowMs current certificate write) :
    ((write.apply pairings ref).lookup ref).bind (·.liveToken) = none := by
  rcases h.write with ⟨rfl, -⟩ | rfl
  · rw [Write.apply, AList.lookup_erase, Option.bind_none]
  · rw [Write.apply, AList.lookup_insert, Option.bind_some]
    rfl

end Kanna.Relay
