import Mathlib.Data.List.Sort
import Kanna.Lib.Run
import Kanna.Relay.PushRecords

/-!
# Push operations that overlap

Registrations, revocations, the collection of stale documents and deliveries run at the same
time. An operation reads when it starts, waits for Firestore or for the push provider, and
commits later; in between come whatever moves there are of other operations. What waits is a
`Pending` operation with the values it has read, and every transaction is one move.

Beside the pairings are the registrations of accounts (`pushDevices.ts`), which the same
deliveries retire. `log` keeps what the transactions did, the newest first: nothing reads it.

* `Origin` — where a pending operation comes from.
* `Next`, `next_of_step` — what a move does.
-/

namespace Kanna.Relay

open Durable

/-! ### Registrations of accounts -/

/-- `PushDeviceRetirementReason`, with what a rejection records. -/
inductive Retirement where
  | unregistered
  | tokenRejected (providerCode desktopId : String)

/-- The document of a mobile installation. -/
structure PushDeviceRecord where
  token : Option String
  registrationId : Option String
  retired : Option Retirement

/-- The user, and the hash of the device. -/
abbrev DeviceRef : Type := String × String

/-- `livePushToken`. -/
def livePushToken (record : PushDeviceRecord) : Option String :=
  (record.token.map jsTrim).filter (· ≠ "")

/-- `retiredRecord`. -/
def retiredRecord (reason : Retirement) : PushDeviceRecord := ⟨none, none, some reason⟩

/-- `unregisterPushDevice`: the document afterwards, if it is retired. -/
def unregisterPushDevice (current : PushDeviceRecord) (deviceToken registrationId : Option String) :
    Option PushDeviceRecord :=
  if livePushToken current = none then none
  else match registrationId, deviceToken with
    | some registrationId, _ =>
      if current.registrationId ≠ some registrationId then none
      else some (retiredRecord .unregistered)
    | none, some deviceToken =>
      if current.token ≠ some deviceToken then none else some (retiredRecord .unregistered)
    | none, none => some (retiredRecord .unregistered)

/-- `retirePushDeviceAfterProviderRejection`: the document afterwards, if it is retired. -/
def retirePushDeviceAfterProviderRejection (current : Option PushDeviceRecord)
    (expectedToken providerCode desktopId : String) : Option PushDeviceRecord :=
  match current with
  | none => none
  | some current =>
    if livePushToken current = none ∨ current.token ≠ some expectedToken then none
    else some (retiredRecord (.tokenRejected providerCode desktopId))

/-! ### Deliveries -/

/-- The document of a pair, as a query read it. -/
abbrev BindingDoc : Type := PairingKey × PairingRecord

/-- `PushDeliveryTarget`. -/
structure PushDeliveryTarget where
  token : String
  /-- the registrations that hold it -/
  accountDevices : List DeviceRef
  /-- the pairings that hold it -/
  anonymousBindings : List BindingDoc

/-- A call of `publishAnonymousPush` that sends. -/
structure PushInput where
  desktopPubKey : String
  userId : Option String
  desktopId : Option String
  /-- what the rate limit of the desktop said -/
  anonymousAdmitted : Bool

/-- The desktop has an account. -/
def PushInput.dualIdentity (input : PushInput) : Bool :=
  input.userId.isSome && input.desktopId.isSome

/-- The entry of the map of targets at a token, made if it is not there, and changed. -/
def changeTarget (targets : List PushDeliveryTarget) (token : String)
    (change : PushDeliveryTarget → PushDeliveryTarget) : List PushDeliveryTarget :=
  if targets.any (·.token = token) then
    targets.map fun target => if target.token = token then change target else target
  else targets ++ [change ⟨token, [], []⟩]

/-- The targets with the token of a registration of the account. -/
def addDevice (targets : List PushDeliveryTarget) (device : DeviceRef × PushDeviceRecord) :
    List PushDeliveryTarget :=
  match livePushToken device.2 with
  | none => targets
  | some normalized => changeTarget targets normalized fun target =>
      { target with accountDevices := target.accountDevices ++ [device.1] }

/-- The targets with the token of a pairing; `tokenAdmitted` is the rate limit of the token. -/
def addBinding (input : PushInput) (tokenAdmitted : String → Bool)
    (targets : List PushDeliveryTarget) (binding : BindingDoc) :
    Except PushError (List PushDeliveryTarget) :=
  match (binding.2.fcmToken.map jsTrim).filter (· ≠ ""), binding.2.tokenHash with
  | some normalized, some tokenHash =>
    let added := changeTarget targets normalized fun target =>
      { target with anonymousBindings := target.anonymousBindings ++ [binding] }
    if targets.any fun target => target.token = normalized && target.anonymousBindings ≠ [] then
      .ok added
    else if tokenAdmitted tokenHash = false then
      if input.dualIdentity then .ok targets
      else .error (.refusal 429 "token_rate_limit" "Anonymous push token rate limit exceeded")
    else .ok added
  | _, _ => .ok targets

/-- `publishAnonymousPush`, from the documents it has read to the targets it sends to. -/
def publishTargets (input : PushInput) (tokenAdmitted : String → Bool) (nowMs : Int)
    (anonymousDocs : List BindingDoc) (accountDocs : List (DeviceRef × PushDeviceRecord)) :
    Except PushError (List PushDeliveryTarget) :=
  let bindings := (anonymousDocs.filter fun doc => isActiveBinding doc.2 nowMs).take
    maxDevicesPerDesktop
  if bindings = [] ∧ input.dualIdentity = false then
    .error (.refusal 409 "no_bindings" "No anonymous push pairings are registered")
  else bindings.foldlM (addBinding input tokenAdmitted) (accountDocs.foldl addDevice [])

/-- The answer of the push provider for one token. -/
inductive SendResult where
  | accepted
  /-- with one of `INVALID_TOKEN_CODES` -/
  | rejected (code : String)
  | failed

/-! ### The operations in flight -/

/-- An operation under way, with what it has read before. -/
inductive Pending where
  | register (request : PairingRequest) (fcmToken : String) (nowMs : Int)
  | revoke (request : PairingRequest) (nowMs : Int)
  /-- the revocation of a device by its desktop -/
  | revokeDevice (ref : PairingKey) (nowMs : Int)
  /-- the retirement of a document that the collection found stale -/
  | collect (ref : PairingKey) (candidate : Certificate) (nowMs : Int)
  /-- a delivery whose queries may not have answered yet -/
  | publishing (input : PushInput) (nowMs : Int) (bindings : Option (List BindingDoc))
      (devices : Option (List (DeviceRef × PushDeviceRecord)))
  /-- a message to one token, on its way to the provider -/
  | delivery (target : PushDeliveryTarget) (desktopId : String) (nowMs : Int)
  /-- the update after the provider accepted -/
  | delivered (ref : PairingKey) (nowMs : Int)
  /-- the retirement after the provider rejected `token` -/
  | reconcile (ref : PairingKey) (candidate : Certificate) (token : String) (nowMs : Int)
  | retireDevice (ref : DeviceRef) (expectedToken providerCode desktopId : String)

/-- What a transaction did. -/
inductive PushEntry where
  /-- a certificate was registered, at a time -/
  | registered (ref : PairingKey) (cert : Certificate) (atMs : Int)
  /-- the desktop revoked the device, when `held` was stored -/
  | desktopRevoked (ref : PairingKey) (held : Option Mark)
  /-- the rejection of `token` retired a pairing with the token `held` -/
  | pairingRejected (ref : PairingKey) (token : String) (held : Option String)
  /-- the rejection of `token` retired a registration with the token `held` -/
  | deviceRejected (ref : DeviceRef) (token : String) (held : Option String)
  deriving DecidableEq

/-- The relay's documents, the operations under way, and what was done. -/
structure PushState where
  clock : Int
  pairings : Pairings
  devices : Records DeviceRef PushDeviceRecord
  /-- the operations under way -/
  pending : List Pending
  /-- what was registered and retired, the newest first -/
  log : List PushEntry

/-- The moves. Those at an index are of the operation in flight at that index. -/
inductive PushMove where
  | tick (ms : ℕ)
  /-- `POST /push/pairings` -/
  | post (body : Json)
  /-- `DELETE /push/pairings` -/
  | delete (body : Json)
  /-- `anonymous_push_revoke` on the session of a desktop -/
  | desktopRevoke (desktopPubKey deviceId : String)
  /-- the query of `garbageCollectAnonymousPushPairings` -/
  | sweep (nowMs : Int)
  | publish (input : PushInput)
  | readBindings (i : ℕ)
  | readDevices (i : ℕ)
  | send (i : ℕ) (tokenAdmitted : String → Bool)
  /-- `sendMobileNotification` of an account -/
  | notify (userId desktopId : String)
  | answer (i : ℕ) (result : SendResult)
  | commit (i : ℕ) (admitted : Bool)
  /-- the request or the call fails -/
  | abandon (i : ℕ)
  | registerDevice (ref : DeviceRef) (token : String) (registrationId : Option String)
  | unregisterDevice (ref : DeviceRef) (deviceToken registrationId : Option String)

namespace PushState

variable (s : PushState)

/-- Operations begin. -/
def start (ops : List Pending) : PushState := { s with pending := s.pending ++ ops }

/-- The operation in flight at an index, and the state without it. -/
def take (i : ℕ) : Option (Pending × PushState) :=
  (s.pending[i]?).map fun op => (op, { s with pending := s.pending.eraseIdx i })

/-- The order in which Firestore answers a query: by a field that the query compares, and else by
the names of the documents. -/
def orderBy {α β : Type} [LE β] [DecidableLE β] (key : α → β) (docs : List α) : List α :=
  docs.insertionSort fun doc doc' => key doc ≤ key doc'

/-- The documents that `garbageCollectAnonymousPushPairings` retires. -/
def stale (nowMs : Int) : List Pending :=
  let stale := (orderBy (fun doc => doc.2.updatedAtMs.getD 0) (s.pairings.entries.filter fun doc =>
    doc.2.updatedAtMs.any (· < nowMs - staleBindingMs))).take 100
  let expired := stale.filter fun doc =>
    doc.2.lastDeliveredAtMs.all (· < nowMs - staleBindingMs)
  expired.filterMap fun doc =>
    (storedCertificate doc.2).toOption.map fun certificate => .collect doc.1 certificate nowMs

/-- The pairings of the desktop, which are read only where its rate limit admits the call. -/
def bindingsOf (crypto : PushCrypto) (input : PushInput) : List BindingDoc :=
  if input.anonymousAdmitted then
    orderBy (·.1.deviceIdHash) ((s.pairings.entries.filter fun doc =>
      doc.1.desktopKeyHash = crypto.sha256 input.desktopPubKey).map fun doc => (doc.1, doc.2))
  else []

/-- At most `MAX_ACCOUNT_PUSH_DEVICES` registrations of an account. -/
def devicesOf (userId : Option String) : List (DeviceRef × PushDeviceRecord) :=
  (orderBy (·.1.2) ((s.devices.entries.filter fun doc => some doc.1.1 = userId).map
    fun doc => (doc.1, doc.2))).take 500

/-- The retirement of a pairing, if it goes through. -/
def retire (ref : PairingKey) (candidate : Option Certificate) (nowMs : Int)
    (staleBeforeMs : Option Int) (admitted : Bool) : Except PushError (Write × PushState) :=
  (retireAnonymousPushPairing s.pairings ref candidate nowMs staleBeforeMs admitted).map
    fun write => (write, { s with pairings := write.apply s.pairings ref })

/-- The last step of an operation; one that fails changes nothing. -/
def transact (crypto : PushCrypto) (admitted : Bool) : Pending → Option PushState
  | .register request fcmToken nowMs =>
    let ref := pairingKey crypto request.desktopPubKey request.deviceId
    match registerAnonymousPushPairing crypto s.pairings request fcmToken nowMs admitted with
    | .error _ => some s
    | .ok write => some { s with
        pairings := write.apply s.pairings ref
        log := .registered ref request.cert s.clock :: s.log }
  | .revoke request nowMs =>
    match s.retire (pairingKey crypto request.desktopPubKey request.deviceId)
      (some request.cert) nowMs none admitted with
    | .error _ => some s
    | .ok (_, s') => some s'
  | .revokeDevice ref nowMs =>
    match s.retire ref none nowMs none true with
    | .error _ => some s
    | .ok (_, s') => some { s' with
        log := .desktopRevoked ref ((s.pairings.lookup ref).bind (·.mark)) :: s.log }
  | .collect ref candidate nowMs =>
    match s.retire ref (some candidate) nowMs (some (nowMs - staleBindingMs)) true with
    | .error _ => some s
    | .ok (_, s') => some s'
  | .delivered ref nowMs =>
    match s.pairings.lookup ref with
    | none => some s
    | some record => some { s with
        pairings := s.pairings.insert ref { record with lastDeliveredAtMs := some nowMs } }
  | .reconcile ref candidate token nowMs =>
    match s.retire ref (some candidate) nowMs none true with
    | .error _ => some s
    | .ok (write, s') =>
      if write = .keep then some s'
      else some { s' with
        log := .pairingRejected ref token ((s.pairings.lookup ref).bind (·.liveToken)) :: s.log }
  | .retireDevice ref expectedToken providerCode desktopId =>
    let current := s.devices.lookup ref
    match retirePushDeviceAfterProviderRejection current expectedToken providerCode desktopId with
    | none => some s
    | some retired => some { s with
        devices := s.devices.insert ref retired
        log := .deviceRejected ref expectedToken (current.bind (·.token)) :: s.log }
  | .publishing .. => none
  | .delivery .. => none

end PushState

/-- What follows the answer of the provider to one message. -/
def SendResult.followUps (target : PushDeliveryTarget) (desktopId : String) (nowMs : Int) :
    SendResult → List Pending
  | .accepted => target.anonymousBindings.map fun binding => .delivered binding.1 nowMs
  | .rejected code =>
    (target.anonymousBindings.filterMap fun binding =>
      (storedCertificate binding.2).toOption.map fun certificate =>
        .reconcile binding.1 certificate target.token nowMs) ++
    target.accountDevices.map fun ref => .retireDevice ref target.token code desktopId
  | .failed => []

open PushState in
/-- One move, if it is enabled. -/
def pushStep (crypto : PushCrypto) (s : PushState) : PushMove → Option PushState
  | .tick ms => some { s with clock := s.clock + ms }
  | .post body =>
    match validateAnonymousPushPairing crypto body s.clock true with
    | .error _ => none
    | .ok request => request.fcmToken.map fun token => s.start [.register request token s.clock]
  | .delete body =>
    match validateAnonymousPushPairing crypto body s.clock false with
    | .error _ => none
    | .ok request => some (s.start [.revoke request s.clock])
  | .desktopRevoke desktopPubKey deviceId =>
    match boundedText (some (.str deviceId)) 256 with
    | .error _ => none
    | .ok deviceId => some (s.start [.revokeDevice (pairingKey crypto desktopPubKey deviceId)
        s.clock])
  | .sweep nowMs => if nowMs ≤ s.clock then some (s.start (s.stale nowMs)) else none
  | .publish input =>
    if input.anonymousAdmitted || input.dualIdentity then
      some (s.start [.publishing input s.clock none none])
    else none
  | .readBindings i =>
    match s.take i with
    | some (.publishing input nowMs none devices, rest) =>
      some (rest.start [.publishing input nowMs (some (s.bindingsOf crypto input)) devices])
    | _ => none
  | .readDevices i =>
    match s.take i with
    | some (.publishing input nowMs bindings none, rest) =>
      some (rest.start [.publishing input nowMs bindings (some (s.devicesOf input.userId))])
    | _ => none
  | .send i tokenAdmitted =>
    match s.take i with
    | some (.publishing input nowMs (some bindings) (some devices), rest) =>
      match publishTargets input tokenAdmitted nowMs bindings devices with
      | .error _ => some rest
      | .ok targets => some (rest.start (targets.map fun target => .delivery target
          (input.desktopId.getD (crypto.sha256 input.desktopPubKey)) nowMs))
    | _ => none
  | .notify userId desktopId =>
    some (s.start ((s.devicesOf (some userId)).filterMap fun device =>
      (livePushToken device.2).map fun token =>
        .delivery ⟨token, [device.1], []⟩ desktopId s.clock))
  | .answer i result =>
    match s.take i with
    | some (.delivery target desktopId nowMs, rest) =>
      some (rest.start (result.followUps target desktopId nowMs))
    | _ => none
  | .commit i admitted => (s.take i).bind fun (op, rest) => rest.transact crypto admitted op
  | .abandon i => (s.take i).map fun (_, rest) => rest
  | .registerDevice ref token registrationId =>
    some { s with devices := s.devices.insert ref ⟨some token, registrationId, none⟩ }
  | .unregisterDevice ref deviceToken registrationId =>
    match (s.devices.lookup ref).bind (unregisterPushDevice · deviceToken registrationId) with
    | none => some s
    | some retired => some { s with devices := s.devices.insert ref retired }

/-! ### What a move does -/

section Moves

variable (crypto : PushCrypto) (s : PushState)

/-- Where an operation in flight comes from. -/
inductive Origin : Pending → Prop where
  | register {body request token}
      (hvalid : validateAnonymousPushPairing crypto body s.clock true = .ok request) :
      Origin (.register request token s.clock)
  | revoke {request} : Origin (.revoke request s.clock)
  | revokeDevice {ref} : Origin (.revokeDevice ref s.clock)
  | collect {ref candidate nowMs} (hnow : nowMs ≤ s.clock) : Origin (.collect ref candidate nowMs)
  | publishing {input} : Origin (.publishing input s.clock none none)
  | bindings {input nowMs docs devices} (hop : .publishing input nowMs none devices ∈ s.pending)
      (hdocs : ∀ doc ∈ docs, s.pairings.lookup doc.1 = some doc.2) :
      Origin (.publishing input nowMs (some docs) devices)
  | devices {input nowMs bindings docs} (hop : .publishing input nowMs bindings none ∈ s.pending) :
      Origin (.publishing input nowMs bindings (some docs))
  | delivery {input nowMs docs devices target desktopId}
      (hop : .publishing input nowMs (some docs) (some devices) ∈ s.pending)
      (hdocs : ∀ doc ∈ target.anonymousBindings,
        doc ∈ docs ∧ doc.2.fcmToken.map jsTrim = some target.token) :
      Origin (.delivery target desktopId nowMs)
  | notification {token ref desktopId} : Origin (.delivery ⟨token, [ref], []⟩ desktopId s.clock)
  | delivered {target desktopId nowMs ref} (hop : .delivery target desktopId nowMs ∈ s.pending) :
      Origin (.delivered ref nowMs)
  | reconcile {target desktopId nowMs doc candidate}
      (hop : .delivery target desktopId nowMs ∈ s.pending) (hdoc : doc ∈ target.anonymousBindings)
      (hcandidate : (storedCertificate doc.2).toOption = some candidate) :
      Origin (.reconcile doc.1 candidate target.token nowMs)
  | retireDevice {ref expectedToken providerCode desktopId} :
      Origin (.retireDevice ref expectedToken providerCode desktopId)

/-- What a move does. -/
inductive Next (move : PushMove) : PushState → Prop where
  | ticked {ms : ℕ} : Next move { s with clock := s.clock + ms }
  | waiting {ops} (hops : ∀ op ∈ ops, op ∈ s.pending ∨ Origin crypto s op) :
      Next move { s with pending := ops }
  | committed {i admitted ops op s'} (hmove : move = .commit i admitted)
      (hop : s.pending[i]? = some op) (hops : ∀ op ∈ ops, op ∈ s.pending)
      (hdone : ({ s with pending := ops } : PushState).transact crypto admitted op = some s') :
      Next move s'
  | registrations {devices} : Next move { s with devices := devices }

/-- What the last step of an operation does. -/
inductive Transacted : Pending → PushState → Prop where
  | unchanged {op} : Transacted op s
  | registered {request fcmToken nowMs record}
      (hassert : assertCurrentOrNewerCertificate request.cert
        (s.pairings.lookup (pairingKey crypto request.desktopPubKey request.deviceId)) = .ok ())
      (htoken : record.fcmToken = some fcmToken) (hmark : record.mark = some request.cert.mark) :
      Transacted (.register request fcmToken nowMs) { s with
        pairings :=
          s.pairings.insert (pairingKey crypto request.desktopPubKey request.deviceId) record
        log := .registered (pairingKey crypto request.desktopPubKey request.deviceId)
          request.cert s.clock :: s.log }
  | revoked {request nowMs ref current certificate write}
      (hretires : Retires s.pairings ref (some request.cert) nowMs current certificate write) :
      Transacted (.revoke request nowMs) { s with pairings := write.apply s.pairings ref }
  | desktopRevoked {ref nowMs write}
      (hretires : s.pairings.lookup ref = none ∧ write = .keep ∨ ∃ current certificate,
        Retires s.pairings ref none nowMs current certificate write) :
      Transacted (.revokeDevice ref nowMs) { s with
        pairings := write.apply s.pairings ref
        log := .desktopRevoked ref ((s.pairings.lookup ref).bind (·.mark)) :: s.log }
  | collected {ref candidate nowMs current certificate write}
      (hretires : Retires s.pairings ref (some candidate) nowMs current certificate write) :
      Transacted (.collect ref candidate nowMs) { s with pairings := write.apply s.pairings ref }
  | delivered {ref nowMs record} (hrecord : s.pairings.lookup ref = some record) :
      Transacted (.delivered ref nowMs) { s with
        pairings := s.pairings.insert ref { record with lastDeliveredAtMs := some nowMs } }
  | reconciled {ref candidate token nowMs current certificate write}
      (hretires : Retires s.pairings ref (some candidate) nowMs current certificate write) :
      Transacted (.reconcile ref candidate token nowMs) { s with
        pairings := write.apply s.pairings ref
        log := .pairingRejected ref token current.liveToken :: s.log }
  | deviceRetired {ref expectedToken providerCode desktopId current retired}
      (hcurrent : s.devices.lookup ref = some current)
      (hheld : current.token = some expectedToken) :
      Transacted (.retireDevice ref expectedToken providerCode desktopId) { s with
        devices := s.devices.insert ref retired
        log := .deviceRejected ref expectedToken current.token :: s.log }

end Moves

variable {crypto : PushCrypto} {s s' : PushState} {op : Pending} {move : PushMove}

open List PushState

theorem take_eq_some {rest : PushState} {i : ℕ} (h : s.take i = some (op, rest)) :
    s.pending[i]? = some op ∧
      ∃ ops, rest = { s with pending := ops } ∧ ∀ other ∈ ops, other ∈ s.pending := by
  rw [PushState.take] at h
  obtain ⟨found, hfound, heq⟩ := Option.map_eq_some_iff.mp h
  cases heq
  exact ⟨hfound, _, rfl, fun other => mem_of_mem_eraseIdx⟩

/-- Operations that are added have an origin. -/
theorem Next.start {ops : List Pending}
    (h : ∀ op ∈ ops, Origin crypto s op) : Next crypto s move (s.start ops) :=
  .waiting fun op hop => (mem_append.mp hop).imp_right (h op)

/-- Operations that take the place of another have an origin. -/
theorem Next.replace {rest : PushState} {i : ℕ}
    (htake : s.take i = some (op, rest)) {ops : List Pending}
    (h : ∀ other ∈ ops, op ∈ s.pending → Origin crypto s other) :
    Next crypto s move (rest.start ops) := by
  obtain ⟨hop, kept, rfl, hkept⟩ := take_eq_some htake
  exact .waiting fun other hother =>
    (mem_append.mp hother).imp (hkept other) fun hnew =>
      h other hnew (mem_of_getElem? hop)

/-- An operation that ends. -/
theorem Next.remove {rest : PushState} {i : ℕ} (htake : s.take i = some (op, rest)) :
    Next crypto s move rest := by
  obtain ⟨-, ops, rfl, hops⟩ := take_eq_some htake
  exact .waiting fun op hop => .inl (hops op hop)

variable {targets : List PushDeliveryTarget}

/-- The changes of a map of targets keep what holds of every target. -/
theorem forall_changeTarget {P : PushDeliveryTarget → Prop}
    {token : String} {change : PushDeliveryTarget → PushDeliveryTarget}
    (h : ∀ target ∈ targets, P target) (hempty : P ⟨token, [], []⟩)
    (hchange : ∀ target, target.token = token → P target → P (change target)) :
    ∀ target ∈ changeTarget targets token change, P target := by
  intro target htarget
  rw [changeTarget] at htarget
  split_ifs at htarget with hfound
  · obtain ⟨old, hold, rfl⟩ := mem_map.mp htarget
    split_ifs with htoken
    · exact hchange old htoken (h old hold)
    · exact h old hold
  · rcases mem_append.mp htarget with hold | hnew
    · exact h target hold
    · rw [mem_singleton.mp hnew]
      exact hchange _ rfl hempty

/-- What every round of a loop keeps holds after it, if no round fails. -/
theorem invariant_of_foldlM {α β ε : Type} {f : α → β → Except ε α} {P : α → Prop} {items : List β}
    (hkeep : ∀ acc next item, item ∈ items → P acc → f acc item = .ok next → P next)
    {start last : α} (hstart : P start) (h : items.foldlM f start = .ok last) : P last := by
  induction items generalizing start with
  | nil =>
    cases h
    exact hstart
  | cons item items ih =>
    rw [foldlM_cons] at h
    obtain ⟨next, hnext, hrest⟩ := of_bind h
    exact ih (fun acc next item hitem => hkeep acc next item (mem_cons_of_mem _ hitem))
      (hkeep start next item mem_cons_self hstart hnext) hrest

/-- The pairings of a target are among the documents, and hold the token of the target. -/
def Aims (docs : List BindingDoc) (target : PushDeliveryTarget) : Prop :=
  ∀ doc ∈ target.anonymousBindings, doc ∈ docs ∧ doc.2.fcmToken.map jsTrim = some target.token

variable {docs : List BindingDoc}

variable {input : PushInput} {tokenAdmitted : String → Bool}

theorem aims_addBinding {after : List PushDeliveryTarget} {binding : BindingDoc}
    (h : ∀ target ∈ targets, Aims docs target) (hbinding : binding ∈ docs)
    (hadd : addBinding input tokenAdmitted targets binding = .ok after) :
    ∀ target ∈ after, Aims docs target := by
  rw [addBinding] at hadd
  split at hadd
  · next normalized tokenHash hnormalized _ =>
    have hadded : ∀ target ∈ changeTarget targets normalized fun target =>
        { target with anonymousBindings := target.anonymousBindings ++ [binding] },
        Aims docs target := by
      refine forall_changeTarget h nofun fun target htoken haims => ?_
      intro doc hdoc
      rcases mem_append.mp hdoc with hold | hnew
      · exact haims doc hold
      · rw [mem_singleton.mp hnew]
        exact ⟨hbinding, htoken ▸ (Option.filter_eq_some_iff.mp hnormalized).1⟩
    split_ifs at hadd <;> cases hadd <;> first | exact hadded | exact h
  · cases hadd
    exact h

variable {nowMs : Int}

theorem aims_publishTargets {devices : List (DeviceRef × PushDeviceRecord)}
    (h : publishTargets input tokenAdmitted nowMs docs devices = .ok targets) :
    ∀ target ∈ targets, Aims docs target := by
  rw [publishTargets] at h
  split_ifs at h
  have hdevices : ∀ target ∈ devices.foldl addDevice [], Aims docs target := by
    refine foldlRecOn (motive := fun targets => ∀ target ∈ targets, Aims docs target) devices
      addDevice nofun fun targets htargets device _ => ?_
    rw [addDevice]
    split
    · exact htargets
    · exact forall_changeTarget htargets nofun fun target _ haims doc hdoc => haims doc hdoc
  have hbindings : ∀ doc ∈ (docs.filter fun doc => isActiveBinding doc.2 nowMs).take
      maxDevicesPerDesktop, doc ∈ docs :=
    fun doc hdoc => (mem_filter.mp (mem_of_mem_take hdoc)).1
  exact invariant_of_foldlM (fun targets after binding hbinding htargets hadd =>
    aims_addBinding htargets (hbindings binding hbinding) hadd) hdevices h

theorem origin_followUps {target : PushDeliveryTarget}
    {desktopId : String} (hop : .delivery target desktopId nowMs ∈ s.pending)
    (result : SendResult) : ∀ op ∈ result.followUps target desktopId nowMs, Origin crypto s op := by
  intro op hmem
  cases result with
  | accepted =>
    obtain ⟨binding, -, rfl⟩ := mem_map.mp hmem
    exact .delivered hop
  | rejected code =>
    rcases mem_append.mp hmem with hpairing | hdevice
    · obtain ⟨binding, hbinding, hsome⟩ := mem_filterMap.mp hpairing
      obtain ⟨certificate, hcertificate, rfl⟩ := Option.map_eq_some_iff.mp hsome
      exact .reconcile hop hbinding hcertificate
    · obtain ⟨ref, -, rfl⟩ := mem_map.mp hdevice
      exact .retireDevice
  | failed => cases hmem

theorem origin_stale (hnow : nowMs ≤ s.clock) : ∀ op ∈ s.stale nowMs, Origin crypto s op := by
  intro op hop
  obtain ⟨doc, -, hdoc⟩ := mem_filterMap.mp hop
  obtain ⟨certificate, -, rfl⟩ := Option.map_eq_some_iff.mp hdoc
  exact .collect hnow

/-- What the query of a delivery returns is stored. -/
theorem lookup_of_bindingsOf {doc : BindingDoc} (h : doc ∈ s.bindingsOf crypto input) :
    s.pairings.lookup doc.1 = some doc.2 := by
  rw [bindingsOf] at h
  split_ifs at h
  · obtain ⟨entry, hentry, rfl⟩ := mem_map.mp ((mem_insertionSort _).mp h)
    exact AList.mem_lookup_iff.mpr (mem_filter.mp hentry).1
  · cases h

variable {i : ℕ}

theorem next_readBindings (h : pushStep crypto s (.readBindings i) = some s') :
    Next crypto s move s' := by
  rw [pushStep] at h
  split at h
  · next input nowMs devices rest htake =>
    cases h
    refine .replace htake (forall_mem_singleton.mpr fun hpublishing => ?_)
    exact .bindings hpublishing fun _ => lookup_of_bindingsOf
  · cases h

theorem next_send (h : pushStep crypto s (.send i tokenAdmitted) = some s') :
    Next crypto s move s' := by
  rw [pushStep] at h
  split at h
  · next input nowMs bindings devices rest htake =>
    split at h
    · cases h
      exact .remove htake
    · next targets htargets =>
      cases h
      refine .replace htake fun op hop hpublishing => ?_
      obtain ⟨target, htarget, rfl⟩ := mem_map.mp hop
      exact .delivery hpublishing (aims_publishTargets htargets target htarget)
  · cases h

/-- **What a move does.** -/
theorem next_of_step (h : pushStep crypto s move = some s') : Next crypto s move s' := by
  cases move <;> rw [pushStep] at h
  case tick ms =>
    cases h
    exact .ticked
  case post body =>
    split at h
    · cases h
    · next request hvalid =>
      obtain ⟨token, -, rfl⟩ := Option.map_eq_some_iff.mp h
      exact .start (forall_mem_singleton.mpr (.register hvalid))
  case delete body =>
    split at h
    · cases h
    · cases h
      exact .start (forall_mem_singleton.mpr .revoke)
  case desktopRevoke desktopPubKey deviceId =>
    split at h
    · cases h
    · cases h
      exact .start (forall_mem_singleton.mpr .revokeDevice)
  case sweep nowMs =>
    obtain ⟨hnow, rfl⟩ := guard_eq_some h
    exact .start (origin_stale hnow)
  case publish input =>
    obtain ⟨-, rfl⟩ := guard_eq_some h
    exact .start (forall_mem_singleton.mpr .publishing)
  case readBindings i => exact next_readBindings h
  case readDevices i =>
    split at h
    · next input nowMs bindings rest htake =>
      cases h
      exact .replace htake (forall_mem_singleton.mpr .devices)
    · cases h
  case send i tokenAdmitted => exact next_send h
  case notify userId desktopId =>
    cases h
    refine .start fun op hop => ?_
    obtain ⟨device, -, hsome⟩ := mem_filterMap.mp hop
    obtain ⟨token, -, rfl⟩ := Option.map_eq_some_iff.mp hsome
    exact .notification
  case answer i result =>
    split at h
    · next target desktopId nowMs rest htake =>
      cases h
      exact .replace htake fun op hop hdelivery => origin_followUps hdelivery result op hop
    · cases h
  case commit i admitted =>
    obtain ⟨⟨op, rest⟩, htake, hdone⟩ := Option.bind_eq_some_iff.mp h
    obtain ⟨hop, ops, rfl, hops⟩ := take_eq_some htake
    exact .committed rfl hop hops hdone
  case abandon i =>
    obtain ⟨_, htake, rfl⟩ := Option.map_eq_some_iff.mp h
    exact .remove htake
  case registerDevice ref token registrationId =>
    cases h
    exact .registrations
  case unregisterDevice ref deviceToken registrationId =>
    split at h
    · cases h
      exact .registrations
    · cases h
      exact .registrations

/-! ### What a transaction does -/

variable {ref : PairingKey} {candidate : Option Certificate} {write : Write}

theorem retire_eq_ok {after : PushState} {staleBeforeMs : Option Int} {admitted : Bool}
    (h : s.retire ref candidate nowMs staleBeforeMs admitted = .ok (write, after)) :
    after = { s with pairings := write.apply s.pairings ref } ∧
      (write = .keep ∧ (staleBeforeMs = none → s.pairings.lookup ref = none) ∨
        ∃ current certificate,
          Retires s.pairings ref candidate nowMs current certificate write) := by
  obtain ⟨_, hretire, heq⟩ := of_map h
  cases heq
  exact ⟨rfl, retire_ok hretire⟩

variable {current : PairingRecord} {certificate : Certificate}

/-- **What the last step of an operation does.** -/
theorem transacted_of_transact {admitted : Bool}
    (h : s.transact crypto admitted op = some s') : Transacted crypto s op s' := by
  cases op <;> rw [transact] at h
  case register request fcmToken nowMs =>
    split at h
    · cases h
      exact .unchanged
    · next write hregister =>
      cases h
      obtain ⟨hassert, record, rfl, htoken, hmark⟩ := register_ok hregister
      exact .registered hassert htoken hmark
  case revoke request nowMs =>
    split at h
    · cases h
      exact .unchanged
    · next write after hretire =>
      cases h
      obtain ⟨rfl, ⟨rfl, -⟩ | ⟨current, certificate, hretires⟩⟩ := retire_eq_ok hretire
      · exact .unchanged
      · exact .revoked hretires
  case revokeDevice ref nowMs =>
    split at h
    · cases h
      exact .unchanged
    · next write after hretire =>
      cases h
      obtain ⟨rfl, hretires⟩ := retire_eq_ok hretire
      exact .desktopRevoked (hretires.imp_left fun ⟨hkeep, hnone⟩ => ⟨hnone rfl, hkeep⟩)
  case collect ref candidate nowMs =>
    split at h
    · cases h
      exact .unchanged
    · next write after hretire =>
      cases h
      obtain ⟨rfl, ⟨rfl, -⟩ | ⟨current, certificate, hretires⟩⟩ := retire_eq_ok hretire
      · exact .unchanged
      · exact .collected hretires
  case delivered ref nowMs =>
    split at h
    · cases h
      exact .unchanged
    · next record hrecord =>
      cases h
      exact .delivered hrecord
  case reconcile ref candidate token nowMs =>
    split at h
    · cases h
      exact .unchanged
    · next write after hretire =>
      obtain ⟨rfl, ⟨rfl, -⟩ | ⟨current, certificate, hretires⟩⟩ := retire_eq_ok hretire
      · cases h
        exact .unchanged
      · have hwrites : write ≠ .keep := by
          rcases hretires.write with ⟨rfl, -⟩ | rfl <;> exact nofun
        rw [if_neg hwrites, hretires.stored] at h
        cases h
        exact .reconciled hretires
  case retireDevice ref expectedToken providerCode desktopId =>
    cases hcurrent : s.devices.lookup ref with
    | none =>
      rw [hcurrent] at h
      cases h
      exact .unchanged
    | some current =>
      rw [hcurrent, retirePushDeviceAfterProviderRejection] at h
      split_ifs at h with hkept
      · cases h
        exact .unchanged
      · cases h
        rw [not_or, not_not] at hkept
        exact .deviceRetired hcurrent hkept.2
  all_goals cases h

theorem Transacted.clock_pending
    (h : Transacted crypto s op s') : s'.clock = s.clock ∧ s'.pending = s.pending := by
  cases h <;> exact ⟨rfl, rfl⟩

/-- A registration wrote the document of a pair. -/
structure JustRegistered (crypto : PushCrypto) (s s' : PushState) (ref : PairingKey)
    (record : PairingRecord) (request : PairingRequest) (fcmToken : String) : Prop where
  key : ref = pairingKey crypto request.desktopPubKey request.deviceId
  token : record.fcmToken = some fcmToken
  mark : record.mark = some request.cert.mark
  log : s'.log = .registered ref request.cert s.clock :: s.log

variable {record : PairingRecord}

/-- After a retirement, a pair with a token is one that the retirement was not about. -/
theorem Retires.live_token {pairings : Pairings} {other : PairingKey}
    (h : Retires pairings ref candidate nowMs current certificate write)
    (hrecord : (write.apply pairings ref).lookup other = some record)
    (hlive : record.liveToken ≠ none) : pairings.lookup other = some record := by
  by_cases hother : other = ref
  · subst hother
    have hdead := h.liveToken
    rw [hrecord] at hdead
    exact absurd hdead hlive
  · rwa [lookup_apply_ne _ hother] at hrecord

/-- **A pair with a token had it before, under the same certificate, or was registered in this
very transaction.** -/
theorem Transacted.live_token (h : Transacted crypto s op s')
    (hrecord : s'.pairings.lookup ref = some record) (hlive : record.liveToken ≠ none) :
    (∃ old, s.pairings.lookup ref = some old ∧ old.liveToken = record.liveToken ∧
      old.mark = record.mark) ∨
    ∃ request fcmToken nowMs, op = .register request fcmToken nowMs ∧
      JustRegistered crypto s s' ref record request fcmToken := by
  cases h with
  | @registered request fcmToken nowMs written hassert htoken hmark =>
    rw [lookup_insert_eq] at hrecord
    split_ifs at hrecord with heq
    · cases hrecord
      exact .inr ⟨request, fcmToken, nowMs, rfl, heq, htoken, hmark, by rw [heq]⟩
    · exact .inl ⟨record, hrecord, rfl, rfl⟩
  | revoked hretires | collected hretires | reconciled hretires =>
    exact .inl ⟨record, hretires.live_token hrecord hlive, rfl, rfl⟩
  | desktopRevoked hretires =>
    rcases hretires with ⟨-, rfl⟩ | ⟨current, certificate, hretires⟩
    · exact .inl ⟨record, hrecord, rfl, rfl⟩
    · exact .inl ⟨record, hretires.live_token hrecord hlive, rfl, rfl⟩
  | @delivered other nowMs old hold =>
    rw [lookup_insert_eq] at hrecord
    split_ifs at hrecord with heq
    · cases hrecord
      exact .inl ⟨old, heq ▸ hold, rfl, rfl⟩
    · exact .inl ⟨record, hrecord, rfl, rfl⟩
  | _ => exact .inl ⟨record, hrecord, rfl, rfl⟩

/-! ### A relay to evaluate on -/

/-- A relay that knows one signature. -/
def trustingCrypto : PushCrypto := ⟨id, fun _ _ signature => signature = "signed"⟩

/-- The body of a registration of the device `phone` with the desktop `desktop`. -/
def pairingBody (token : String) (issuedAt : Int) : Json :=
  .obj [("desktopPubKey", .str "desktop"), ("deviceId", .str "phone"), ("fcmToken", .str token),
    ("cert", .obj [("deviceId", .str "phone"), ("issuedAt", .num issuedAt),
      ("expiresAt", .num (issuedAt + 1000)), ("signature", .str "signed")])]

/-- A relay without pairings. -/
def emptyPush : PushState := ⟨100, ∅, ∅, [], []⟩

end Kanna.Relay
