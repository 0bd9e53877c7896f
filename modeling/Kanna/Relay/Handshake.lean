import Kanna.Lib.Json
import Kanna.Lib.Run

/-!
# The handshake of a relay socket

Every frame that comes before a socket is authenticated runs its own handler, and the handlers
share the variables of the socket: they are assigned before and after the verifications that a
handler awaits, and `authenticated` is set at the very end.
-/

namespace Kanna.Handshake

/-! ### What the handlers share -/

/-- Which end of the tunnel the socket is. -/
inductive Role where
  | phone
  | server
  deriving DecidableEq

/-- What a socket is registered for. -/
inductive PrincipalKind where
  | account
  | anonymousDesktop
  deriving DecidableEq

/-- What a desktop has proved itself with. -/
inductive ServerAuthProof where
  | desktop (desktopId desktopSecret : Json)
  | device (desktopId deviceToken : Json)

/-- As whom a socket is registered. -/
structure Identity where
  userId : Option String
  role : Option Role
  desktopId : Option Json
  serverAuthProof : Option ServerAuthProof
  principalKind : Option PrincipalKind
  anonymousPubKey : Option Json

/-- The variables of a socket. -/
structure Session : Type extends Identity where
  authenticated : Bool
  /-- the nonce that is to be signed -/
  pendingAnonymousNonce : Option String

/-- Nothing is known of the client. -/
def newSession : Session := ⟨⟨none, none, none, none, none, none⟩, false, none⟩

/-- What a handler awaits. -/
inductive Await where
  /-- `verifyDesktopCredentials`, for a frame that has an anonymous key as well -/
  | anonymousCredentials
  /-- `verifyPhoneIdentity` -/
  | phone
  /-- `verifyDesktopCredentials` -/
  | desktop
  /-- `verifyDeviceToken` -/
  | device
  /-- `resolveSessionEntitlement` -/
  | entitlement
  /-- `revalidateServerAuth` -/
  | revalidation
  /-- `beginCloudTaskPublicationSession` -/
  | publication

/-- A handler that is under way, with its frame. -/
structure Handler where
  msg : Json
  awaits : Await

/-- What is awaited. -/
inductive Outcome where
  | rejected
  /-- the account of the token -/
  | phone (principal : Option String)
  /-- the account and the id of the desktop -/
  | desktop (principal : Option (String × String))
  | device (userId : Option String)
  /-- whether the entitlement grants `cloud_relay` -/
  | entitlement (grants : Bool)
  | revalidated (valid : Bool)
  | leased

/-- A socket before it is authenticated. The last three fields are notes: what the exchange of
the pending nonce proves once the nonce is signed, what the exchanges have proved so far, and as
whom the socket was registered. -/
structure State where
  session : Session
  closed : Bool
  handlers : List Handler
  challenge : Option Identity
  verified : List Identity
  registrations : List Identity

/-- The functions of anonymous keys. -/
structure AnonymousKeys where
  /-- `verifyAnonymousSignature` of the payload for a nonce -/
  verifies : Json → String → String → Bool
  /-- `anonymousDesktopId` -/
  desktopId : Json → String
  /-- `anon_pub_key.length > 128` -/
  tooLong : Json → Bool

/-! ### The handler -/

/-- The value counts as true. -/
def truthy : Json → Bool
  | .null => false
  | .bool value => value
  | .num value => value ≠ 0
  | .str value => value ≠ ""
  | .arr _ => true
  | .obj _ => true

/-- A field that counts as true. -/
def given (value : Option Json) : Option Json := value.filter truthy

/-- The operator `??`. -/
def nullish (value fallback : Option Json) : Option Json :=
  match value with
  | none => fallback
  | some .null => fallback
  | some value => some value

/-- What a verified token proves. -/
def phoneIdentity (userId : String) : Identity :=
  ⟨some userId, some .phone, none, none, some .account, none⟩

/-- What verified desktop credentials prove. -/
def desktopIdentity (msg : Json) (principal : String × String) : Identity where
  userId := some principal.1
  role := some .server
  desktopId := some (.str principal.2)
  serverAuthProof := some (.desktop ((msg.field "desktop_id").getD .null)
    ((msg.field "desktop_secret").getD .null))
  principalKind := some .account
  anonymousPubKey := none

/-- What a signature of an anonymous key proves. -/
def anonymousIdentity (keys : AnonymousKeys) (key : Json) : Identity where
  userId := some ("anonymous:" ++ keys.desktopId key)
  role := some .server
  desktopId := some (.str (keys.desktopId key))
  serverAuthProof := none
  principalKind := some .anonymousDesktop
  anonymousPubKey := some key

namespace State

variable (s : State)

/-- The handler closes the socket and returns, or its promise is rejected. -/
def fail : State := { s with closed := true }

/-- The handler waits. -/
def await (msg : Json) (awaits : Await) : State :=
  { s with handlers := s.handlers ++ [⟨msg, awaits⟩] }

/-- The socket is authenticated as whom its variables say. -/
def register : State :=
  { s with
    session := { s.session with authenticated := true }
    registrations := s.registrations ++ [s.session.toIdentity] }

/-- The handler from the entitlement on. -/
def entitled (msg : Json) (grants : Bool) : State :=
  if s.session.role = some .server ∧ (given s.session.desktopId).isSome then
    -- the socket of a tunnel
    if (given (msg.field "tunnel_id")).isSome then if grants then s.register else s.fail
    else
      match s.session.serverAuthProof with
      | some (.desktop ..) => s.await msg .revalidation
      | _ => s.register
  else s.register

/-- The handler from where the identity is settled. -/
def identified (msg : Json) : State :=
  if (s.session.userId.filter (· ≠ "")).isNone ∨ s.session.role.isNone ∨
      s.session.principalKind.isNone then s.fail
  else if s.session.principalKind = some .anonymousDesktop then s.entitled msg false
  else s.await msg .entitlement

/-- A nonce is sent; `own` is what the frame will have proved. -/
def challenged (key : Json) (nonce : String) (own : Identity) : State :=
  { s with
    session := { s.session with anonymousPubKey := some key, pendingAnonymousNonce := some nonce }
    challenge := some { own with anonymousPubKey := some key } }

/-- The nonce is signed. -/
def proved (keys : AnonymousKeys) (s : State) (key : Json) : State :=
  { s with
    session :=
      if s.session.serverAuthProof.isSome then { s.session with pendingAnonymousNonce := none }
      else
        { s.session with
          desktopId := some (.str (keys.desktopId key))
          userId := some ("anonymous:" ++ keys.desktopId key)
          role := some .server
          principalKind := some .anonymousDesktop
          pendingAnonymousNonce := none }
    challenge := none
    verified := s.verified ++ s.challenge.toList }

/-- A frame without a pending nonce. -/
def authenticate (keys : AnonymousKeys) (s : State) (msg : Json) (nonce : String) : State :=
  if (msg.field "type").bind Json.string? ≠ some "auth" then s.fail
  else
    match given (msg.field "anon_pub_key") with
    | some key =>
      if (given (msg.field "tunnel_id")).isSome ∨ keys.tooLong key then s.fail
      else
        match given (msg.field "desktop_id"), given (msg.field "desktop_secret") with
        | none, none => s.challenged key nonce (anonymousIdentity keys key)
        | some _, some _ => s.await msg .anonymousCredentials
        | _, _ => s.fail
    | none =>
      if (given (msg.field "id_token")).isSome then s.await msg .phone
      else if (given (msg.field "desktop_id")).isSome ∧
          (given (msg.field "desktop_secret")).isSome then s.await msg .desktop
      else if (given (msg.field "device_token")).isSome then s.await msg .device
      else s.fail

/-- The handler of a frame, up to what it awaits first. -/
def handle (keys : AnonymousKeys) (s : State) (msg : Json) (nonce : String) : State :=
  match s.session.pendingAnonymousNonce with
  | none => s.authenticate keys msg nonce
  | some pending =>
    match given s.session.anonymousPubKey, (msg.field "signature").bind Json.string? with
    | some key, some signature =>
      if (msg.field "type").bind Json.string? = some "auth_proof" ∧
          keys.verifies key pending signature then (s.proved keys key).identified msg
      else s.fail
    | _, _ => s.fail

/-- What is awaited has ended. -/
def resume (msg : Json) (nonce : String) : Await → Outcome → Option State
  | _, .rejected => some s.fail
  | .anonymousCredentials, .desktop none => some s.fail
  | .anonymousCredentials, .desktop (some principal) =>
    let own := desktopIdentity msg principal
    let session :=
      { s.session with toIdentity := { own with anonymousPubKey := s.session.anonymousPubKey } }
    some ({ s with session }.challenged ((msg.field "anon_pub_key").getD .null) nonce own)
  | .phone, .phone principal =>
    some ({ s with
      session :=
        { s.session with
          userId := principal, role := some .phone, principalKind := some .account }
      verified := s.verified ++ principal.toList.map phoneIdentity }.identified msg)
  | .desktop, .desktop principal =>
    let own := principal.map (desktopIdentity msg)
    some ({ s with
      session :=
        { s.session with
          userId := own.bind (·.userId)
          desktopId := own.bind (·.desktopId)
          serverAuthProof := own.bind (·.serverAuthProof)
          role := some .server
          principalKind := some .account }
      verified := s.verified ++ own.toList }.identified msg)
  | .device, .device userId =>
    let desktopId := nullish (msg.field "desktop_id") (msg.field "device_token")
    let proof := ServerAuthProof.device (desktopId.getD .null)
      ((msg.field "device_token").getD .null)
    some ({ s with
      session :=
        { s.session with
          userId, desktopId
          serverAuthProof := some proof
          role := some .server
          principalKind := some .account }
      verified := s.verified ++ userId.toList.map fun userId => Identity.mk (some userId)
        (some .server) desktopId (some proof) (some .account) none }.identified msg)
  | .entitlement, .entitlement grants => some (s.entitled msg grants)
  | .revalidation, .revalidated valid => some (if valid then s.await msg .publication else s.fail)
  | .publication, .leased => some s.register
  | _, _ => none

end State

/-! ### Runs -/

/-- A frame comes, what a handler awaits ends, or the socket closes. -/
inductive Move where
  /-- `nonce` is what `randomBytes` gives, should it be asked -/
  | receive (data nonce : String)
  | resume (i : ℕ) (outcome : Outcome) (nonce : String)
  /-- the client closes, or it has taken too long -/
  | close

section Runs

variable (keys : AnonymousKeys) (parse : String → Option Json)

/-- One move, if it is enabled. -/
def step (s : State) : Move → Option State
  | .receive data nonce =>
    -- what comes after the handshake is not for it
    if s.session.authenticated then some s
    else
      match parse data with
      | none => some s.fail
      -- reading a field of `null` throws
      | some .null => some s.fail
      | some msg => some (s.handle keys msg nonce)
  | .resume i outcome nonce =>
    s.handlers[i]?.bind fun handler =>
      { s with handlers := s.handlers.eraseIdx i }.resume handler.msg nonce handler.awaits outcome
  | .close => some s.fail

/-- The socket was authenticated at most once, as whom one exchange has proved it to be. -/
structure OneExchange (s : State) : Prop where
  once : s.registrations.length ≤ 1
  verified : ∀ identity ∈ s.registrations, identity ∈ s.verified

/-- The client sends a frame only when the one before it is answered, and none after the socket
was closed. -/
def Waits (s : State) : Move → Prop
  | .receive _ _ => s.session.authenticated = false → s.handlers.length = 0 ∧ s.closed = false
  | _ => True

instance (s : State) : (move : Move) → Decidable (Waits s move)
  | .receive _ _ => inferInstanceAs (Decidable (_ → _))
  | .resume _ _ _ => .isTrue trivial
  | .close => .isTrue trivial

end Runs

/-- What is awaited verifies the client. -/
def Await.Verifies : Await → Prop
  | .anonymousCredentials | .phone | .desktop | .device => True
  | .entitlement | .revalidation | .publication => False

/-- Where a handshake is whose frames come one at a time. -/
inductive Stage (keys : AnonymousKeys) : State → Prop where
  | fresh {closed challenge verified} :
      Stage keys ⟨newSession, closed, [], challenge, verified, []⟩
  | verifying {msg awaits closed challenge verified} (hawaits : awaits.Verifies) :
      Stage keys ⟨newSession, closed, [⟨msg, awaits⟩], challenge, verified, []⟩
  | challenged {nonce key own session closed verified}
      (hsession : session = ⟨own, false, some nonce⟩ ∧ own.serverAuthProof.isSome ∨
        session = { newSession with
          anonymousPubKey := some key, pendingAnonymousNonce := some nonce } ∧
          own = anonymousIdentity keys key)
      (hkey : own.anonymousPubKey = some key) :
      Stage keys ⟨session, closed, [], some own, verified, []⟩
  | proved {session msg awaits closed challenge verified} (hawaits : ¬ awaits.Verifies)
      (hsession : session.authenticated = false) (hverified : session.toIdentity ∈ verified) :
      Stage keys ⟨session, closed, [⟨msg, awaits⟩], challenge, verified, []⟩
  | ended {session challenge verified} (hsession : session.authenticated = false) :
      Stage keys ⟨session, true, [], challenge, verified, []⟩
  | registered {session closed challenge verified identity}
      (hsession : session.authenticated = true) (hverified : identity ∈ verified) :
      Stage keys ⟨session, closed, [], challenge, verified, [identity]⟩

/-- A socket that is not registered, while no handler runs. -/
abbrev idle (session : Session) (closed : Bool) (challenge : Option Identity)
    (verified : List Identity) : State :=
  ⟨session, closed, [], challenge, verified, []⟩

open List

section Steps

variable {keys : AnonymousKeys} {s s' : State} {msg : Json} {nonce : String} {session : Session}
  {closed : Bool} {challenge : Option Identity} {verified : List Identity}

section Idle

variable (hsession : session.authenticated = false)

include hsession

/-- The handler from the entitlement on. -/
theorem stage_entitled (hverified : session.toIdentity ∈ verified) (grants : Bool) :
    Stage keys ((idle session closed challenge verified).entitled msg grants) := by
  have hregister : Stage keys (idle session closed challenge verified).register :=
    .registered rfl hverified
  rw [State.entitled]
  split_ifs
  · exact hregister
  · exact .ended hsession
  · split
    · exact .proved id hsession hverified
    · exact hregister
  · exact hregister

/-- The handler from where the identity is settled. -/
theorem stage_identified (hverified : session.userId.isSome → session.toIdentity ∈ verified) :
    Stage keys ((idle session closed challenge verified).identified msg) := by
  rw [State.identified]
  split_ifs with hmissing
  · exact .ended hsession
  all_goals
    have hproved : session.toIdentity ∈ verified := by
      refine hverified ?_
      cases huser : session.userId with
      | none => simp [huser] at hmissing
      | some userId => rfl
  · exact stage_entitled hsession hproved false
  · exact .proved id hsession hproved

/-- The one handler that runs goes on: its verification has ended, or what comes after it. -/
theorem stage_resume {awaits : Await} {outcome : Outcome}
    (hresume : (idle session closed challenge verified).resume msg nonce awaits outcome = some s')
    (hnew : awaits.Verifies → session = newSession)
    (hverified : ¬ awaits.Verifies → session.toIdentity ∈ verified) : Stage keys s' := by
  unfold State.resume at hresume
  split at hresume
  · cases hresume
    exact .ended hsession
  · cases hresume
    exact .ended hsession
  · next principal =>
    cases hresume
    obtain rfl := hnew trivial
    exact .challenged (.inl ⟨rfl, rfl⟩) rfl
  · next principal =>
    cases hresume
    obtain rfl := hnew trivial
    refine stage_identified rfl (fun huser => mem_append_right _ ?_)
    obtain ⟨userId, rfl⟩ := Option.isSome_iff_exists.mp huser
    exact mem_cons_self
  · next principal =>
    cases hresume
    obtain rfl := hnew trivial
    refine stage_identified rfl (fun huser => mem_append_right _ ?_)
    cases principal with
    | none => cases huser
    | some principal => exact mem_cons_self
  · next userId =>
    cases hresume
    obtain rfl := hnew trivial
    refine stage_identified rfl (fun huser => mem_append_right _ ?_)
    obtain ⟨userId, rfl⟩ := Option.isSome_iff_exists.mp huser
    exact mem_cons_self
  · cases hresume
    exact stage_entitled hsession (hverified id) _
  · cases hresume
    split_ifs
    · exact .proved id hsession (hverified id)
    · exact .ended hsession
  · cases hresume
    exact .registered rfl (hverified id)
  · cases hresume

end Idle

/-- A frame that comes while no handler runs. -/
theorem Stage.handle (h : Stage keys s) (hhandlers : s.handlers = []) (hclosed : s.closed = false)
    (hauthenticated : s.session.authenticated = false) : Stage keys (s.handle keys msg nonce) := by
  rw [State.handle]
  cases h with
  | fresh =>
    dsimp only [newSession]
    rw [State.authenticate]
    split
    · exact .ended rfl
    · split
      · split
        · exact .ended rfl
        · split
          · exact .challenged (.inr ⟨rfl, rfl⟩) rfl
          · exact .verifying trivial
          · exact .ended rfl
      · split_ifs
        · exact .verifying trivial
        · exact .verifying trivial
        · exact .verifying trivial
        · exact .ended rfl
  | @challenged nonce key own session closed verified hsession hkey =>
    have hpending : session.pendingAnonymousNonce = some nonce ∧
        session.anonymousPubKey = some key := by
      obtain ⟨rfl, -⟩ | ⟨rfl, -⟩ := hsession
      · exact ⟨rfl, hkey⟩
      · exact ⟨rfl, rfl⟩
    dsimp only
    rw [hpending.1]
    dsimp only
    split
    · next found signature hfound _ =>
      obtain rfl : key = found :=
        Option.some.inj (hpending.2.symm.trans (Option.filter_eq_some_iff.mp hfound).1)
      split_ifs
      · -- what is settled now is what the exchange proves
        have hsettled : State.proved keys ⟨session, closed, [], some own, verified, []⟩ key =
            idle ⟨own, false, none⟩ closed none (verified ++ [own]) := by
          obtain ⟨rfl, hproof⟩ | ⟨rfl, rfl⟩ := hsession
          · rw [State.proved, if_pos hproof]
            rfl
          · rfl
        rw [hsettled]
        exact stage_identified rfl fun _ => mem_append_right _ mem_cons_self
      · exact .ended hauthenticated
    · exact .ended hauthenticated
  | verifying | proved => cases hhandlers
  | ended => cases hclosed
  | registered hsession => cases hauthenticated.symm.trans hsession

/-- Closing the socket changes nothing else. -/
theorem Stage.fail (h : Stage keys s) : Stage keys s.fail := by
  cases h with
  | fresh => exact .fresh
  | verifying hawaits => exact .verifying hawaits
  | challenged hsession hkey => exact .challenged hsession hkey
  | proved hawaits hsession hverified => exact .proved hawaits hsession hverified
  | ended hsession => exact .ended hsession
  | registered hsession hverified => exact .registered hsession hverified

/-- The handler that goes on is the only one. -/
theorem eraseIdx_of_getElem? {handler found : Handler} {i : ℕ}
    (h : [handler][i]? = some found) : found = handler ∧ [handler].eraseIdx i = [] := by
  cases i with
  | zero => exact ⟨(Option.some.inj h).symm, rfl⟩
  | succ i => cases h

theorem Stage.step {parse : String → Option Json} {move : Move} (h : Stage keys s)
    (hwaits : Waits s move) (hstep : step keys parse s move = some s') : Stage keys s' := by
  cases move with
  | receive data nonce =>
    rw [Handshake.step] at hstep
    split_ifs at hstep with hauthenticated
    · cases hstep
      exact h
    · have hauthenticated : s.session.authenticated = false := Bool.not_eq_true _ ▸ hauthenticated
      obtain ⟨hhandlers, hclosed⟩ := hwaits hauthenticated
      split at hstep
      · cases hstep
        exact h.fail
      · cases hstep
        exact h.fail
      · cases hstep
        exact h.handle (length_eq_zero_iff.mp hhandlers) hclosed hauthenticated
  | resume i outcome nonce =>
    obtain ⟨handler, hhandler, hresume⟩ := Option.bind_eq_some_iff.mp hstep
    cases h with
    | verifying hawaits =>
      obtain ⟨rfl, hnone⟩ := eraseIdx_of_getElem? hhandler
      rw [hnone] at hresume
      exact stage_resume rfl hresume (fun _ => rfl) (absurd hawaits)
    | proved hawaits hsession hverified =>
      obtain ⟨rfl, hnone⟩ := eraseIdx_of_getElem? hhandler
      rw [hnone] at hresume
      exact stage_resume hsession hresume (fun hverifies => absurd hverifies hawaits)
        fun _ => hverified
    | fresh | challenged | ended | registered => cases hhandler
  | close =>
    cases hstep
    exact h.fail

theorem Stage.oneExchange (h : Stage keys s) : OneExchange s := by
  cases h with
  | registered _ hverified => exact ⟨Nat.le_refl 1, forall_mem_singleton.mpr hverified⟩
  | fresh | verifying | challenged | proved | ended => exact ⟨Nat.zero_le 1, nofun⟩

end Steps

/-- The client has just connected. -/
def connected : State := ⟨newSession, false, [], none, [], []⟩

/-- **A client that waits for each answer is registered at most once, as whom one exchange has
proved it to be.** -/
theorem one_exchange (keys : AnonymousKeys) (parse : String → Option Json) (moves : List Move)
    (h : Meets (step keys parse) Waits connected moves) :
    Always (step keys parse) OneExchange connected moves :=
  always_of_meets Stage.oneExchange Stage.step Stage.fresh h

/-! ### Two runs -/

/-- Keys that all sign in the same way. -/
def sampleKeys : AnonymousKeys where
  verifies _ _ signature := signature = "signed"
  desktopId _ := "anonymous-desktop"
  tooLong _ := false

/-- Two tokens, credentials with an anonymous key, and the proof of the key. -/
def sampleFrames : String → Option Json :=
  field
    [("first", .obj [("type", .str "auth"), ("id_token", .str "token of alice")]),
      ("second", .obj [("type", .str "auth"), ("id_token", .str "token of bob")]),
      ("key", .obj [("type", .str "auth"), ("anon_pub_key", .str "key"),
        ("desktop_id", .str "desktop"), ("desktop_secret", .str "secret")]),
      ("proof", .obj [("type", .str "auth_proof"), ("signature", .str "signed")])]

/-- A desktop proves its credentials and then an anonymous key. -/
def proveKey : List Move :=
  [.receive "key" "nonce", .resume 0 (.desktop (some ("alice", "desktop"))) "nonce",
    .receive "proof" "", .resume 0 (.entitlement true) "", .resume 0 (.revalidated true) "",
    .resume 0 .leased ""]

theorem one_exchange_key :
    (run (step sampleKeys sampleFrames) connected proveKey).map
        (fun s => s.registrations.map fun identity => (identity.userId, identity.role)) =
        some [(some "alice", some .server)] ∧
      Always (step sampleKeys sampleFrames) OneExchange connected proveKey :=
  ⟨by decide, one_exchange sampleKeys sampleFrames proveKey (by decide)⟩

/-- Two frames with different tokens come at once, and both are verified. -/
def twoTokens : List Move :=
  [.receive "first" "", .receive "second" "", .resume 0 (.phone (some "alice")) "",
    .resume 1 (.entitlement true) "", .resume 0 (.phone (some "bob")) "",
    .resume 0 (.entitlement true) ""]

/-- **A socket is registered for two accounts.** -/
theorem registered_twice :
    ¬ ∀ (keys : AnonymousKeys) (parse : String → Option Json) (moves : List Move),
      Always (step keys parse) OneExchange connected moves := by
  intro h
  have hrun : (run (step sampleKeys sampleFrames) connected twoTokens).map
      (fun s => s.registrations.map (·.userId)) = some [some "alice", some "bob"] := by decide
  obtain ⟨s, hs, husers⟩ := Option.map_eq_some_iff.mp hrun
  have honce := ((h sampleKeys sampleFrames twoTokens).last hs).once
  rw [← length_map (·.userId), husers] at honce
  exact absurd honce (by decide)

end Kanna.Handshake
