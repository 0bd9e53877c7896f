import Kanna.Lib.Run
import Kanna.Transfer.Pairing

/-!
# The keys pairing trusts

The listener stores the key its code was computed from. `start_pairing` computes the code
from the key discovery reported, compares the code in the response with it, and then stores
the key in the response, which it compares with nothing. `paired_keys_covered_iff` is the
exact condition: every pairing of a run trusts the key its code covers if and only if no
accepted response carries a key other than the discovered one. In
`relayed_response_trusts_other_key` both users are shown the same code, the response is
changed on its way in nothing but the key, and the pairing succeeds with that key.
-/

namespace Kanna.Pairing

open Peer Function Option

namespace Peer

variable (sha256 : List UInt8 → Fin 32 → UInt8)

/-! ### What a peer's codes cover -/

/-- The code of the key was shown, for the peer with this id and key. -/
def CodeOf (s : Peer) (peerId publicKey shownCode : String) : Prop :=
  shownCode =
    pairingVerificationCode sha256 s.runtime.peerId s.runtime.publicKey peerId publicKey

/-- Every code was computed from the keys it is kept with. -/
structure Valid (s : Peer) : Prop where
  calls : ∀ number call, s.calls number = some call →
    s.CodeOf sha256 call.targetPeer.peerId call.targetPeer.publicKey call.expectedVerificationCode
  handlers : ∀ requestId handler, s.handlers requestId = some handler →
    s.CodeOf sha256 handler.request.sourcePeerId handler.request.sourcePublicKey
      handler.verificationCode
  pairings : ∀ paired ∈ s.pairings, s.CodeOf sha256 paired.peerId paired.codeKey paired.shownCode

/-- The user was shown a code for the key, and the key is the stored one. -/
def Covered (s : Peer) (paired : PairedKey) : Prop :=
  s.CodeOf sha256 paired.peerId paired.codeKey paired.shownCode ∧
    paired.storedKey = some paired.codeKey

variable {sha256} {s s' : Peer}

theorem valid_start (runtime : TransferRuntime) : (start runtime).Valid sha256 where
  calls := by
    rintro number call ⟨⟩
  handlers := by
    rintro requestId handler ⟨⟩
  pairings := by
    rintro paired ⟨⟩

/-- What an update by `Function.update` holds is new or was there. -/
theorem update_eq_some {α β : Type} [DecidableEq α] {f : α → Option β} {a a' : α} {b : Option β}
    {b' : β} (h : update f a b a' = some b') : f a' = some b' ∨ b = some b' := by
  by_cases ha : a' = a
  · subst ha
    rw [update_self] at h
    exact .inr h
  · rw [update_of_ne ha] at h
    exact .inl h

theorem finishPairing_identity (r : TransferRuntime) (call : PairingCall)
    (response : Except RuntimeError PeerResponse) (upsertError readError : Option PeerStoreError)
    (now : String) :
    (r.finishPairing call response upsertError readError now).2.peerId = r.peerId ∧
      (r.finishPairing call response upsertError readError now).2.publicKey = r.publicKey := by
  match response with
  | .error error => exact ⟨rfl, rfl⟩
  | .ok (.error _ message) => exact ⟨rfl, rfl⟩
  | .ok (.other debug) => exact ⟨rfl, rfl⟩
  | .ok (.startPairing responseRequestId peer verificationCode) =>
    rw [TransferRuntime.finishPairing]
    split_ifs
    iterate 3 exact ⟨rfl, rfl⟩
    cases upsertError with
    | _ => exact ⟨rfl, rfl⟩

/-! ### What a peer stores -/

/-- A response with the ids and the code that its call expects, which the disk can store, carries
the key that discovery reported. -/
def KeyDiscovered (s : Peer) : Move → Prop
  | .finish number (.ok (.startPairing requestId peer verificationCode)) none none _ =>
    ∀ call, s.calls number = some call → requestId = call.requestId →
      peer.peerId = call.targetPeer.peerId → verificationCode = call.expectedVerificationCode →
      peer.publicKey = call.targetPeer.publicKey
  | _ => True

/-- A peer whose codes are right and which has stored only keys they cover. -/
def Sound (sha256 : List UInt8 → Fin 32 → UInt8) (s : Peer) : Prop :=
  s.Valid sha256 ∧ ∀ paired ∈ s.pairings, paired.storedKey = some paired.codeKey

theorem sound_start (runtime : TransferRuntime) : (start runtime).Sound sha256 :=
  ⟨valid_start runtime, by rintro paired ⟨⟩⟩

theorem Sound.covered (h : s.Sound sha256) : ∀ paired ∈ s.pairings, s.Covered sha256 paired :=
  fun paired hpaired => ⟨h.1.pairings paired hpaired, h.2 paired hpaired⟩

variable (h : s.Sound sha256)

include h

/-- The codes are those of the runtime's identity. -/
theorem Sound.identity {runtime : TransferRuntime} {events : List RuntimeEvent}
    {requests : List StartPairing} {responses : List PeerResponse}
    (hid : runtime.peerId = s.runtime.peerId) (hkey : runtime.publicKey = s.runtime.publicKey) :
    Sound sha256 { s with runtime, events, requests, responses } := by
  have hcode : ∀ peerId publicKey shownCode, s.CodeOf sha256 peerId publicKey shownCode →
      CodeOf sha256 { s with runtime } peerId publicKey shownCode := by
    intro peerId publicKey shownCode hshown
    rw [CodeOf, hid, hkey]
    exact hshown
  exact ⟨⟨fun number call hcall => hcode _ _ _ (h.1.calls number call hcall),
    fun requestId handler hhandler => hcode _ _ _ (h.1.handlers requestId handler hhandler),
    fun paired hpaired => hcode _ _ _ (h.1.pairings paired hpaired)⟩, h.2⟩

/-- A call starts, with a code of its own, or ends. -/
theorem Sound.setCall (number : ℕ) {new : Option PairingCall}
    (hnew : ∀ call, new = some call → s.CodeOf sha256 call.targetPeer.peerId
      call.targetPeer.publicKey call.expectedVerificationCode) :
    Sound sha256 { s with calls := update s.calls number new } :=
  ⟨{ h.1 with calls := fun number' call hcall =>
      (update_eq_some hcall).elim (h.1.calls number' call) (hnew call) }, h.2⟩

variable (requestId : String)

/-- A handler starts to wait, with a code of its own, stops or ends. -/
theorem Sound.setHandler {new : Option PairingHandler}
    (hnew : ∀ handler, new = some handler → s.CodeOf sha256 handler.request.sourcePeerId
      handler.request.sourcePublicKey handler.verificationCode) :
    Sound sha256 { s with handlers := update s.handlers requestId new } :=
  ⟨{ h.1 with handlers := fun requestId' handler hhandler =>
      (update_eq_some hhandler).elim (h.1.handlers requestId' handler) (hnew handler) }, h.2⟩

theorem Sound.pair {paired : PairedKey}
    (hnew : s.CodeOf sha256 paired.peerId paired.codeKey paired.shownCode)
    (hstored : paired.storedKey = some paired.codeKey) :
    Sound sha256 { s with pairings := paired :: s.pairings } :=
  ⟨{ h.1 with pairings := List.forall_mem_cons.mpr ⟨hnew, h.1.pairings⟩ },
    List.forall_mem_cons.mpr ⟨hstored, h.2⟩⟩

theorem Sound.startPairing (found : Except RuntimeError PeerRegistryEntry)
    (delivered : Bool) : (s.startPairing sha256 found delivered).Sound sha256 := by
  rw [startPairing.eq_def]
  split
  next => exact h
  next targetPeer =>
    split
    next =>
      refine (h.setCall _ fun call hcall => ?_).identity rfl rfl
      cases hcall
      rfl
    next => exact h.identity rfl rfl

theorem Sound.finishPairing {number : ℕ} {call : PairingCall}
    (hcall : s.calls number = some call) (response : Except RuntimeError PeerResponse)
    (upsertError readError : Option PeerStoreError) (now : String)
    (hguard : s.KeyDiscovered (.finish number response upsertError readError now)) :
    (s.finishPairing number call response upsertError readError now).Sound sha256 := by
  obtain ⟨hid, hkey⟩ := finishPairing_identity s.runtime call response upsertError readError now
  have hended := @Sound.setCall _ _ h number none nofun
  rw [Peer.finishPairing]
  split
  next => exact hended.identity hid hkey
  next result hok =>
    refine (hended.pair ?_ ?_).identity hid hkey
    · exact h.1.calls number call hcall
    · obtain ⟨peer, rfl, hpeer, rfl, rfl⟩ := TransferRuntime.finishPairing_eq_ok hok
      obtain ⟨_, hmatching⟩ := s.runtime.finishPairing_of_matching call hpeer now
      rw [hmatching, storedKey, ← hpeer, PeerStore.key_upsert]
      exact congrArg some (hguard call hcall rfl hpeer rfl)

theorem Sound.handleStartPairing (request : StartPairing)
    (delivered : Bool) : (s.handleStartPairing sha256 request delivered).Sound sha256 := by
  rw [Peer.handleStartPairing, TransferRuntime.handleStartPairing]
  by_cases hfull :
    s.runtime.pendingPairingRequests.keys.length ≥ s.runtime.maxPendingPairingRequests
  · rw [if_pos hfull]
    exact h.identity rfl rfl
  rw [if_neg hfull]
  cases delivered with
  | false => exact h.identity rfl rfl
  | true =>
    refine (h.setHandler _ fun handler hhandler => ?_).identity rfl rfl
    -- the handler's code has the participants the other way round
    cases hhandler
    exact pairingVerificationCode_comm sha256 _ _ _ _

/-- A handler keeps its code when it stops waiting. -/
theorem Sound.answer {requestId verificationCode : String}
    {request : StartPairing} {waiting : Option Bool}
    (hhandler : s.handlers requestId = some ⟨request, verificationCode, waiting⟩)
    (approved : Bool) :
    Sound sha256 { s with
      handlers := update s.handlers requestId
        (some ⟨request, verificationCode, some approved⟩) } := by
  have hcode := h.1.handlers requestId _ hhandler
  refine h.setHandler requestId fun handler hnew => ?_
  cases hnew
  exact hcode

theorem Sound.sendDecision (approved : Bool) :
    (s.sendDecision requestId approved).2.Sound sha256 := by
  rw [Peer.sendDecision]
  split
  next hhandler => exact (h.answer hhandler approved).identity rfl rfl
  next => exact h.identity rfl rfl

theorem Sound.acceptPairing (verificationCode : String) :
    (s.acceptPairing requestId verificationCode).2.Sound sha256 := by
  rw [Peer.acceptPairing]
  split
  next => exact h
  next =>
    split
    next => exact h
    next => exact h.sendDecision requestId true

theorem Sound.rejectPairing : (s.rejectPairing requestId).2.Sound sha256 := by
  rw [Peer.rejectPairing]
  split
  next => exact h
  next => exact h.sendDecision requestId false

theorem Sound.settlePairing {requestId : String} {handler : PairingHandler}
    (hhandler : s.handlers requestId = some handler) (approved : Bool)
    (upsertError : Option PeerStoreError) (delivered : Bool) (now : String) :
    (s.settlePairing requestId handler approved upsertError delivered now).Sound sha256 := by
  have hended := @Sound.setHandler _ _ h requestId none nofun
  rw [Peer.settlePairing]
  cases approved with
  | false => exact hended.identity rfl rfl
  | true =>
    cases upsertError with
    | some error => exact hended.identity rfl rfl
    | none =>
      cases delivered with
      | _ =>
        -- the handler stores the key its code was computed from
        refine (hended.pair ?_ ?_).identity rfl rfl
        · exact h.1.handlers requestId handler hhandler
        · exact s.runtime.store.key_upsert (TransferRuntime.requestRecord handler.request now)

variable {move : Move}

theorem Sound.step (hguard : s.KeyDiscovered move)
    (hstep : s.step sha256 move = some s') : s'.Sound sha256 := by
  cases move with
  | start found delivered =>
    cases hstep
    exact h.startPairing found delivered
  | finish number response upsertError readError now =>
    obtain ⟨call, hcall, rfl⟩ := map_eq_some_iff.mp hstep
    exact h.finishPairing hcall response upsertError readError now hguard
  | request request delivered =>
    cases hstep
    exact h.handleStartPairing request delivered
  | accept requestId verificationCode =>
    cases hstep
    exact h.acceptPairing requestId verificationCode
  | reject requestId =>
    cases hstep
    exact h.rejectPairing requestId
  | expire requestId =>
    rw [Peer.step] at hstep
    split at hstep
    next hhandler =>
      cases hstep
      exact (h.answer hhandler false).identity rfl rfl
    next => cases hstep
  | settle requestId upsertError delivered now =>
    rw [Peer.step] at hstep
    split at hstep
    next hhandler =>
      cases hstep
      exact h.settlePairing hhandler _ upsertError delivered now
    next => cases hstep
  | revoke peerId now =>
    rw [Peer.step] at hstep
    split at hstep
    next => cases hstep
    next =>
      cases hstep
      exact h.identity rfl rfl

omit h

/-- A response with another key that is accepted leaves that key stored. -/
theorem not_covered_of_not_keyDiscovered (sha256 : List UInt8 → Fin 32 → UInt8)
    (hguard : ¬ s.KeyDiscovered move) :
    ∃ s', s.step sha256 move = some s' ∧ ∃ paired ∈ s'.pairings, ¬ s'.Covered sha256 paired := by
  rw [KeyDiscovered.eq_def] at hguard
  split at hguard
  next number requestId peer verificationCode now =>
    simp only [not_forall] at hguard
    obtain ⟨call, hcall, rfl, hpeer, rfl, hkey⟩ := hguard
    obtain ⟨result, hmatching⟩ := s.runtime.finishPairing_of_matching call hpeer now
    refine ⟨_, by rw [step, hcall, map_some], ?_⟩
    rw [finishPairing, hmatching, storedKey, ← hpeer, PeerStore.key_upsert]
    exact ⟨_, List.mem_cons_self, fun hcovered => hkey (some.inj hcovered.2)⟩
  next => exact absurd trivial hguard

end Peer

/-! ### Two peers -/

/-- The two peers that pair. -/
inductive Side where
  | left
  | right
  deriving DecidableEq

/-- The two peers. Nothing connects them but the moves the network chooses. -/
abbrev Peers := Side → Peer

namespace Peers

variable (sha256 : List UInt8 → Fin 32 → UInt8)

/-- Nobody has asked for anything yet. -/
def start (runtimes : Side → TransferRuntime) : Peers := fun side => .start (runtimes side)

/-- One of the peers makes a move. -/
def step (s : Peers) (move : Side × Move) : Option Peers :=
  ((s move.1).step sha256 move.2).map (Function.update s move.1)

/-- Every pairing of the two has stored the key that the shown code was computed from. -/
def AllCovered (s : Peers) : Prop :=
  ∀ side, ∀ paired ∈ (s side).pairings, (s side).Covered sha256 paired

/-- **The keys pairing trusts.** Whatever the network sends, all along a run each pairing
that succeeds has stored the key its code was computed from if and only if every response
`start_pairing` accepts carries the key that discovery had reported. -/
theorem paired_keys_covered_iff (runtimes : Side → TransferRuntime) (moves : List (Side × Move)) :
    Always (step sha256) (AllCovered sha256) (start runtimes) moves ↔
      Meets (step sha256) (fun s move => (s move.1).KeyDiscovered move.2) (start runtimes)
        moves := by
  have hsound : ∀ side, (start runtimes side).Sound sha256 :=
    fun side => sound_start (runtimes side)
  refine always_iff_meets (I := fun s => ∀ side, (s side).Sound sha256) ?_ ?_ ?_ hsound
  · exact fun h side => (h side).covered
  · intro s move s' h hguard hstep
    obtain ⟨peer, hpeer, rfl⟩ := map_eq_some_iff.mp hstep
    intro side
    by_cases hside : side = move.1
    · subst hside
      rw [update_self]
      exact (h move.1).step hguard hpeer
    · rw [update_of_ne hside]
      exact h side
  · intro s move _ hguard
    obtain ⟨peer, hpeer, paired, hpaired, hbad⟩ := not_covered_of_not_keyDiscovered sha256 hguard
    refine ⟨update s move.1 peer, ?_, fun hall => ?_⟩
    · rw [step, hpeer, map_some]
    · have hcovered := hall move.1
      rw [update_self] at hcovered
      exact hbad (hcovered paired hpaired)

/-- The response with another key in it. -/
def otherKey (publicKey : String) : PeerResponse → PeerResponse
  | .startPairing requestId peer verificationCode =>
    .startPairing requestId { peer with publicKey := publicKey } verificationCode
  | response => response

/-- The runtimes `left` and `right`, which have not paired with anybody. -/
def unpaired : Side → TransferRuntime
  | .left => ⟨"left", "Left", "left-key", "0", 8, 0, fun _ => none, .empty, ∅⟩
  | .right => ⟨"right", "Right", "right-key", "0", 8, 0, fun _ => none, .empty, ∅⟩

/-- What discovery reports of `right`. -/
def rightEntry : PeerRegistryEntry :=
  ⟨"right", "Right", "127.0.0.1:1", 1, "right-key", 5, true⟩

/-- `left` has asked for `right`. -/
def asking : Peer := (Peer.start (unpaired .left)).startPairing sha256 (.ok rightEntry) true

/-- The handler of `right` waits for its user. -/
def waiting : Peer :=
  (Peer.start (unpaired .right)).handleStartPairing sha256 (unpaired .left).startPairingRequest true

/-- The user of `right` has accepted. -/
def decided : Peer := ((waiting sha256).sendDecision "incoming-pair-right-0" true).2

/-- The handler of `right` has stored the key of `left` and answered. -/
def answered : Peer :=
  (decided sha256).settlePairing "incoming-pair-right-0"
    ⟨(unpaired .left).startPairingRequest,
      pairingVerificationCode sha256 "left" "left-key" "right" "right-key", some true⟩
    true none true "now"

/-- `left` asks, and the user of `right` accepts with the code that `left` shows. -/
def acceptedPairing : List (Side × Move) :=
  [(.left, .start (.ok rightEntry) true),
    (.right, .request (unpaired .left).startPairingRequest true),
    (.right, .accept "incoming-pair-right-0"
      (pairingVerificationCode sha256 "left" "left-key" "right" "right-key")),
    (.right, .settle "incoming-pair-right-0" none true "now")]

/-- The two peers, each given by itself. -/
def both (left right : Peer) : Peers
  | .left => left
  | .right => right

variable {sha256} {left left' right right' : Peer} {move : Move}

theorem start_unpaired :
    start unpaired = both (.start (unpaired .left)) (.start (unpaired .right)) := by
  funext side
  cases side <;> rfl

theorem step_left (h : left.step sha256 move = some left') :
    step sha256 (both left right) (.left, move) = some (both left' right) := by
  have hupdate : update (both left right) .left left' = both left' right := by
    funext side
    cases side <;> rfl
  rw [step, both, h, map_some, hupdate]

theorem step_right (h : right.step sha256 move = some right') :
    step sha256 (both left right) (.right, move) = some (both left right') := by
  have hupdate : update (both left right) .right right' = both left right' := by
    funext side
    cases side <;> rfl
  rw [step, both, h, map_some, hupdate]

variable (sha256)

theorem run_acceptedPairing :
    run (step sha256) (start unpaired) (acceptedPairing sha256) =
      some (both (asking sha256) (answered sha256)) := by
  have hstart : (Peer.start (unpaired .left)).step sha256 (.start (.ok rightEntry) true) =
      some (asking sha256) := rfl
  have hrequest : (Peer.start (unpaired .right)).step sha256
      (.request (unpaired .left).startPairingRequest true) = some (waiting sha256) := rfl
  have haccept : (waiting sha256).step sha256 (.accept "incoming-pair-right-0"
      (pairingVerificationCode sha256 "left" "left-key" "right" "right-key")) =
      some (decided sha256) := by
    rw [Peer.step, Peer.acceptPairing_of_shown rfl, decided]
  have hhandler : (decided sha256).handlers "incoming-pair-right-0" =
      some ⟨(unpaired .left).startPairingRequest,
        pairingVerificationCode sha256 "left" "left-key" "right" "right-key", some true⟩ := rfl
  have hsettle : (decided sha256).step sha256 (.settle "incoming-pair-right-0" none true "now") =
      some (answered sha256) := by
    rw [Peer.step, hhandler, answered]
  rw [acceptedPairing, start_unpaired, run_cons, step_left hstart, bind_some, run_cons,
    step_right hrequest, bind_some, run_cons, step_right haccept, bind_some, run_cons,
    step_right hsettle, bind_some, run_nil]

/-- What `right` answers. -/
def answer : PeerResponse :=
  .startPairing "pair-left-0-0" ⟨"right", "Right", "right-key", localCapabilitiesJson⟩
    (pairingVerificationCode sha256 "left" "left-key" "right" "right-key")

/-- What `left` does with the answer when it carries another key. -/
theorem finish_otherKey :
    ∃ left, (asking sha256).step sha256
        (.finish 0 (.ok (otherKey "other-key" (answer sha256))) none none "now") = some left ∧
      left.runtime.store.ensurePeerIsTrustedFor "right" "other-key" = .ok () ∧
      left.pairings = [⟨"right",
        pairingVerificationCode sha256 "left" "left-key" "right" "right-key", "right-key",
        some "other-key"⟩] := by
  let call := (unpaired .left).pairingCall sha256 rightEntry
  let peer : PairingPeer := ⟨"right", "Right", "other-key", localCapabilitiesJson⟩
  have hcall : (asking sha256).calls 0 = some call := rfl
  have hpeer : peer.peerId = call.targetPeer.peerId := rfl
  have hanswer : otherKey "other-key" (answer sha256) =
      .startPairing call.requestId peer call.expectedVerificationCode := rfl
  obtain ⟨result, hresult⟩ := (asking sha256).runtime.finishPairing_of_matching call hpeer "now"
  refine ⟨_, by rw [Peer.step, hcall, map_some], ?_, ?_⟩
  · rw [finishPairing, hanswer, hresult]
    rfl
  · rw [finishPairing, hanswer, hresult]
    rfl

/-- Both users see the same code and `right` accepts, but its response arrives with another
key: `left` then trusts that key for `right`, and not the one the code was computed from. This
does not depend on the hash. -/
theorem trusts_other_key :
    ∃ s t : Peers, run (step sha256) (start unpaired) (acceptedPairing sha256) = some s ∧
      (s .left).requests = [(unpaired .left).startPairingRequest] ∧
      (s .right).responses = [answer sha256] ∧
      s.step sha256 (.left, .finish 0 (.ok (otherKey "other-key" (answer sha256))) none none
        "now") = some t ∧
      (t .left).runtime.store.ensurePeerIsTrustedFor "right" "other-key" = .ok () ∧
      ¬ AllCovered sha256 t := by
  obtain ⟨left, hstep, htrusted, hpairings⟩ := finish_otherKey sha256
  refine ⟨_, _, run_acceptedPairing sha256, rfl, rfl, step_left hstep, htrusted, fun hall => ?_⟩
  have hcovered := hall .left _ (hpairings ▸ List.mem_singleton_self _)
  have hkey : "other-key" = "right-key" := some.inj hcovered.2
  exact absurd hkey (by decide)

/-- A hash, for an example: the first 32 bytes. -/
def firstBytes (bytes : List UInt8) (i : Fin 32) : UInt8 := bytes.getD i 0

theorem relayed_response_trusts_other_key :
    ∃ s t : Peers,
      run (step firstBytes) (start unpaired) (acceptedPairing firstBytes) = some s ∧
      (s .left).requests = [(unpaired .left).startPairingRequest] ∧
      (s .right).responses = [answer firstBytes] ∧
      s.step firstBytes (.left, .finish 0 (.ok (otherKey "other-key" (answer firstBytes))) none
        none "now") = some t ∧
      (t .left).runtime.store.ensurePeerIsTrustedFor "right" "other-key" = .ok () ∧
      ¬ AllCovered firstBytes t :=
  trusts_other_key firstBytes

end Peers

end Kanna.Pairing
