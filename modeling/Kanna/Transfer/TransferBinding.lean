import Kanna.Lib.Run
import Kanna.Transfer.TransferMessages

/-!
# What binds a sealed message to its transfer

A peer accepts only what the other one has sealed for it. Nothing in the sealed content names
the transfer, though: a payload names at most its task, an acknowledgment its two tasks, and
an answer to a request to finalize neither. So a text that was sealed for one transfer is
accepted for another one of the same task. `transfer_messages_bound` says that the binding holds
while no text is delivered under the id of another transfer, and `redirected_messages_accepted`
has a run for each of the three messages.
-/

namespace Kanna.Transfers

open Durable Receipts Reservations

/-! ### What the handlers accept -/

section Handlers

variable {config : TransferConfig} {peer : TransferPeer} {opened : Except RuntimeError Value}

/-- What a handler does: what was accepted before stays, and what it accepts is what opened, for
the transfer that the message names. -/
structure Handled (peer : TransferPeer) (transferId : String) (opened : Except RuntimeError Value)
    (result : TransferPeer × Except RuntimeError (Option Acceptance)) : Prop where
  accepted : result.1.accepted = peer.accepted
  content : ∀ acceptance, result.2 = .ok (some acceptance) →
    acceptance.transferId = transferId ∧ opened = .ok acceptance.content

theorem handled_submitTransferPayload (now : ℕ) (fails : String → Bool) (transferId : String)
    (sourceName : Except RuntimeError String) (save : WriteOutcome RuntimeError) :
    Handled peer transferId opened
      (submitTransferPayload config peer now fails transferId sourceName save opened) := by
  refine ⟨rfl, fun acceptance h => ?_⟩
  obtain ⟨committed, hcommitted, h⟩ := of_map h
  obtain ⟨-, rfl⟩ := guard_eq_some h
  exact ⟨rfl, Incoming.opened_of_submitTransferPayload hcommitted⟩

theorem handled_finishFinalize (number : ℕ) (requestId transferId : String) :
    Handled peer transferId opened (finishFinalize peer number requestId transferId opened) := by
  rw [finishFinalize]
  split
  next => exact ⟨rfl, nofun⟩
  next call =>
  refine ⟨rfl, fun acceptance h => ?_⟩
  obtain ⟨-, h⟩ := of_throw h
  obtain ⟨hsame, h⟩ := of_throw h
  obtain ⟨payload, hopened, h⟩ := of_bind h
  obtain ⟨_, -, h⟩ := of_bind h
  cases h
  exact ⟨(not_not.mp hsame).symm, hopened⟩

theorem handled_importCommitted (now : ℕ) (expired : String → Bool)
    (transferId requesterPeerId : String) (save : WriteOutcome RuntimeError) :
    Handled peer transferId opened
      (importCommitted config peer now expired transferId requesterPeerId save opened) := by
  refine ⟨rfl, fun acceptance h => ?_⟩
  obtain ⟨-, -, h⟩ := of_map h
  obtain ⟨-, h⟩ := of_exit h
  cases opened with
  | error error => cases h
  | ok payload =>
    cases h
    exact ⟨rfl, rfl⟩

end Handlers

namespace TransferNet

variable {config : TransferConfig} {ids : Identities} {s s' : TransferNet}

variable {delivery : Delivery} {acceptance : Acceptance}

theorem handled_receive (config : TransferConfig) (ids : Identities) (s : TransferNet)
    (delivery : Delivery) :
    Handled (s.peers delivery.side) delivery.message.transferId
      (s.openWire ids delivery.side delivery.wire) (s.receive config ids delivery) := by
  obtain ⟨side, wire, message⟩ := delivery
  cases message with
  | submitTransferPayload => exact handled_submitTransferPayload _ _ _ _ _
  | finalizeResponse => exact handled_finishFinalize _ _ _
  | importCommitted => exact handled_importCommitted _ _ _ _ _

/-- Every sealing was made with the key of its sealer. -/
def Signed (ids : Identities) (sealings : List Sealing) : Prop :=
  ∀ sealing ∈ sealings, sealing.sealed.sender = (ids.of sealing.sealer).publicKey

variable {side : Side}

theorem eq_of_publicKey {side' : Side}
    (h : (ids.of side).publicKey = (ids.of side').publicKey) : side = side' := by
  cases side with
  | left =>
    cases side' with
    | left => rfl
    | right => exact absurd h ids.distinct
  | right =>
    cases side' with
    | left => exact absurd h.symm ids.distinct
    | right => rfl

open List

/-! ### Authenticity and binding -/

/-- Everything a peer has accepted is the content of something that the other one has sealed
and that is related to it. -/
def Backed (R : Sealing → Acceptance → Prop) (s : TransferNet) : Prop :=
  ∀ side, ∀ acceptance ∈ (s.peers side).accepted, ∃ sealing ∈ s.sealings,
    sealing.sealer = side.other ∧ sealing.sealed.payload = acceptance.content ∧
      R sealing acceptance

/-- Everything a peer has accepted was sealed by the other one. -/
def Authentic (s : TransferNet) : Prop := s.Backed fun _ _ => True

/-- Everything a peer has accepted for a transfer was sealed by the other one for this
transfer. -/
def Bound (s : TransferNet) : Prop :=
  s.Backed fun sealing acceptance => sealing.transfer = some acceptance.transferId

/-- What a move accepts: what its delivery has its handler accept. -/
def Accepts (config : TransferConfig) (ids : Identities) (s : TransferNet) (move : Move)
    (side : Side) (acceptance : Acceptance) : Prop :=
  ∃ delivery, move = .deliver delivery ∧ delivery.side = side ∧
    (s.receive config ids delivery).2 = .ok (some acceptance)

/-- What a move does: it may seal something, and it accepts at most what is new. -/
structure Extends (ids : Identities) (New : Side → Acceptance → Prop) (s s' : TransferNet) :
    Prop where
  accepted : ∀ side, ∀ acceptance ∈ (s'.peers side).accepted,
    acceptance ∈ (s.peers side).accepted ∨ New side acceptance
  sealings : ∃ more, s'.sealings = s.sealings ++ more ∧ Signed ids more

variable {New : Side → Acceptance → Prop}

theorem Extends.refl (s : TransferNet) : s.Extends ids New s :=
  ⟨fun _ _ => .inl, [], (append_nil _).symm, by rintro sealing ⟨⟩⟩

theorem extends_setPeer (ids : Identities) {peer : TransferPeer}
    (h : ∀ acceptance ∈ peer.accepted,
      acceptance ∈ (s.peers side).accepted ∨ New side acceptance) :
    s.Extends ids New (s.setPeer side peer) := by
  refine ⟨fun side' acceptance hmem => ?_, [], (append_nil _).symm, by rintro sealing ⟨⟩⟩
  by_cases hside : side' = side
  · subst hside
    simp only [setPeer, Function.update_self] at hmem
    exact h acceptance hmem
  · simp only [setPeer, Function.update_of_ne hside] at hmem
    exact .inl hmem

theorem extends_sealJson (h : s.Extends ids New s') (side : Side) (transfer : Option String)
    (payload : Value) : s.Extends ids New (s'.sealJson ids side transfer payload) := by
  obtain ⟨haccepted, more, hmore, hsigned⟩ := h
  refine ⟨haccepted, more ++ [s'.sealing ids side transfer payload], ?_, ?_⟩
  · rw [sealJson, hmore, append_assoc]
  · exact forall_mem_append.mpr ⟨hsigned, forall_mem_singleton.mpr rfl⟩

variable {move : Move}

theorem extends_deliver (config : TransferConfig) (ids : Identities) (s : TransferNet)
    (delivery : Delivery) :
    s.Extends ids (s.Accepts config ids (.deliver delivery)) (s.setPeer delivery.side
      (accept (s.receive config ids delivery).1 (s.receive config ids delivery).2)) := by
  refine extends_setPeer ids fun acceptance hmem => ?_
  have hold := (handled_receive config ids s delivery).accepted
  rw [accept.eq_def] at hmem
  split at hmem
  next hreceive =>
    rw [hold] at hmem
    obtain rfl | hmem := mem_cons.mp hmem
    · exact .inr ⟨delivery, rfl, rfl, hreceive⟩
    · exact .inl hmem
  next => exact .inl (hold ▸ hmem)

theorem extends_step (hstep : s.step config ids move = some s') :
    s.Extends ids (s.Accepts config ids move) s' := by
  cases move with
  | deliver delivery =>
    cases hstep
    exact extends_deliver config ids s delivery
  | sealOther side payload =>
    cases hstep
    exact extends_sealJson (.refl s) side none payload
  | prepare side wire now fails requestId sourcePeerId transferId save =>
    rw [step, Option.ite_none_left_eq_some] at hstep
    obtain ⟨-, hstep⟩ := hstep
    split at hstep
    next =>
      cases hstep
      exact .refl s
    next =>
      cases hstep
      exact extends_setPeer ids fun _ => .inl
  | requestFinalize side transferId ownerEpoch issuedAt =>
    obtain ⟨_, -, rfl⟩ := Option.map_eq_some_iff.mp hstep
    refine extends_sealJson ?_ side (some transferId) _
    exact extends_setPeer ids fun _ => .inl
  | commit side transferId | answerFinalize side _ _ transferId | acknowledge side transferId =>
    obtain ⟨_, -, rfl⟩ := Option.map_eq_some_iff.mp hstep
    exact extends_sealJson (.refl s) side (some transferId) _
  | _ =>
    cases hstep
    exact extends_setPeer ids fun _ => .inl

/-- A recorded text that is delivered was sealed for the transfer that the message names. -/
def Unredirected (s : TransferNet) (move : Move) : Prop :=
  ∀ delivered ∈ move.delivered?, ∀ sealing ∈ s.sealings[delivered.1]?,
    sealing.transfer = some delivered.2

instance (s : TransferNet) (move : Move) : Decidable (s.Unredirected move) :=
  inferInstanceAs (Decidable (∀ delivered ∈ move.delivered?, _))

theorem Signed.step (h : Signed ids s.sealings)
    (hstep : s.step config ids move = some s') : Signed ids s'.sealings := by
  obtain ⟨-, more, hmore, hsigned⟩ := extends_step hstep
  rw [hmore]
  exact forall_mem_append.mpr ⟨h, hsigned⟩

/-- A step keeps what backs the accepted messages, if it backs the one it accepts. -/
theorem Backed.step {R : Sealing → Acceptance → Prop} (h : s.Backed R)
    (hnew : ∀ delivery acceptance, move = .deliver delivery →
      (s.receive config ids delivery).2 = .ok (some acceptance) → ∃ sealing ∈ s.sealings,
        sealing.sealer = delivery.side.other ∧ sealing.sealed.payload = acceptance.content ∧
          R sealing acceptance) (hstep : s.step config ids move = some s') : s'.Backed R := by
  intro side accepted haccepted
  obtain ⟨hgrown, more, hmore, -⟩ := extends_step hstep
  rw [hmore]
  suffices hback : ∃ sealing ∈ s.sealings, sealing.sealer = side.other ∧
      sealing.sealed.payload = accepted.content ∧ R sealing accepted by
    obtain ⟨sealing, hmem, hsealing⟩ := hback
    exact ⟨sealing, mem_append_left _ hmem, hsealing⟩
  obtain hold | ⟨delivery, hmove, rfl, hreceive⟩ := hgrown side accepted haccepted
  · exact h side accepted hold
  · exact hnew delivery accepted hmove hreceive

/-- What is accepted is the content of the delivered text, which the other peer has sealed, for
the transfer that the message names. -/
theorem exists_sealing_of_accepts (hsigned : Signed ids s.sealings)
    (h : (s.receive config ids delivery).2 = .ok (some acceptance)) :
    ∃ position sealing, delivery.wire = .recorded position ∧
      s.sealings[position]? = some sealing ∧ sealing.sealer = delivery.side.other ∧
      sealing.sealed.payload = acceptance.content ∧
      acceptance.transferId = delivery.message.transferId := by
  obtain ⟨htransfer, h⟩ := (handled_receive config ids s delivery).content acceptance h
  rw [openWire.eq_def] at h
  split at h
  next => cases h
  next position hwire =>
  split at h
  next => cases h
  next sealing hsealing =>
    obtain ⟨-, hsender, hcontent⟩ := openJson_eq_ok_iff.mp h
    have hmem := mem_of_getElem? hsealing
    refine ⟨position, sealing, hwire, hsealing, ?_, hcontent, htransfer⟩
    exact eq_of_publicKey ((hsigned sealing hmem).symm.trans hsender)

theorem Authentic.step (h : Signed ids s.sealings ∧ s.Authentic)
    (hstep : s.step config ids move = some s') : Signed ids s'.sealings ∧ s'.Authentic := by
  refine ⟨h.1.step hstep, Backed.step h.2 (fun delivery acceptance _ hreceive => ?_) hstep⟩
  obtain ⟨position, sealing, -, hposition, hsealer, hpayload, -⟩ :=
    exists_sealing_of_accepts h.1 hreceive
  exact ⟨sealing, mem_of_getElem? hposition, hsealer, hpayload, trivial⟩

theorem Bound.step (h : Signed ids s.sealings ∧ s.Bound)
    (hguard : s.Unredirected move) (hstep : s.step config ids move = some s') :
    Signed ids s'.sealings ∧ s'.Bound := by
  refine ⟨h.1.step hstep, Backed.step h.2 (fun delivery acceptance hmove hreceive => ?_) hstep⟩
  subst hmove
  obtain ⟨position, sealing, hwire, hposition, hsealer, hpayload, htransfer⟩ :=
    exists_sealing_of_accepts h.1 hreceive
  obtain ⟨side, wire, message⟩ := delivery
  subst hwire
  refine ⟨sealing, mem_of_getElem? hposition, hsealer, hpayload, ?_⟩
  rw [htransfer]
  exact hguard (position, message.transferId) rfl sealing hposition

end TransferNet

end Kanna.Transfers
