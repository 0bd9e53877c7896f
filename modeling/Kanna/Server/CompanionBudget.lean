import Kanna.Server.CompanionRelay

/-!
# What a returned companion frame is, and who pays for it

A pending companion frame passes from the map to the background task that prepares it, to
the active chunk stream or to the delivering slot, and may be dropped at each of these.
Two things have to follow it through all of them. It belongs to the attachment that
published it (`Owned`), so that what `recv` returns carries that attachment's epoch; and it
is charged to the shared counter until it is dropped (`Accounts`).

Both are kept by every move of a connection (`Valid.step`), and
`companion_relay_accounts` states them for any number of connections and any interleaving:
the counter is the sum of what the connections hold, up to what a call of `publish_shared`
has reserved for a frame that it has not inserted yet, and it never exceeds the limit.
-/

namespace Kanna

variable (attachments : List CompanionAttachmentSender)

/-- The frame was published by one of the attachments. -/
def Owned (delivery : PendingCompanionFrame) : Prop :=
  ∃ sender ∈ attachments, sender.taskId = delivery.taskId ∧
    sender.generation = delivery.generation ∧ sender.attachmentEpoch = delivery.attachmentEpoch

/-- The frame carries this epoch, if it carries one. -/
def CompanionFrame.CarriesEpoch (frame : CompanionFrame) (attachmentEpoch : Option ℕ) : Prop :=
  ∀ e, frame.epoch = some e → e = attachmentEpoch

/-- A chunk stream is owned and stamped. -/
def ActiveCompanionChunks.Valid (active : ActiveCompanionChunks) : Prop :=
  Owned attachments active.delivery ∧ active.attachmentEpoch = active.delivery.attachmentEpoch

/-- What a preparation will hand on is owned and stamped. -/
def Preparation.Valid : Preparation → Prop
  | .running delivery => Owned attachments delivery
  | .finished none => True
  | .finished (some (.chunks active)) => active.Valid attachments
  | .finished (some (.frame frame delivery)) =>
    Owned attachments delivery ∧ frame.CarriesEpoch delivery.attachmentEpoch

/-- A returned frame was current when that was checked, and carries the epoch of an
attachment of its task and generation. -/
def Returned.Valid (returned : Returned) : Prop :=
  returned.current = some returned.generation ∧
    ∃ sender ∈ attachments, sender.taskId = returned.taskId ∧
      sender.generation = returned.generation ∧
      returned.frame.CarriesEpoch sender.attachmentEpoch

variable {delivery : PendingCompanionFrame}

section Grow

variable {attachments : List CompanionAttachmentSender} (sender : CompanionAttachmentSender)

theorem Owned.cons (h : Owned attachments delivery) : Owned (sender :: attachments) delivery := by
  obtain ⟨owner, howner, hfields⟩ := h
  exact ⟨owner, List.mem_cons_of_mem _ howner, hfields⟩

theorem Preparation.Valid.cons :
    ∀ {preparation : Preparation}, preparation.Valid attachments →
      preparation.Valid (sender :: attachments)
  | .running _, h => Owned.cons sender h
  | .finished none, _ => trivial
  | .finished (some (.chunks _)), h => ⟨h.1.cons sender, h.2⟩
  | .finished (some (.frame _ _)), h => ⟨h.1.cons sender, h.2⟩

theorem Returned.Valid.cons {returned : Returned} (h : returned.Valid attachments) :
    returned.Valid (sender :: attachments) := by
  obtain ⟨hcurrent, owner, howner, hfields⟩ := h
  exact ⟨hcurrent, owner, List.mem_cons_of_mem _ howner, hfields⟩

end Grow

variable {delivery : PendingCompanionFrame} {attachments : List CompanionAttachmentSender}
  {frame : CompanionFrame}

/-- A frame of an owned delivery that passed the generation check may be returned. -/
theorem Owned.returned (h : Owned attachments delivery)
    (hframe : frame.CarriesEpoch delivery.attachmentEpoch) {current : Option ℕ}
    (hcurrent : current = some delivery.generation) :
    Returned.Valid attachments ⟨frame, delivery.taskId, delivery.generation, current⟩ := by
  obtain ⟨owner, howner, htask, hgeneration, hepoch⟩ := h
  exact ⟨hcurrent, owner, howner, htask, hgeneration, hepoch ▸ hframe⟩

open Option ActiveCompanionChunks

variable {serialize : CompanionFrame → Option (List Char)}

/-- What the background task makes of a delivery keeps it. -/
theorem prepareCompanion_delivery {prepared : PreparedCompanion}
    (h : prepareCompanion serialize delivery = some prepared) : prepared.delivery = delivery := by
  rw [prepareCompanion] at h
  split_ifs at h
  · obtain ⟨active, hactive, rfl⟩ := map_eq_some_iff.mp h
    rw [new] at hactive
    split at hactive
    · obtain ⟨_, _, rfl⟩ := map_eq_some_iff.mp hactive
      rfl
    · cases hactive
  · cases h
    rfl

variable {active : ActiveCompanionChunks}

/-- What the receiver holds is owned and stamped. -/
structure OutboundFrameReceiver.Valid (attachments : List CompanionAttachmentSender)
    (receiver : OutboundFrameReceiver) : Prop where
  active : ∀ active ∈ receiver.activeCompanion, active.Valid attachments
  preparing : ∀ preparation ∈ receiver.preparingCompanion, preparation.Valid attachments

namespace CompanionConnection

variable {serialize : CompanionFrame → Option (List Char)} {c c' : CompanionConnection}
  {total total' : ℕ}

/-- Everything a connection holds belongs to one of its attachments. -/
structure Valid (c : CompanionConnection) : Prop where
  /-- a call of `publish_shared` has taken the pending frame away -/
  publisher : ∀ publishing ∈ c.publishing,
    publishing.sender ∈ c.attachments ∧ publishing.sender.taskId ∉ c.state.pending
  pending : ∀ task delivery, c.state.pending.lookup task = some delivery →
    Owned c.attachments delivery
  /-- the frame returned last is retired when `recv` is called again -/
  delivering : c.receiver.receiving = true → c.receiver.deliveringCompanion = none
  receiver : c.receiver.Valid c.attachments
  returned : ∀ returned ∈ c.returned, returned.Valid c.attachments

theorem valid_fresh : fresh.Valid where
  publisher := by rintro _ ⟨⟩
  pending := by rintro _ _ ⟨⟩
  delivering := by rintro ⟨⟩
  receiver := ⟨by rintro _ ⟨⟩, by rintro _ ⟨⟩⟩
  returned := by rintro _ ⟨⟩

variable {task : String}

theorem lookup_erase_some {pending : PendingFrames} {other : String}
    (h : (pending.erase task).lookup other = some delivery) :
    pending.lookup other = some delivery := by
  by_cases hother : other = task
  · subst hother
    rw [AList.lookup_erase] at h
    cases h
  · rwa [AList.lookup_erase_ne hother] at h

open CompanionConnection CompanionFrameState

variable {receiver : OutboundFrameReceiver} {sender : CompanionAttachmentSender}

namespace Valid

variable (h : c.Valid)

include h

/-- A new receiver, and nothing returned. -/
theorem setReceiver (hdelivering : receiver.receiving = true → receiver.deliveringCompanion = none)
    (hreceiver : receiver.Valid c.attachments) : Valid { c with receiver } :=
  { h with
    delivering := hdelivering
    receiver := hreceiver }

variable {frame : CompanionFrame}

/-- `recv` returns a frame of a delivery whose generation is current. -/
theorem giveBack (hreceiver : receiver.Valid c.attachments)
    (hdelivery : Owned c.attachments delivery)
    (hframe : frame.CarriesEpoch delivery.attachmentEpoch)
    (hcurrent : c.generationIsCurrent delivery = true) :
    (c.giveBack receiver frame delivery).Valid :=
  { h with
    delivering := by rintro ⟨⟩
    receiver := ⟨hreceiver.active, hreceiver.preparing⟩
    returned := List.forall_mem_cons.mpr
      ⟨hdelivery.returned hframe (of_decide_eq_true hcurrent), h.returned⟩ }

/-- The map shrinks while the mutex is free. -/
theorem setState (hfree : c.publishing = none) {state : CompanionFrameState}
    (hpending : ∀ task delivery, state.pending.lookup task = some delivery →
      c.state.pending.lookup task = some delivery) : Valid { c with state } :=
  { h with
    publisher := by
      rw [hfree]
      rintro _ ⟨⟩
    pending := fun task delivery hsome => h.pending task delivery (hpending task delivery hsome) }

theorem addAttachment (sender : CompanionAttachmentSender) :
    Valid { c with attachments := sender :: c.attachments } :=
  { h with
    publisher := fun publishing hsome =>
      (h.publisher publishing hsome).imp_left (List.mem_cons_of_mem _)
    pending := fun task delivery hsome => (h.pending task delivery hsome).cons sender
    receiver := {
      active := fun active hsome => (h.receiver.active active hsome).imp_left (.cons sender)
      preparing := fun preparation hsome => (h.receiver.preparing preparation hsome).cons sender }
    returned := fun returned hmem => (h.returned returned hmem).cons sender }

theorem publish (hsender : sender ∈ c.attachments) (frame : CompanionFrame) :
    (c.publish total sender frame).1.Valid := by
  rw [CompanionConnection.publish]
  split_ifs
  · exact { h with
      publisher := by
        rintro publishing ⟨⟩
        exact ⟨hsender, fun hmem => (AList.mem_erase.mp hmem).1 rfl⟩
      pending := fun task delivery hsome => h.pending task delivery (lookup_erase_some hsome) }
  · exact h

variable {publishing : Publishing}

/-- The next stage of a call of `publish_shared`. -/
theorem setPublishing (hheld : c.publishing = some publishing) {next : Option Publishing}
    (hnext : ∀ publishing' ∈ next, publishing'.sender = publishing.sender) :
    Valid { c with publishing := next } :=
  { h with
    publisher := fun publishing' hsome => by
      rw [hnext publishing' hsome]
      exact h.publisher publishing hheld }

variable {wasPending : Bool}

theorem pay (hheld : c.publishing = some publishing) {otherwise : Option Publishing}
    (hotherwise : ∀ publishing' ∈ otherwise, publishing'.sender = publishing.sender) :
    (c.pay total publishing.sender wasPending frame otherwise).1.Valid := by
  rw [CompanionConnection.pay]
  split
  · exact h.setPublishing hheld (by rintro _ ⟨⟩; rfl)
  · exact h.setPublishing hheld hotherwise

theorem insert {bytes : ℕ}
    (hheld : c.publishing = some (.inserting sender wasPending frame bytes)) :
    (c.insert sender wasPending frame bytes).Valid :=
  { h with
    publisher := by rintro _ ⟨⟩
    pending := by
      intro task delivery hsome
      by_cases htask : task = sender.taskId
      · subst htask
        rw [CompanionConnection.insert, AList.lookup_insert] at hsome
        cases hsome
        exact ⟨sender, (h.publisher _ hheld).1, rfl, rfl, rfl⟩
      · rw [CompanionConnection.insert, AList.lookup_insert_ne htask] at hsome
        exact h.pending task delivery hsome }

omit h

theorem prepare (h : c.Valid)
    (hrunning : c.receiver.preparingCompanion = some (.running delivery)) :
    (c.prepare serialize total delivery).1.Valid := by
  have howned : Owned c.attachments delivery := h.receiver.preparing _ hrunning
  rw [CompanionConnection.prepare]
  refine h.setReceiver h.delivering ⟨h.receiver.active, fun preparation hsome => ?_⟩
  rw [mem_def] at hsome
  split_ifs at hsome
  cases hsome
  rw [prepareCompanion]
  split_ifs
  · rw [new]
    split
    · cases serialize _ with
      | none => trivial
      | some serialized => exact ⟨howned, rfl⟩
    · trivial
  · exact ⟨howned, fun e he => epoch_stamp he⟩

theorem closeReceiver (h : c.Valid) : (c.closeReceiver total).1.Valid := by
  refine h.setReceiver nofun ⟨by rintro _ ⟨⟩, fun preparation hsome => ?_⟩
  split at hsome
  next delivery hrunning =>
    cases hsome
    exact h.receiver.preparing _ hrunning
  next => cases hsome

end Valid

/-! ### The charge -/

@[simp] theorem bytesOf_none : bytesOf none = 0 := rfl

@[simp] theorem bytesOf_some (delivery : PendingCompanionFrame) :
    bytesOf (some delivery) = delivery.retainedBytes := rfl

theorem pendingBytesOf_erase (task : String) (pending : PendingFrames) :
    pendingBytesOf (pending.erase task) + bytesOf (pending.lookup task) = pendingBytesOf pending :=
  mapCharge_erase PendingCompanionFrame.retainedBytes task pending

@[simp] theorem pendingBytesOf_empty : pendingBytesOf ∅ = 0 := rfl

/-- What the receiver's frames are charged for: chunked, being delivered, being prepared. -/
def receiverBytes (receiver : OutboundFrameReceiver) : ℕ :=
  bytesOf (receiver.activeCompanion.map ActiveCompanionChunks.delivery) +
    bytesOf receiver.deliveringCompanion +
    bytesOf (receiver.preparingCompanion.bind Preparation.held)

/-- What every frame of a connection is charged for. -/
def held (c : CompanionConnection) : ℕ :=
  pendingBytesOf c.state.pending + receiverBytes c.receiver

/-- What a call of `publish_shared` has reserved and not inserted yet. -/
def reserved (c : CompanionConnection) : ℕ :=
  optionCharge Publishing.reserved c.publishing

/-- The counter follows what one connection is charged for, and grows within the limit. -/
structure Accounts (c : CompanionConnection) (total : ℕ) (after : CompanionConnection × ℕ) :
    Prop where
  balance : after.2 + (c.held + c.reserved) = total + (after.1.held + after.1.reserved)
  bound : after.2 ≤ total ∨ after.2 ≤ maxRelayCompanionPendingBytes

/-- Passing a frame on leaves the charge as it is. -/
theorem accounts_keep (hbytes : c'.held + c'.reserved = c.held + c.reserved) :
    c.Accounts total (c', total) := by
  refine ⟨?_, .inl (Nat.le_refl total)⟩
  rw [hbytes]

variable {bytes : ℕ}

variable (hle : c.held + c.reserved ≤ total)

include hle

/-- Dropping frames takes their charge off both sides. -/
theorem accounts_drop (hbytes : c'.held + c'.reserved + bytes = c.held + c.reserved) :
    c.Accounts total (c', total - bytes) := by
  refine ⟨?_, .inl (Nat.sub_le total bytes)⟩
  dsimp only
  omega

/-- Dropping frames of the receiver only. -/
theorem accounts_receiver (hbytes : receiverBytes receiver + bytes = receiverBytes c.receiver) :
    c.Accounts total ({ c with receiver }, total - bytes) := by
  refine accounts_drop hle ?_
  rw [held, held, reserved, reserved]
  dsimp only
  omega

/-- Dropping the pending frame of one task. -/
theorem accounts_erase {state : CompanionFrameState} {publishing : Option Publishing}
    (hstate : state.pending = c.state.pending.erase task)
    (hpublishing : optionCharge Publishing.reserved publishing = c.reserved) :
    c.Accounts total ({ c with state, attachments, publishing },
      total - bytesOf (c.state.pending.lookup task)) := by
  refine accounts_drop hle ?_
  have := pendingBytesOf_erase task c.state.pending
  rw [held, held, reserved, hpublishing]
  dsimp only
  rw [hstate]
  omega

omit hle

theorem accounts_pay {publishing : Publishing} (hheld : c.publishing = some publishing)
    (hreserved : publishing.reserved = 0) {wasPending : Bool} {otherwise : Option Publishing}
    (hotherwise : optionCharge Publishing.reserved otherwise = 0) :
    c.Accounts total (c.pay total sender wasPending frame otherwise) := by
  have hc : c.reserved = 0 := by rw [reserved, hheld, optionCharge_some, hreserved]
  rw [pay]
  split
  next after hsome =>
    obtain ⟨hafter, hmax⟩ := reserve_eq_some hsome
    refine ⟨?_, .inr hmax⟩
    rw [hc, hafter]
    simp [held, reserved, Publishing.reserved]
    omega
  next =>
    refine accounts_keep ?_
    rw [hc, reserved, hotherwise]
    rfl

theorem accounts_insert (h : c.Valid) {wasPending : Bool}
    (hheld : c.publishing = some (.inserting sender wasPending frame bytes)) :
    c.Accounts total (c.insert sender wasPending frame bytes, total) := by
  have hinsert : pendingBytesOf _ = _ + pendingBytesOf _ := mapCharge_insert _
    (h.publisher _ hheld).2 ⟨frame, sender.taskId, sender.generation, sender.attachmentEpoch,
      sender.acceptSnapshotChunks, bytes⟩
  have hc : c.reserved = bytes := by rw [reserved, hheld]; rfl
  have hnone : (c.insert sender wasPending frame bytes).reserved = 0 := rfl
  refine accounts_keep ?_
  rw [hc, hnone]
  change pendingBytesOf (c.state.pending.insert sender.taskId _) + receiverBytes c.receiver + 0 =
    pendingBytesOf c.state.pending + receiverBytes c.receiver + bytes
  dsimp only [Publishing.sender] at hinsert
  rw [hinsert]
  omega

theorem recvActive_spec (h : c.Valid) (hle : c.held + c.reserved ≤ total)
    (hactive : c.receiver.activeCompanion = some active) :
    (c.recvActive total active).1.Valid ∧ c.Accounts total (c.recvActive total active) := by
  obtain ⟨howned, hepoch⟩ := h.receiver.active active hactive
  have hdrop : Valid { c with receiver := { c.receiver with activeCompanion := none } } ∧
      c.Accounts total ({ c with receiver := { c.receiver with activeCompanion := none } },
        total - active.delivery.retainedBytes) := by
    refine ⟨h.setReceiver h.delivering ⟨by rintro _ ⟨⟩, h.receiver.preparing⟩,
      accounts_receiver hle ?_⟩
    simp [receiverBytes, hactive]
    omega
  rw [recvActive]
  split_ifs with hcurrent
  · split
    next frame rest hnext =>
      rw [next] at hnext
      split_ifs at hnext
      cases hnext
      refine ⟨h.giveBack ⟨?_, h.receiver.preparing⟩ howned ?_ hcurrent, accounts_keep ?_⟩
      · rintro _ ⟨⟩
        exact ⟨howned, hepoch⟩
      · rw [← hepoch]
        rintro e ⟨⟩
        rfl
      · simp [held, reserved, giveBack, receiverBytes, hactive]
    next => exact hdrop
  · exact hdrop

theorem recvPrepared_spec (h : c.Valid) (hle : c.held + c.reserved ≤ total)
    (hreceiving : c.receiver.receiving = true) (hactive : c.receiver.activeCompanion = none)
    {prepared : Option PreparedCompanion}
    (hprepared : c.receiver.preparingCompanion = some (.finished prepared)) :
    (c.recvPrepared total prepared).1.Valid ∧ c.Accounts total (c.recvPrepared total prepared) := by
  have hvalid := h.receiver.preparing _ hprepared
  have hdrop : Valid { c with receiver := { c.receiver with preparingCompanion := none } } ∧
      c.Accounts total ({ c with receiver := { c.receiver with preparingCompanion := none } },
        total - bytesOf (prepared.map PreparedCompanion.delivery)) := by
    refine ⟨h.setReceiver h.delivering ⟨h.receiver.active, by rintro _ ⟨⟩⟩,
      accounts_receiver hle ?_⟩
    simp only [receiverBytes, hprepared, bind_some, bind_none, Preparation.held, bytesOf_none]
    omega
  obtain _ | ⟨active⟩ | ⟨frame, delivery⟩ := prepared
  · exact hdrop
  · rw [recvPrepared]
    split_ifs
    · refine ⟨h.setReceiver h.delivering ⟨?_, by rintro _ ⟨⟩⟩, accounts_keep ?_⟩
      · rintro _ ⟨⟩
        exact hvalid
      · simp [held, reserved, receiverBytes, hactive, hprepared, Preparation.held,
          PreparedCompanion.delivery]
        omega
    · exact hdrop
  · rw [recvPrepared]
    split_ifs with hcurrent
    · refine ⟨h.giveBack ⟨h.receiver.active, by rintro _ ⟨⟩⟩ hvalid.1 hvalid.2 hcurrent,
        accounts_keep ?_⟩
      simp only [held, reserved, giveBack, receiverBytes,
        h.delivering hreceiving, hprepared, map_some, bind_some, bind_none,
        Preparation.held, bytesOf_some, bytesOf_none, PreparedCompanion.delivery]
      omega
    · exact hdrop

/-- What is taken from the map came from there and is no longer charged there, and what is left
came from there. -/
theorem takeReady_spec (pending : PendingFrames) (ready : List String) :
    (∀ delivery, (takeReady pending ready).1 = some delivery →
        ∃ task, pending.lookup task = some delivery) ∧
      (∀ task delivery, (takeReady pending ready).2.2.lookup task = some delivery →
        pending.lookup task = some delivery) ∧
      bytesOf (takeReady pending ready).1 + pendingBytesOf (takeReady pending ready).2.2 =
        pendingBytesOf pending := by
  induction ready with
  | nil => exact ⟨by rintro _ ⟨⟩, fun _ _ hsome => hsome, Nat.zero_add _⟩
  | cons task ready ih =>
    rw [takeReady]
    split
    next frame hframe =>
      refine ⟨?_, fun _ _ hsome => lookup_erase_some hsome, ?_⟩
      · rintro _ ⟨⟩
        exact ⟨task, hframe⟩
      · rw [← pendingBytesOf_erase task pending, hframe, Nat.add_comm]
    next => exact ih

theorem recvTake_spec (h : c.Valid) (hfree : c.publishing = none)
    (hpreparing : c.receiver.preparingCompanion = none) :
    c.recvTake.Valid ∧ c.Accounts total (c.recvTake, total) := by
  obtain ⟨htaken, hleft, hcharge⟩ := takeReady_spec c.state.pending c.state.ready
  have hbytes : bytesOf c.state.takeCompanion.1 + pendingBytesOf c.state.takeCompanion.2.pending =
      pendingBytesOf c.state.pending := hcharge
  have hstate : Valid { c with state := c.state.takeCompanion.2 } := h.setState hfree hleft
  rw [recvTake]
  split
  next delivery state htake =>
    rw [htake] at hstate hbytes
    obtain ⟨task, htask⟩ := htaken delivery (congrArg Prod.fst htake)
    refine ⟨hstate.setReceiver h.delivering ⟨h.receiver.active, ?_⟩, accounts_keep ?_⟩
    · rintro _ ⟨⟩
      exact h.pending task delivery htask
    · simp [held, reserved, receiverBytes, hpreparing, Preparation.held, ← hbytes]
      omega
  next state htake =>
    rw [htake] at hstate hbytes
    refine ⟨hstate, accounts_keep ?_⟩
    simp [held, reserved, ← hbytes]

variable (hle : c.held + c.reserved ≤ total)

include hle

theorem accounts_prepare (hrunning : c.receiver.preparingCompanion = some (.running delivery)) :
    c.Accounts total (c.prepare serialize total delivery) := by
  have hdrop : ∀ preparing : Option Preparation, bytesOf (preparing.bind Preparation.held) = 0 →
      c.Accounts total ({ c with receiver := { c.receiver with preparingCompanion := preparing } },
          total - delivery.retainedBytes) := by
    intro preparing hnone
    refine accounts_receiver hle ?_
    simp only [receiverBytes, hrunning, hnone, bind_some, Preparation.held, bytesOf_some]
    omega
  cases hclosed : c.receiver.closed with
  | true =>
    have := hdrop none rfl
    simpa only [prepare, hclosed, if_true, isSome_none, Bool.false_eq_true, if_false] using this
  | false =>
    cases hprepared : prepareCompanion serialize delivery with
    | none =>
      have := hdrop (some (.finished none)) rfl
      simpa only [prepare, hclosed, hprepared, isSome_none, Bool.false_eq_true, if_false] using this
    | some prepared =>
      simp only [prepare, hclosed, hprepared, isSome_some, Bool.false_eq_true, if_true, if_false]
      refine accounts_keep ?_
      simp [held, reserved, receiverBytes, hrunning, Preparation.held,
        prepareCompanion_delivery hprepared]

theorem accounts_closeReceiver : c.Accounts total (c.closeReceiver total) := by
  refine accounts_receiver hle ?_
  simp only [receiverBytes, map_none, bytesOf_none]
  split
  next delivery hrunning =>
    simp [hrunning, Preparation.held]
    omega
  next =>
    simp only [bind_none, bytesOf_none]
    omega

omit hle

/-- Every move of a connection keeps it valid, and changes the counter by what the connection's
charge changes. -/
theorem Valid.step (h : c.Valid) (hle : c.held + c.reserved ≤ total) {move : CompanionMove}
    {after : CompanionConnection × ℕ} (hstep : c.step serialize total move = some after) :
    after.1.Valid ∧ c.Accounts total after := by
  cases move
  all_goals simp only [CompanionConnection.step] at hstep
  case attach taskId _ _ _ =>
    split_ifs at hstep with hfree
    cases hstep
    rw [not_isSome_iff_eq_none] at hfree
    exact ⟨(h.setState hfree fun _ _ hsome => lookup_erase_some hsome).addAttachment _,
      accounts_erase hle rfl rfl⟩
  case invalidate taskId =>
    split_ifs at hstep with hfree
    cases hstep
    rw [not_isSome_iff_eq_none] at hfree
    exact ⟨h.setState hfree fun _ _ hsome => lookup_erase_some hsome, accounts_erase hle rfl rfl⟩
  case publish sender frame =>
    split_ifs at hstep with hcond
    cases hstep
    rw [not_or, not_isSome_iff_eq_none, not_not] at hcond
    obtain ⟨hfree, hsender⟩ := hcond
    refine ⟨h.publish hsender frame, ?_⟩
    rw [CompanionConnection.publish]
    split_ifs
    · refine accounts_erase hle rfl ?_
      rw [reserved, hfree]
      rfl
    · exact accounts_keep rfl
  case reserve =>
    split at hstep <;> cases hstep
    next hheld => exact ⟨h.pay hheld (by rintro _ ⟨⟩; rfl), accounts_pay hheld rfl rfl⟩
  case reserveError =>
    split at hstep
    next hheld =>
      obtain rfl := some.inj hstep
      exact ⟨h.pay hheld (by rintro _ ⟨⟩), accounts_pay hheld rfl rfl⟩
    next => cases hstep
  case insert =>
    split at hstep <;> cases hstep
    next hheld => exact ⟨h.insert hheld, accounts_insert h hheld⟩
  case recv =>
    split_ifs at hstep
    cases hstep
    refine ⟨h.setReceiver (fun _ => rfl) ⟨h.receiver.active, h.receiver.preparing⟩,
      accounts_receiver hle ?_⟩
    simp [receiverBytes]
    omega
  case recvActive =>
    split at hstep <;> cases hstep
    next hactive => exact recvActive_spec h hle hactive
  case recvPrepared =>
    split at hstep <;> cases hstep
    next hreceiving hactive hprepared =>
      exact recvPrepared_spec h hle hreceiving hactive hprepared
  case recvTake =>
    split at hstep <;> cases hstep
    next hfree _ _ hpreparing => exact recvTake_spec h hfree hpreparing
  case prepare =>
    split at hstep <;> cases hstep
    next hrunning => exact ⟨h.prepare hrunning, accounts_prepare hle hrunning⟩
  case closeReceiver =>
    split_ifs at hstep
    cases hstep
    exact ⟨h.closeReceiver, accounts_closeReceiver hle⟩
  case dropState =>
    split_ifs at hstep with hcond
    cases hstep
    rw [Bool.or_eq_true, not_or, not_isSome_iff_eq_none] at hcond
    refine ⟨h.setState hcond.1 (by rintro _ _ ⟨⟩), accounts_drop hle ?_⟩
    simp [held, reserved]
    omega
  all_goals
    split_ifs at hstep
    cases hstep
    exact ⟨h.setReceiver nofun ⟨h.receiver.active, h.receiver.preparing⟩, accounts_keep rfl⟩

end CompanionConnection

namespace CompanionRelay

open CompanionConnection

variable {ι : Type} [DecidableEq ι] [Fintype ι] {serialize : CompanionFrame → Option (List Char)}

/-- Every connection is in order, and the counter is what they are charged for together. -/
structure Accounted (s : CompanionRelay ι) : Prop where
  valid : ∀ i, (s.conns i).Valid
  balance : s.pendingBytes = ∑ i, ((s.conns i).held + (s.conns i).reserved)
  bound : s.pendingBytes ≤ maxRelayCompanionPendingBytes

omit [DecidableEq ι] in
theorem accounted_fresh : (fresh : CompanionRelay ι).Accounted where
  valid _ := valid_fresh
  balance := (Finset.sum_const_zero).symm
  bound := Nat.zero_le _

variable {s : CompanionRelay ι}

theorem Accounted.step {s' : CompanionRelay ι} (h : s.Accounted) {move : ι × CompanionMove}
    (hstep : s.step serialize move = some s') : s'.Accounted := by
  obtain ⟨i, move⟩ := move
  obtain ⟨⟨c, total⟩, hc, rfl⟩ := map_eq_some_iff.mp hstep
  have hle := charge_le_sum (fun c : CompanionConnection => c.held + c.reserved) s.conns i
  rw [← h.balance] at hle
  obtain ⟨hvalid, haccounts⟩ := (h.valid i).step hle hc
  have hsum := sum_charge_update (fun c : CompanionConnection => c.held + c.reserved) s.conns i c
  refine ⟨?_, ?_, ?_⟩
  · exact (Function.forall_update_iff s.conns fun _ c => c.Valid).mpr
      ⟨hvalid, fun j _ => h.valid j⟩
  · have hbalance := haccounts.balance
    have hbefore := h.balance
    dsimp only at hbalance hsum ⊢
    omega
  · obtain hless | hmax := haccounts.bound
    · exact Nat.le_trans hless h.bound
    · exact hmax

theorem Accounted.of_run {moves : List (ι × CompanionMove)}
    (hrun : run (CompanionRelay.step serialize) fresh moves = some s) : s.Accounted :=
  (always_of_invariant (fun h hstep => h.step hstep) moves accounted_fresh).last hrun

/-- **What `recv` returns and what the counter counts.** However the connections' calls,
receivers and background tasks interleave, every companion frame that was returned was of
the generation current when that was checked, and carries the epoch of an attachment of
that generation. The counter never exceeds the limit, and it is the sum over the frames
that are pending, being prepared, chunked or delivered, with what a call of
`publish_shared` that has not returned has reserved for the frame it will insert. -/
theorem companion_relay_accounts {s : CompanionRelay ι} {moves : List (ι × CompanionMove)}
    (hrun : run (CompanionRelay.step serialize) fresh moves = some s) :
    (∀ i, ∀ returned ∈ (s.conns i).returned, returned.Valid (s.conns i).attachments) ∧
      s.pendingBytes = ∑ i, (s.conns i).held + ∑ i, (s.conns i).reserved ∧
      ((∀ i, (s.conns i).publishing = none) → s.pendingBytes = ∑ i, (s.conns i).held) ∧
      s.pendingBytes ≤ maxRelayCompanionPendingBytes := by
  have h := Accounted.of_run hrun
  have hbalance : s.pendingBytes = ∑ i, (s.conns i).held + ∑ i, (s.conns i).reserved := by
    rw [h.balance, Finset.sum_add_distrib]
  refine ⟨fun i => (h.valid i).returned, hbalance, fun hidle => ?_, h.bound⟩
  have hnone : ∑ i, (s.conns i).reserved = 0 := by
    refine Finset.sum_eq_zero fun i _ => ?_
    rw [reserved, hidle i]
    rfl
  rw [hbalance, hnone, Nat.add_zero]

/-- A frame is published, prepared in the background and returned. -/
def returningMoves : List (Bool × CompanionMove) :=
  [(true, .attach "a" true false (some 7)),
    (true, .publish ⟨"a", 1, true, false, some 7⟩ (.companionUnavailable "a" none)),
    (true, .reserve), (true, .insert), (true, .recv), (true, .recvTake), (true, .prepare),
    (true, .recvPrepared)]

theorem companion_relay_accounts_returning :
    ∃ s, run (CompanionRelay.step fun _ => some []) fresh returningMoves = some s ∧
      (∃ returned ∈ (s.conns true).returned, returned.frame = .companionUnavailable "a" (some 7) ∧
        returned.Valid (s.conns true).attachments) ∧
      0 < s.pendingBytes ∧ s.pendingBytes = ∑ i, (s.conns i).held := by
  obtain ⟨s, hrun, hidle, hreturned, hpos⟩ : ∃ s, run (CompanionRelay.step fun _ => some []) fresh
      returningMoves = some s ∧ (∀ i, (s.conns i).publishing = none) ∧
      (s.conns true).returned = [⟨.companionUnavailable "a" (some 7), "a", 1, some 1⟩] ∧
      s.pendingBytes = 1024 :=
    ⟨_, rfl, by rintro (_ | _) <;> rfl, rfl, rfl⟩
  obtain ⟨hvalid, -, hheld, -⟩ := companion_relay_accounts hrun
  have hmem : (⟨.companionUnavailable "a" (some 7), "a", 1, some 1⟩ : Returned) ∈
      (s.conns true).returned := by
    rw [hreturned]
    exact List.mem_singleton_self _
  exact ⟨s, hrun, ⟨_, hmem, rfl, hvalid true _ hmem⟩, by omega, hheld hidle⟩

end CompanionRelay

end Kanna
