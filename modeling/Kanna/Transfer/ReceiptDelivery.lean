import Mathlib.Data.List.Perm.Basic
import Kanna.Transfer.ImportReceipts

/-!
# Every receipt is queued, out or idle

All operations on receipts concern one transfer at a time, so that a state is looked at one
transfer at a time: `View` is everything a process holds for one id, and `View.Ok` says that the
flags of its receipt count the events in the channel and the deliveries that are out. What an
operation does to the view of its own transfer is a small case analysis, and it leaves the views
of the others alone.
-/

namespace Kanna.Receipts

open Durable

/-! ### What a process holds for one transfer -/

/-- The number of events for a transfer that were queued and not delivered. -/
def Process.queued (p : Process) (transferId : String) : ℕ :=
  (p.channel ++ p.taken).countP (·.transferId = transferId)

/-- A receipt without the flag that marking it sets. -/
def StoredReceipt.unmarked (stored : StoredReceipt) : StoredReceipt :=
  { stored with applied := false }

/-- Everything a process holds for one transfer. -/
structure View where
  receipt : Option Receipt
  file : Option StoredReceipt
  reservation : Option OutgoingReservation
  reservationFile : Option OutgoingReservation
  queued : ℕ
  out : ℕ
  marked : Prop

/-- What a process has of one transfer. -/
def Process.view (p : Process) (transferId : String) : View where
  receipt := p.receipts.lookup transferId
  file := p.receiptFiles.lookup transferId
  reservation := p.outgoingTransfers.lookup transferId
  reservationFile := p.reservationFiles.lookup transferId
  queued := p.queued transferId
  out := p.outstanding.count transferId
  marked := LogEntry.marked transferId ∈ p.log

/-- The flags of a receipt say where its event is, and its file has its data. -/
structure Receipt.Ok (receipt : Receipt) (v : View) : Prop where
  queued : v.queued = if receipt.eventQueued then 1 else 0
  out : v.out = if receipt.deliveryInFlight then 1 else 0
  /-- a queued receipt is not in flight -/
  exclusive : receipt.eventQueued = true → receipt.deliveryInFlight = false
  finished : receipt.applied = true →
    receipt.deliveryInFlight = false ∧ (¬ v.marked → receipt.eventQueued = false)
  /-- a receipt takes the place of the reservation -/
  unreserved : v.reservation = none ∧ v.reservationFile = none
  /-- its file says the same, but for a mark -/
  saved : ∃ stored, v.file = some stored ∧
    stored.unmarked = receipt.toStoredReceipt.unmarked ∧
    (receipt.applied = true → stored.applied = true)

/-- What holds of every transfer. -/
structure View.Ok (v : View) : Prop where
  /-- without a receipt nothing is out, and only a marked transfer may have an event -/
  receipt : match v.receipt with
    | none => v.out = 0 ∧ (¬ v.marked → v.queued = 0)
    | some receipt => receipt.Ok v
  marked : v.marked → v.reservation = none ∧ v.reservationFile = none ∧
    v.receipt.all (·.applied) = true ∧ v.file.all (·.applied) = true

/-- Nothing is delivered for a transfer after it was marked. -/
def NoLateDelivery (log : List LogEntry) : Prop :=
  log.Pairwise fun later earlier =>
    ∀ transferId, later = .delivered transferId → earlier ≠ .marked transferId

/-- What every step keeps. -/
structure Inv (p : Process) : Prop where
  views : ∀ transferId, (p.view transferId).Ok
  log : NoLateDelivery p.log

variable {config : Config} {p p' : Process} {transferId other : String}

theorem idle_iff {receipt : Receipt} : receipt.idle = true ↔
    receipt.applied = false ∧ receipt.eventQueued = false ∧ receipt.deliveryInFlight = false := by
  simp [Receipt.idle, and_assoc]

/-! ### What the operations do to a view -/

namespace View

variable {v : View} {receipt : Receipt}

variable (h : v.Ok)

include h

theorem Ok.missing (hmissing : v.receipt = none) : v.out = 0 ∧ (¬ v.marked → v.queued = 0) := by
  have hnone := h.receipt
  rwa [hmissing] at hnone

/-- An event whose receipt is gone. -/
theorem Ok.discard (hmissing : v.receipt = none) : Ok { v with queued := v.queued - 1 } := by
  obtain ⟨hout, hqueued⟩ := h.missing hmissing
  refine ⟨?_, h.marked⟩
  simp only [hmissing]
  refine ⟨hout, fun hmarked => ?_⟩
  rw [hqueued hmarked]

variable (hreceipt : v.receipt = some receipt)

include hreceipt

theorem Ok.present : receipt.Ok v := by
  have hok := h.receipt
  rwa [hreceipt] at hok

theorem Ok.applied_of_marked (hmarked : v.marked) : receipt.applied = true := by
  have happlied := (h.marked hmarked).2.2.1
  rwa [hreceipt] at happlied

/-- What is not applied was not marked, so its flags may change. -/
theorem Ok.change (happlied : receipt.applied = false) {eventQueued deliveryInFlight : Bool}
    {queued out : ℕ} (hqueued : queued = if eventQueued then 1 else 0)
    (hout : out = if deliveryInFlight then 1 else 0)
    (hexclusive : eventQueued = true → deliveryInFlight = false) :
    Ok { v with receipt := some { receipt with eventQueued, deliveryInFlight }, queued, out } := by
  have hok := h.present hreceipt
  have hnot : ¬ receipt.applied = true := by
    rw [happlied]
    exact Bool.false_ne_true
  exact ⟨⟨hqueued, hout, hexclusive, fun hdone => absurd hdone hnot, hok.unreserved, hok.saved⟩,
    fun hmarked => absurd (h.applied_of_marked hreceipt hmarked) hnot⟩

/-- An idle receipt whose event is queued. -/
theorem Ok.queue (hidle : receipt.idle = true) :
    Ok { v with receipt := some (receipt.setQueued true), queued := v.queued + 1 } := by
  obtain ⟨happlied, hqueued, hflight⟩ := idle_iff.mp hidle
  have hok := h.present hreceipt
  refine h.change hreceipt happlied ?_ hok.out fun _ => hflight
  rw [hok.queued, hqueued]
  rfl

/-- An event that is taken for a receipt was the only one, and nothing is out. -/
theorem Ok.of_queued (hpos : 0 < v.queued) :
    v.queued = 1 ∧ v.out = 0 ∧ receipt.deliveryInFlight = false := by
  have hok := h.present hreceipt
  have hqueued := hok.queued
  have hout := hok.out
  cases hflag : receipt.eventQueued with
  | false =>
    rw [hflag] at hqueued
    rw [hqueued] at hpos
    cases hpos
  | true =>
    rw [hflag] at hqueued
    rw [hok.exclusive hflag] at hout
    exact ⟨hqueued, hout, hok.exclusive hflag⟩

/-- An event for an applied receipt is skipped. -/
theorem Ok.skip (hpos : 0 < v.queued) (happlied : receipt.applied = true) :
    Ok { v with receipt := some (receipt.setQueued false), queued := v.queued - 1 } := by
  have hok := h.present hreceipt
  obtain ⟨hone, -, hflight⟩ := h.of_queued hreceipt hpos
  refine ⟨⟨?_, hok.out, nofun, fun _ => ⟨hflight, fun _ => rfl⟩, hok.unreserved, hok.saved⟩,
    fun hmarked => ?_⟩
  · rw [hone]
    rfl
  · obtain ⟨hreservation, hfile, -, hstored⟩ := h.marked hmarked
    exact ⟨hreservation, hfile, happlied, hstored⟩

/-- The event of a receipt is delivered. -/
theorem Ok.deliver (hpos : 0 < v.queued) (happlied : receipt.applied = false) :
    Ok { v with
      receipt := some ((receipt.setQueued false).setInFlight true)
      queued := v.queued - 1
      out := v.out + 1 } := by
  obtain ⟨hone, hout, -⟩ := h.of_queued hreceipt hpos
  refine h.change hreceipt happlied ?_ ?_ nofun
  · rw [hone]
    rfl
  · rw [hout]
    rfl

/-- The number of deliveries that are out after one was marked or given back. -/
theorem Ok.out_sub_one : v.out - 1 = 0 := by
  rw [(h.present hreceipt).out]
  split <;> rfl

/-- A receipt is marked as applied. -/
theorem Ok.mark :
    Ok { v with
      receipt := some receipt.setApplied
      file := some receipt.setApplied.toStoredReceipt
      out := v.out - 1
      marked := True } := by
  have hok := h.present hreceipt
  exact ⟨⟨hok.queued, h.out_sub_one hreceipt, fun _ => rfl, fun _ => ⟨rfl, absurd trivial⟩,
    hok.unreserved, _, rfl, rfl, fun _ => rfl⟩,
    fun _ => ⟨hok.unreserved.1, hok.unreserved.2, rfl, rfl⟩⟩

/-- An applied receipt is marked again. -/
theorem Ok.remark (happlied : receipt.applied = true) : Ok { v with marked := True } := by
  have hok := h.present hreceipt
  obtain ⟨stored, hstored, -, hdone⟩ := hok.saved
  refine ⟨?_, fun _ => ⟨hok.unreserved.1, hok.unreserved.2, ?_, ?_⟩⟩
  · simp only [hreceipt]
    exact { hok with finished := fun hdone => ⟨(hok.finished hdone).1, absurd trivial⟩ }
  · rwa [hreceipt]
  · rw [hstored]
    exact hdone happlied

/-- The file says that a receipt is applied, although marking it failed. -/
theorem Ok.markFile : Ok { v with file := some receipt.setApplied.toStoredReceipt } := by
  have hok := h.present hreceipt
  refine ⟨?_, fun hmarked => ?_⟩
  · simp only [hreceipt]
    exact { hok with saved := ⟨_, rfl, rfl, fun _ => rfl⟩ }
  · obtain ⟨hreservation, hfile, happlied, -⟩ := h.marked hmarked
    exact ⟨hreservation, hfile, happlied, rfl⟩

/-- A delivery is given back. -/
theorem Ok.nack (happlied : receipt.applied = false) :
    Ok { v with receipt := some (receipt.setInFlight false), out := v.out - 1 } := by
  exact h.change hreceipt happlied (h.present hreceipt).queued
    (h.out_sub_one hreceipt) fun _ => rfl

/-- An applied receipt is removed with its file. -/
theorem Ok.compact
    (happlied : receipt.applied = true) : Ok { v with receipt := none, file := none } := by
  have hok := h.present hreceipt
  obtain ⟨hflight, hqueued⟩ := hok.finished happlied
  refine ⟨⟨?_, fun hmarked => ?_⟩, fun hmarked => ?_⟩
  · have hout := hok.out
    rw [hflight] at hout
    exact hout
  · have hnone := hok.queued
    rw [hqueued hmarked] at hnone
    exact hnone
  · obtain ⟨hreservation, hfile, -, -⟩ := h.marked hmarked
    exact ⟨hreservation, hfile, rfl, rfl⟩

omit hreceipt

/-- Reservations may be dropped at any time. -/
theorem Ok.unreserve : Ok { v with reservation := none, reservationFile := none } := by
  refine ⟨?_, fun hmarked => ⟨rfl, rfl, (h.marked hmarked).2.2⟩⟩
  cases hreceipt : v.receipt with
  | none => exact h.missing hreceipt
  | some receipt => exact { h.present hreceipt with unreserved := ⟨rfl, rfl⟩ }

/-- A transfer that has a reservation was not marked. -/
theorem Ok.not_marked (hreserved : v.reservation ≠ none) : ¬ v.marked :=
  fun hmarked => hreserved (h.marked hmarked).1

/-- A receipt is recorded for a reservation. -/
theorem Ok.record (hmissing : v.receipt = none) (hreserved : v.reservation ≠ none)
    (stored : StoredReceipt) (happlied : stored.applied = false) :
    Ok { v with
      receipt := some (.ofStored stored)
      file := some stored
      reservation := none
      reservationFile := none } := by
  obtain ⟨hout, hqueued⟩ := h.missing hmissing
  have hmarked := h.not_marked hreserved
  refine ⟨⟨hqueued hmarked, hout, nofun, fun hdone => ?_, ⟨rfl, rfl⟩, stored, rfl, rfl,
    fun hdone => hdone⟩, fun hyes => absurd hyes hmarked⟩
  rw [Receipt.ofStored, happlied] at hdone
  cases hdone

/-- A receipt is saved and not recorded. -/
theorem Ok.recordFile (hmissing : v.receipt = none) (hreserved : v.reservation ≠ none)
    (file : Option StoredReceipt) : Ok { v with file := file } := by
  have hmarked := h.not_marked hreserved
  refine ⟨?_, fun hyes => absurd hyes hmarked⟩
  simp only [hmissing]
  exact h.missing hmissing

omit h

end View

/-! ### Offering an event -/

open Process

/-- The receipt can be queued. -/
def Idle (p : Process) (transferId : String) : Prop :=
  ∃ receipt, p.receipts.lookup transferId = some receipt ∧ receipt.idle = true

/-- What offering an event can do: nothing, or the receipt was idle and its event is queued. -/
theorem tryQueue_cases (config : Config) (p : Process) (transferId : String) :
    (p.tryQueue config transferId = p ∧
      (Idle p transferId → p.channel.length ≥ config.capacity)) ∨
    ∃ receipt, p.receipts.lookup transferId = some receipt ∧ receipt.idle = true ∧
      p.tryQueue config transferId = { p with
          receipts := p.receipts.insert transferId (receipt.setQueued true)
          channel := p.channel ++ [receipt.event transferId] } := by
  rw [tryQueue, Idle]
  cases p.receipts.lookup transferId with
  | none => exact .inl ⟨rfl, by rintro ⟨_, ⟨⟩, _⟩⟩
  | some receipt =>
  dsimp only
  split
  next hqueue => exact .inr ⟨receipt, rfl, (Bool.and_eq_true_iff.mp hqueue).1, rfl⟩
  next hnot =>
    refine .inl ⟨rfl, ?_⟩
    rintro ⟨_, ⟨⟩, hidle⟩
    rw [hidle, Bool.true_and, decide_eq_true_eq] at hnot
    exact Nat.not_lt.mp hnot

open List

/-- An operation on one transfer. -/
theorem Inv.at (h : Inv p) (transferId : String) {v : View} (hv : v.Ok)
    (hviews : ∀ other, p'.view other = if other = transferId then v else p.view other)
    (hlog : NoLateDelivery p'.log) : Inv p' := by
  refine ⟨fun other => ?_, hlog⟩
  rw [hviews]
  split
  next => exact hv
  next => exact h.views other

theorem Inv.tryQueue (h : Inv p) (transferId : String) : Inv (p.tryQueue config transferId) := by
  rcases tryQueue_cases config p transferId with ⟨heq, -⟩ | ⟨receipt, hlookup, hidle, heq⟩
  · rwa [heq]
  · rw [heq]
    refine h.at transferId ((h.views transferId).queue hlookup hidle) (fun other => ?_) h.log
    obtain rfl | hother := eq_or_ne other transferId
    · simp [view, queued, Receipt.event, Nat.add_assoc]
    · simp [hother, hother.symm, view, queued, Receipt.event]

theorem Inv.tick (h : Inv p) (order : List String) : Inv (p.tick config order) := by
  induction order generalizing p with
  | nil => exact h
  | cons transferId order ih => exact ih (h.tryQueue transferId)

/-! ### The retry task -/

/-- The receipt is queued, or the channel is full. -/
def QueuedOrFull (config : Config) (p : Process) (transferId : String) : Prop :=
  (∃ receipt, p.receipts.lookup transferId = some receipt ∧ receipt.eventQueued = true) ∨
    p.channel.length ≥ config.capacity

variable {order : List String}

theorem idle_or_queued_tryQueue {head : String}
    (h : Idle p transferId ∧ transferId ∈ head :: order ∨ QueuedOrFull config p transferId) :
    Idle (p.tryQueue config head) transferId ∧ transferId ∈ order ∨
      QueuedOrFull config (p.tryQueue config head) transferId := by
  rcases tryQueue_cases config p head with ⟨heq, hfull⟩ | ⟨receipt, -, -, heq⟩
  · rw [heq]
    rcases h with ⟨hidle, hmem⟩ | hqueued
    · rcases mem_cons.mp hmem with rfl | hmem
      · exact .inr (.inr (hfull hidle))
      · exact .inl ⟨hidle, hmem⟩
    · exact .inr hqueued
  · rw [heq, QueuedOrFull, Idle, lookup_insert_eq]
    split
    next => exact .inr (.inl ⟨_, rfl, rfl⟩)
    next hne =>
      rcases h with ⟨hidle, hmem⟩ | hqueued | hfull
      · exact .inl ⟨hidle, (mem_cons.mp hmem).resolve_left hne⟩
      · exact .inr (.inl hqueued)
      · refine .inr (.inr (hfull.trans ?_))
        rw [length_append]
        exact Nat.le_add_right _ _

/-- A tick queues every receipt that can be queued, as long as there is room. -/
theorem queuedOrFull_tick
    (h : Idle p transferId ∧ transferId ∈ order ∨ QueuedOrFull config p transferId) :
    QueuedOrFull config (p.tick config order) transferId := by
  induction order generalizing p with
  | nil => exact h.resolve_left fun hidle => not_mem_nil hidle.2
  | cons head order ih => exact ih (idle_or_queued_tryQueue h)

/-! ### Delivery -/

theorem Inv.take (h : Inv p) (hstep : p.take = some p') : Inv p' := by
  rw [Process.take] at hstep
  split at hstep
  next => cases hstep
  next event rest hchannel =>
    cases hstep
    refine ⟨fun transferId => ?_, h.log⟩
    have hqueued : (rest ++ (p.taken ++ [event])).countP (·.transferId = transferId) =
        (p.channel ++ p.taken).countP (·.transferId = transferId) := by
      simp [hchannel, countP_cons]
      omega
    have hview : view { p with channel := rest, taken := p.taken ++ [event] } transferId =
        p.view transferId := by
      simp only [view, queued, hqueued]
    exact hview ▸ h.views transferId

variable {k now : ℕ} {event : CommittedEvent}

/-- An event that was received leaves with its lookup. -/
theorem countP_eraseIdx (htaken : p.taken[k]? = some event) (transferId : String) :
    (p.channel ++ p.taken.eraseIdx k).countP (·.transferId = transferId) =
      (p.channel ++ p.taken).countP (·.transferId = transferId) -
        if transferId = event.transferId then 1 else 0 := by
  obtain ⟨hk, rfl⟩ := List.getElem?_eq_some_iff.mp htaken
  have hperm := (getElem_cons_eraseIdx_perm hk).countP_eq (·.transferId = transferId)
  rw [countP_cons] at hperm
  simp [← hperm, eq_comm (a := transferId)]
  omega

theorem queued_pos (htaken : p.taken[k]? = some event) : 0 < p.queued event.transferId := by
  refine countP_pos_iff.mpr ⟨event, ?_, decide_eq_true rfl⟩
  exact mem_append_right _ (mem_of_getElem? htaken)

variable {log : List LogEntry}

theorem Inv.deliver (h : Inv p) {result : Process × Option CommittedEvent}
    (hstep : p.deliver k = some result) : Inv (noteDelivery result) := by
  rw [Process.deliver] at hstep
  split at hstep
  next => cases hstep
  next event htaken =>
  have hpos := queued_pos htaken
  have hcount := countP_eraseIdx htaken
  have hviews := h.views event.transferId
  split at hstep
  next hmissing =>
    cases hstep
    refine h.at event.transferId (hviews.discard hmissing) (fun other => ?_) h.log
    obtain rfl | hother := eq_or_ne other event.transferId <;> simp [*, noteDelivery, view, queued]
  next receipt hlookup =>
  split at hstep
  next happlied =>
    cases hstep
    refine h.at event.transferId (hviews.skip hlookup hpos happlied) (fun other => ?_) h.log
    obtain rfl | hother := eq_or_ne other event.transferId <;>
      simp [*, noteDelivery, setReceipts, view, queued]
  next happlied =>
    cases hstep
    rw [Bool.not_eq_true] at happlied
    refine h.at event.transferId (hviews.deliver hlookup hpos happlied) (fun other => ?_) ?_
    · obtain rfl | hother := eq_or_ne other event.transferId
      · simp [noteDelivery, setReceipts, view, queued, hcount]
      · simp [hother, hother.symm, noteDelivery, setReceipts, view, queued, hcount]
    · refine pairwise_cons.mpr ⟨fun earlier hearlier other hdelivered hmarks => ?_, h.log⟩
      cases hdelivered
      have hmarked := hmarks ▸ hearlier
      have hdone := hviews.applied_of_marked hlookup hmarked
      rw [happlied] at hdone
      cases hdone

/-! ### Marking and giving back -/

/-- Only applied receipts are candidates for a compaction. -/
theorem applied_of_mem_appliedByAge {ρ : Type} {stored : ρ → StoredReceipt}
    {receipts : Records String ρ} {entry : String × ℕ}
    (hmem : entry ∈ appliedByAge stored receipts) :
    ∃ receipt, receipts.lookup entry.1 = some receipt ∧ (stored receipt).applied = true := by
  rw [appliedByAge, mem_insertionSort] at hmem
  obtain ⟨⟨transferId, receipt⟩, hfiltered, rfl⟩ := mem_map.mp hmem
  obtain ⟨hentry, happlied⟩ := mem_filter.mp hfiltered
  exact ⟨receipt, AList.mem_lookup_iff.mpr hentry, happlied⟩

/-- **What a compaction does**: a transfer is left as it is, or its receipt is applied and removed
with its file. -/
theorem compactReceipts_cases (config : Config) (p : Process) (now : ℕ) (transferId : String) :
    (p.compactReceipts config now).view transferId = p.view transferId ∨
      ∃ receipt, p.receipts.lookup transferId = some receipt ∧ receipt.applied = true ∧
        (p.compactReceipts config now).view transferId =
          { p.view transferId with receipt := none, file := none } := by
  simp only [compactReceipts, view, queued, lookup_deleteAll, and_true]
  split
  next hmem =>
    obtain ⟨⟨⟨other, created⟩, index⟩, hentry, hsome⟩ := mem_filterMap.mp hmem
    obtain ⟨-, rfl⟩ := guard_eq_some hsome
    obtain ⟨receipt, hlookup, happlied⟩ :=
      applied_of_mem_appliedByAge (fst_mem_of_mem_zipIdx hentry)
    exact .inr ⟨receipt, hlookup, happlied, rfl⟩
  next => exact .inl rfl

variable (h : Inv p)

include h

theorem Inv.compactReceipts (now : ℕ) : Inv (p.compactReceipts config now) := by
  refine ⟨fun transferId => ?_, h.log⟩
  rcases compactReceipts_cases config p now transferId with
    hsame | ⟨receipt, hlookup, happlied, heq⟩
  · exact hsame ▸ h.views transferId
  · exact heq ▸ (h.views transferId).compact hlookup happlied

/-- Nothing is out for an applied receipt. -/
theorem Inv.erase_of_applied {receipt : Receipt}
    (hlookup : p.receipts.lookup transferId = some receipt) (happlied : receipt.applied = true) :
    p.outstanding.erase transferId = p.outstanding := by
  have hok := (h.views transferId).present hlookup
  have hout := hok.out
  rw [(hok.finished happlied).1] at hout
  exact erase_of_not_mem (count_eq_zero.mp hout)

variable {save : WriteOutcome RuntimeError}

theorem Inv.mark (transferId : String) :
    Inv (noteAnswer transferId [.marked transferId]
      (p.markImportCommitApplied config transferId now save)) := by
  rw [markImportCommitApplied]
  split
  next => exact h
  next receipt hlookup =>
  have hviews := h.views transferId
  split
  next happlied =>
    rw [noteAnswer, h.erase_of_applied hlookup happlied]
    refine h.at transferId (hviews.remark hlookup happlied) (fun other => ?_)
      (pairwise_cons.mpr ⟨nofun, h.log⟩)
    obtain rfl | hother := eq_or_ne other transferId <;> simp [*, view, queued]
  next =>
  cases save with
  | refused error => exact h
  | unsynced error =>
    refine h.at transferId (hviews.markFile hlookup) (fun other => ?_) h.log
    obtain rfl | hother := eq_or_ne other transferId <;> simp [*, noteAnswer, write, view, queued]
  | written =>
    -- a compaction does not concern what is noted
    change Inv (Process.compactReceipts config { p with
      receiptFiles := p.receiptFiles.insert transferId receipt.setApplied.toStoredReceipt
      receipts := p.receipts.insert transferId receipt.setApplied
      outstanding := p.outstanding.erase transferId
      log := .marked transferId :: p.log } now)
    refine Inv.compactReceipts ?_ now
    refine h.at transferId (hviews.mark hlookup) (fun other => ?_)
      (pairwise_cons.mpr ⟨nofun, h.log⟩)
    obtain rfl | hother := eq_or_ne other transferId <;> simp [*, view, queued]

theorem Inv.nack (transferId : String) :
    Inv (noteAnswer transferId [] (p.nackImportCommit transferId)) := by
  rw [nackImportCommit]
  split
  next => exact h
  next receipt hlookup =>
  split
  next happlied =>
    rw [noteAnswer, h.erase_of_applied hlookup happlied]
    exact h
  next happlied =>
    refine h.at transferId ((h.views transferId).nack hlookup (Bool.not_eq_true _ ▸ happlied))
      (fun other => ?_) h.log
    obtain rfl | hother := eq_or_ne other transferId <;>
      simp [*, noteAnswer, setReceipts, view, queued]

/-! ### Acknowledgments -/

theorem Inv.prune (expired : String → Bool) : Inv (p.pruneOutgoingTransfers expired) := by
  refine ⟨fun transferId => ?_, h.log⟩
  have hviews := h.views transferId
  simp only [pruneOutgoingTransfers, view, queued, lookup_deleteAll, and_true]
  split
  next => exact hviews.unreserve
  next => exact hviews

variable {stored : StoredReceipt}

theorem Inv.insertReceipt (hmissing : p.receipts.lookup transferId = none)
    (hreserved : p.outgoingTransfers.lookup transferId ≠ none) (happlied : stored.applied = false) :
    Inv (p.insertReceipt config transferId stored save).1 := by
  have hviews := h.views transferId
  cases save with
  | refused error => exact h
  | unsynced error =>
    refine h.at transferId (hviews.recordFile hmissing hreserved (some stored))
      (fun other => ?_) h.log
    obtain rfl | hother := eq_or_ne other transferId <;>
      simp [*, insertReceipt, write, view, queued]
  | written =>
    refine Inv.tryQueue ?_ transferId
    refine h.at transferId (hviews.record hmissing hreserved stored happlied)
      (fun other => ?_) h.log
    obtain rfl | hother := eq_or_ne other transferId <;>
      simp [*, setReceipts, dropReservation, view, queued]

variable {expired : String → Bool}

theorem Inv.importCommitted {requesterPeerId : String} {opened : Except RuntimeError Value}
    (transferId : String) :
    Inv (p.importCommitted config transferId requesterPeerId now expired save opened).1 := by
  rw [Process.importCommitted]
  split
  next receipt hlookup =>
    split
    next => exact h
    next =>
    split
    next => exact h
    next => exact h.tryQueue transferId
  next hmissing =>
    have hpruned := h.prune expired
    dsimp only
    split
    next => exact hpruned
    next stored hnew =>
      obtain ⟨reservation, hreservation, hnew⟩ := of_okOr hnew
      obtain ⟨⟨sourceTaskId, localTaskId⟩, -, hnew⟩ := of_bind hnew
      obtain ⟨-, hnew⟩ := of_throw hnew
      obtain ⟨-, hnew⟩ := of_throw hnew
      cases hnew
      refine hpruned.insertReceipt hmissing (fun hnone => ?_) rfl
      cases hreservation.symm.trans hnone

omit h

/-! ### Starting -/

variable {files loaded : Records String StoredReceipt}

/-- What is loaded was saved. -/
theorem lookup_of_loadReceipts (hload : loadReceipts config files now = some loaded)
    (hlookup : loaded.lookup transferId = some stored) : files.lookup transferId = some stored := by
  rw [loadReceipts] at hload
  obtain ⟨-, hload⟩ := of_exit hload
  cases hload
  simp only [lookup_deleteAll, and_true] at hlookup
  obtain ⟨-, hlookup⟩ := of_exit hlookup
  obtain ⟨-, hlookup⟩ := of_exit hlookup
  exact hlookup

/-- **What is not applied is loaded.** -/
theorem lookup_loadReceipts (hload : loadReceipts config files now = some loaded)
    (hlookup : files.lookup transferId = some stored) (happlied : stored.applied = false) :
    loaded.lookup transferId = some stored := by
  rw [loadReceipts] at hload
  obtain ⟨-, hload⟩ := of_exit hload
  cases hload
  -- neither of the two deletions concerns it
  have hfresh : (deleteAll (fun _ => false) (keysWhere (·.expired config now) files)
      files).lookup transferId = some stored := by
    rw [lookup_deleteAll, if_neg, hlookup]
    rintro ⟨hmem, -⟩
    obtain ⟨other, hother, hexpired⟩ := mem_keysWhere.mp hmem
    rw [hlookup] at hother
    cases hother
    rw [StoredReceipt.expired, happlied] at hexpired
    cases hexpired
  rw [lookup_deleteAll, if_neg, hfresh]
  rintro ⟨hmem, -⟩
  obtain ⟨entry, hentry, rfl⟩ := mem_map.mp hmem
  obtain ⟨other, hother, hdone⟩ := applied_of_mem_appliedByAge (mem_of_mem_drop hentry)
  rw [hfresh] at hother
  cases hother
  rw [id, happlied] at hdone
  cases hdone

theorem inv_start {reservationFiles : Records String OutgoingReservation}
    {receiptFiles : Records String StoredReceipt} (hlog : NoLateDelivery log)
    (hmarked : ∀ transferId, LogEntry.marked transferId ∈ log →
      reservationFiles.lookup transferId = none ∧
        ∀ stored, receiptFiles.lookup transferId = some stored → stored.applied = true)
    (hstart : start config reservationFiles receiptFiles log now expired = some p) : Inv p := by
  rw [start] at hstart
  split at hstart
  next => cases hstart
  next loaded hload =>
    cases hstart
    refine Inv.tick ⟨fun transferId => ?_, hlog⟩ loaded.keys
    simp only [view, queued, lookup_mapRecords, lookup_deleteAll, and_true]
    cases hstored : loaded.lookup transferId with
    | none =>
      refine ⟨⟨rfl, fun _ => rfl⟩, fun hyes => ?_⟩
      rw [(hmarked transferId hyes).1, ite_self]
      exact ⟨rfl, rfl, rfl, rfl⟩
    | some stored =>
      have hkey : transferId ∈ loaded.keys :=
        AList.lookup_isSome.mp (Option.isSome_iff_exists.mpr ⟨stored, hstored⟩)
      rw [if_pos (mem_append_right _ hkey)]
      refine ⟨⟨rfl, rfl, nofun, fun _ => ⟨rfl, fun _ => rfl⟩, ⟨rfl, rfl⟩, stored, rfl, rfl,
        fun hdone => hdone⟩, fun hyes => ?_⟩
      have happlied := (hmarked transferId hyes).2 stored (lookup_of_loadReceipts hload hstored)
      exact ⟨rfl, rfl, happlied, happlied⟩

/-! ### Runs -/

theorem inv_step {move : Move} (h : Inv p) (hstep : step config p move = some p') : Inv p' := by
  cases move with
  | importCommitted transferId =>
    cases hstep
    exact h.importCommitted transferId
  | tick order =>
    cases hstep
    exact h.tick order
  | take => exact h.take hstep
  | deliver =>
    obtain ⟨result, hdeliver, rfl⟩ := Option.map_eq_some_iff.mp hstep
    exact h.deliver hdeliver
  | markImportCommitApplied transferId =>
    cases hstep
    exact h.mark transferId
  | nackImportCommit transferId =>
    cases hstep
    exact h.nack transferId
  | restart =>
    refine inv_start h.log (fun transferId hmarked => ?_) hstep
    obtain ⟨-, hreservation, -, hstored⟩ := (h.views transferId).marked hmarked
    exact ⟨hreservation, (Option.all_eq_true _ _).mp hstored⟩

/-- Every receipt that is not applied has one event that is queued and nothing out, or one
delivery out and nothing queued, or neither; and then every tick that visits it queues its
event unless it leaves the channel full. -/
def Placed (config : Config) (p : Process) : Prop :=
  ∀ transferId receipt, p.receipts.lookup transferId = some receipt → receipt.applied = false →
    (p.queued transferId = 1 ∧ p.outstanding.count transferId = 0) ∨
    (p.queued transferId = 0 ∧ p.outstanding.count transferId = 1) ∨
    (p.queued transferId = 0 ∧ p.outstanding.count transferId = 0 ∧
      ∀ order, transferId ∈ order → (p.tick config order).queued transferId = 1 ∨
        (p.tick config order).channel.length ≥ config.capacity)

/-- Every receipt has a file with its data. -/
def Saved (p : Process) : Prop :=
  ∀ transferId receipt, p.receipts.lookup transferId = some receipt →
    ∃ stored, p.receiptFiles.lookup transferId = some stored ∧
      stored.unmarked = receipt.toStoredReceipt.unmarked

theorem Inv.placed (h : Inv p) : Placed config p := by
  intro transferId receipt hlookup happlied
  have hok := (h.views transferId).present hlookup
  have hqueued : p.queued transferId = if receipt.eventQueued then 1 else 0 := hok.queued
  have hout : p.outstanding.count transferId = if receipt.deliveryInFlight then 1 else 0 := hok.out
  cases hflag : receipt.eventQueued with
  | true =>
    rw [hflag] at hqueued
    rw [hok.exclusive hflag] at hout
    exact .inl ⟨hqueued, hout⟩
  | false =>
    rw [hflag] at hqueued
    cases hflight : receipt.deliveryInFlight with
    | true =>
      rw [hflight] at hout
      exact .inr (.inl ⟨hqueued, hout⟩)
    | false =>
      rw [hflight] at hout
      refine .inr (.inr ⟨hqueued, hout, fun order hmem => ?_⟩)
      have hidle : Idle p transferId := ⟨receipt, hlookup, idle_iff.mpr ⟨happlied, hflag, hflight⟩⟩
      have hplaced : QueuedOrFull config _ _ := queuedOrFull_tick (.inl ⟨hidle, hmem⟩)
      rcases hplaced with ⟨queued, hnow, hyes⟩ | hfull
      · have hcount := ((h.tick order).views transferId).present hnow |>.queued
        rw [hyes] at hcount
        exact .inl hcount
      · exact .inr hfull

theorem Inv.saved (h : Inv p) : Saved p := by
  intro transferId receipt hlookup
  obtain ⟨stored, hstored, hdata, -⟩ := ((h.views transferId).present hlookup).saved
  exact ⟨stored, hstored, hdata⟩

/-- **Receipts are delivered until they are applied.** For a process that starts from any files,
along every interleaving of acknowledgments, ticks, `next_event` calls, marks, nacks and
restarts: every receipt that is not applied is queued, out or idle, and saved; and nothing is
delivered for a transfer after it was marked. Compactions keep every receipt that is not applied
with its file, loading finds it, and a mark or nack of a receipt fails only if its file cannot be
written. -/
theorem import_receipts_placed (config : Config)
    {reservationFiles : Records String OutgoingReservation}
    {receiptFiles : Records String StoredReceipt} {now : ℕ} {expired : String → Bool}
    (hstart : Process.start config reservationFiles receiptFiles [] now expired = some p)
    (moves : List Move) :
    Always (step config) (fun p => Placed config p ∧ Saved p ∧ NoLateDelivery p.log) p moves ∧
      (∀ (p : Process) (now : ℕ) transferId receipt,
        p.receipts.lookup transferId = some receipt → receipt.applied = false →
          (p.compactReceipts config now).receipts.lookup transferId = some receipt ∧
          (p.compactReceipts config now).receiptFiles.lookup transferId =
            p.receiptFiles.lookup transferId) ∧
      (∀ files now loaded, Process.loadReceipts config files now = some loaded →
        ∀ transferId stored, files.lookup transferId = some stored → stored.applied = false →
          loaded.lookup transferId = some stored) ∧
      ∀ (p : Process) transferId receipt, p.receipts.lookup transferId = some receipt →
        (p.nackImportCommit transferId).2 = .ok () ∧
        ∀ now, (p.markImportCommitApplied config transferId now .written).2 = .ok () := by
  refine ⟨?_, fun p now transferId receipt hlookup happlied => ?_, fun files now loaded hload
    transferId stored hlookup happlied => lookup_loadReceipts hload hlookup happlied,
    fun p transferId receipt hlookup => ?_⟩
  · have hinv : Inv p := inv_start List.Pairwise.nil (nofun) hstart
    exact (always_of_invariant inv_step moves hinv).mono fun h => ⟨h.placed, h.saved, h.log⟩
  · rcases compactReceipts_cases config p now transferId with
      hsame | ⟨other, hother, hdone, -⟩
    · exact ⟨(congrArg View.receipt hsame).trans hlookup, congrArg View.file hsame⟩
    · rw [hlookup] at hother
      cases hother
      rw [happlied] at hdone
      cases hdone
  · simp only [nackImportCommit, markImportCommitApplied, hlookup]
    split
    next => exact ⟨rfl, fun _ => rfl⟩
    next => exact ⟨rfl, fun _ => rfl⟩

/-- One reservation, for the transfer `t` to the peer `d`. -/
def oneReservation : Records String OutgoingReservation :=
  (∅ : Records String OutgoingReservation).insert "t" ⟨"d", "s"⟩

/-- A process with it. -/
def reservedProcess : Process := ⟨oneReservation, oneReservation, ∅, ∅, [], [], [], []⟩

theorem start_oneReservation :
    start ⟨1, 1, 1000⟩ oneReservation ∅ [] 0 (fun _ => false) = some reservedProcess := rfl

/-- The acknowledgment comes twice, the first delivery is given back and the second one marked,
with a crash in between. -/
def redelivered : List Move :=
  let acknowledged := Move.importCommitted "t" "d" 1 (fun _ => false) .written
    (.ok (importAcknowledgment "s" "l"))
  [acknowledged, acknowledged, .take, .deliver 0, .nackImportCommit "t", .tick ["t"],
    .restart 2 (fun _ => false), .take, .deliver 0, .markImportCommitApplied "t" 3 .written]

theorem import_receipts_placed_redelivered :
    Process.start ⟨1, 1, 1000⟩ oneReservation ∅ [] 0 (fun _ => false) = some reservedProcess ∧
      Always (step ⟨1, 1, 1000⟩)
        (fun p => Placed ⟨1, 1, 1000⟩ p ∧ Saved p ∧ NoLateDelivery p.log) reservedProcess
        redelivered :=
  ⟨start_oneReservation, (import_receipts_placed ⟨1, 1, 1000⟩ start_oneReservation redelivered).1⟩

example : (run (step ⟨1, 1, 1000⟩) reservedProcess redelivered).map Process.log =
    some [.marked "t", .delivered "t", .delivered "t"] := by decide

/-- What was marked is not reserved, and a receipt that is left says so, as its file does. -/
def Settled (p : Process) : Prop :=
  ∀ transferId, .marked transferId ∈ p.log →
    p.outgoingTransfers.lookup transferId = none ∧ p.reservationFiles.lookup transferId = none ∧
    (∀ receipt, p.receipts.lookup transferId = some receipt → receipt.applied = true) ∧
    ∀ stored, p.receiptFiles.lookup transferId = some stored → stored.applied = true

/-- **A marked transfer stays settled**, whatever is acknowledged again, given back or loaded. -/
theorem marked_receipts_settled {reservationFiles : Records String OutgoingReservation}
    (hstart : start config reservationFiles files [] now expired = some p) (moves : List Move) :
    Always (step config) Settled p moves := by
  have hinv : Inv p := inv_start .nil nofun hstart
  refine (always_of_invariant inv_step moves hinv).mono fun h transferId hmarked => ?_
  obtain ⟨hreservation, hfile, happlied, hstored⟩ := (h.views transferId).marked hmarked
  exact ⟨hreservation, hfile, (Option.all_eq_true _ _).mp happlied,
    (Option.all_eq_true _ _).mp hstored⟩

theorem marked_receipts_settled_redelivered :
    Always (step ⟨1, 1, 1000⟩) Settled reservedProcess redelivered :=
  marked_receipts_settled start_oneReservation redelivered

end Kanna.Receipts
