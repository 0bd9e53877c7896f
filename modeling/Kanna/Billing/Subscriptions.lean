import Kanna.Billing.StripeWebhook

/-!
# Several subscriptions of one account

The Stripe source of an account holds one status, that of the last event that says one,
whatever subscription the event is about. Events that arrive in order can therefore still end
the access of an account that pays: it is enough that another of its subscriptions ends later.
-/

namespace Kanna.Billing

/-! ### What the events say about the subscriptions -/

section Said

variable (config : WebhookConfig)

/-- The event is about the subscription. -/
def About (subscription : String) (event : StripeEventEnvelope) : Prop :=
  (said config event).bind (·.2.stripeSubscriptionId) = some subscription

instance (subscription : String) (event : StripeEventEnvelope) :
    Decidable (About config subscription event) :=
  inferInstanceAs (Decidable (_ = _))

/-- The status that the event says. -/
def statusSaid (event : StripeEventEnvelope) : Option SourceStatus :=
  (said config event).bind (·.2.status)

/-- The latest event about the subscription says that it is active. -/
def ActiveIn (subscription : String) (history : List Delivery) : Prop :=
  ((history.filter fun delivery => About config subscription delivery.1).getLast?).bind
    (fun delivery => statusSaid config delivery.1) = some .active

instance (subscription : String) (history : List Delivery) :
    Decidable (ActiveIn config subscription history) :=
  inferInstanceAs (Decidable (_ = _))

/-- The event says that a subscription has ended. -/
def Ends (event : StripeEventEnvelope) : Prop :=
  ∃ status ∈ statusSaid config event, isHonoredStatus status = false

instance (event : StripeEventEnvelope) : Decidable (Ends config event) :=
  inferInstanceAs (Decidable (∃ status ∈ statusSaid config event, _))

/-- No event ends a subscription while another one is active. -/
def EndsNoOther (history : List Delivery) : Prop :=
  ∀ before delivery later, history = before ++ delivery :: later → Ends config delivery.1 →
    ∀ subscription, ¬ About config subscription delivery.1 →
      ¬ ActiveIn config subscription before

end Said

/-- Another source than Stripe grants access. -/
def AccountDocs.GrantedElsewhere (docs : AccountDocs) : Prop :=
  isCompActive docs.sources.comp = true ∨
    ∃ state ∈ docs.sources.appStore, isHonoredStatus state.status = true

/-- The stored entitlement is active or in grace. -/
def AccountDocs.HasAccess (docs : AccountDocs) : Prop :=
  ∃ record ∈ docs.entitlement, isHonoredStatus record.status = true

instance (docs : AccountDocs) : Decidable docs.HasAccess :=
  inferInstanceAs (Decidable (∃ record ∈ docs.entitlement, _))

/-- Whenever the latest event about some subscription says it is active, the account has
access. -/
def ActiveGrants (config : WebhookConfig) (store : Store) (uid : String)
    (history : List Delivery) : Prop :=
  ∀ before later, history = before ++ later →
    (∃ subscription, ActiveIn config subscription before) →
      ((handleAll config store before).accounts uid).HasAccess

/-- The events of an account in the order in which they were created, each once, and none of
them older than what is stored. All of them resolve to the account in the stored state. -/
structure InOrder (config : WebhookConfig) (store : Store) (uid : String)
    (history : List Delivery) : Prop where
  serves : Serves config store uid (history.map Prod.fst)
  /-- in the order of their creation -/
  created : history.Pairwise fun first second => first.1.created ≤ second.1.created
  /-- each event once -/
  ids : history.Pairwise fun first second => first.1.id ≠ second.1.id
  unseen : ∀ delivery ∈ history, delivery.1.id ∉ store.stripeEvents
  /-- none is older than the stored state -/
  fresh : ∀ delivery ∈ history, ¬ (store.accounts uid).Stale delivery.1

open List

section History

variable {config : WebhookConfig} {store : Store} {uid : String} {history : List Delivery}

/-! ### Deliveries in order -/

variable {delivery : Delivery}

/-- In order, a delivery is ignored or applied. -/
theorem InOrder.next (h : InOrder config store uid (delivery :: history)) :
    (said config delivery.1 = none ∧
      (handleStripeWebhook config store delivery.1 delivery.2).1 = store) ∨
    ∃ content, said config delivery.1 = some content ∧
      (handleStripeWebhook config store delivery.1 delivery.2).1 =
        { store.recordEvent uid delivery.1 content.1.customerId with
          accounts := Function.update store.accounts uid
            ((store.accounts uid).merge config delivery.1 content.2 delivery.2) } := by
  have hnext := h.serves.next (mem_cons_self (a := delivery.1)) delivery.2
  generalize (handleStripeWebhook config store delivery.1 delivery.2).1 = after at hnext ⊢
  cases hnext with
  | ignored hsaid => exact .inl ⟨hsaid, rfl⟩
  | duplicate content hsaid hseen => exact absurd hseen (h.unseen delivery mem_cons_self)
  | stale content hsaid hnew hstale => exact absurd hstale (h.fresh delivery mem_cons_self)
  | applied content hsaid => exact .inr ⟨content, hsaid, rfl⟩

variable {docs : AccountDocs} {event : StripeEventEnvelope}

theorem InOrder.tail (h : InOrder config store uid (delivery :: history)) :
    InOrder config (handleStripeWebhook config store delivery.1 delivery.2).1 uid history := by
  obtain ⟨hcreated, hcreated'⟩ := pairwise_cons.mp h.created
  obtain ⟨hids, hids'⟩ := pairwise_cons.mp h.ids
  have hserves := h.serves.handle mem_cons_self delivery.2
  refine ⟨⟨hserves.live, fun event hevent => hserves.belongs event (mem_cons_of_mem _ hevent)⟩,
    hcreated', hids', ?_, ?_⟩
  all_goals
    intro other hother
    rcases h.next with ⟨-, hafter⟩ | ⟨content, -, hafter⟩ <;> rw [hafter]
  · exact h.unseen other (mem_cons_of_mem _ hother)
  · exact not_mem_cons_of_ne_of_not_mem (hids other hother).symm
      (h.unseen other (mem_cons_of_mem _ hother))
  · exact h.fresh other (mem_cons_of_mem _ hother)
  · show ¬ (Function.update store.accounts uid _ uid).Stale other.1
    rw [Function.update_self]
    rintro ⟨state, hstate, hlt⟩
    obtain rfl := Option.some.inj hstate
    have hlt' : other.1.created * 1000 < delivery.1.created * 1000 := hlt
    have hle := hcreated other hother
    omega

variable {before later : List Delivery}

/-- What is still to come is in order after what has come. -/
theorem InOrder.rest (h : InOrder config store uid (before ++ later)) :
    InOrder config (handleAll config store before) uid later := by
  induction before generalizing store with
  | nil => exact h
  | cons delivery before ih => exact ih h.tail

theorem InOrder.left (h : InOrder config store uid (before ++ later)) :
    InOrder config store uid before := by
  have hmem : ∀ delivery ∈ before, delivery ∈ before ++ later :=
    fun delivery hdelivery => mem_append_left _ hdelivery
  refine ⟨⟨h.serves.live, fun event hevent => ?_⟩, (pairwise_append.mp h.created).1,
    (pairwise_append.mp h.ids).1, fun delivery hdelivery => h.unseen _ (hmem _ hdelivery),
    fun delivery hdelivery => h.fresh _ (hmem _ hdelivery)⟩
  refine h.serves.belongs event ?_
  rw [map_append]
  exact mem_append_left _ hevent

/-! ### The last delivery of a history -/

/-- The account after one more delivery: as before if the event is ignored, else merged. -/
theorem accounts_snoc (h : InOrder config store uid (before ++ [delivery])) :
    (handleAll config store (before ++ [delivery])).accounts uid =
      match said config delivery.1 with
      | none => (handleAll config store before).accounts uid
      | some content => ((handleAll config store before).accounts uid).merge config delivery.1
          content.2 delivery.2 := by
  rw [handleAll_append, handleAll_cons, handleAll_nil]
  rcases h.rest.next with ⟨hsaid, hafter⟩ | ⟨content, hsaid, hafter⟩
  · rw [hafter, hsaid]
  · rw [hafter, hsaid]
    exact Function.update_self ..

/-- Access is stored exactly if a source grants it. -/
def AccountDocs.Settled (docs : AccountDocs) : Prop := docs.HasAccess ↔ docs.sources.Grants

theorem settled_merge (docs : AccountDocs) (event : StripeEventEnvelope)
    (patch : StripeSourcePatch) (now : Int) : (docs.merge config event patch now).Settled := by
  obtain ⟨record, hrecord, hgrants⟩ := @status_reduceEntitlement
    docs.entitlement config.environment (docs.merge config event patch now).sources now
    (cons_ne_nil _ _)
  obtain ⟨stored, hstored, hsame⟩ := applyEntitlement_same hrecord
  rw [AccountDocs.Settled, ← hgrants, ← hsame.status]
  constructor
  · rintro ⟨other, hother, hhonored⟩
    obtain rfl := Option.some.inj (hstored.symm.trans hother)
    exact hhonored
  · exact fun hhonored => ⟨stored, hstored, hhonored⟩

theorem settled_of_said (h : InOrder config store uid before)
    (hsaid : ∃ delivery ∈ before, said config delivery.1 ≠ none) :
    ((handleAll config store before).accounts uid).Settled := by
  induction before using reverseRecOn with
  | nil =>
    obtain ⟨delivery, hdelivery, -⟩ := hsaid
    cases hdelivery
  | append_singleton before delivery ih =>
    rw [accounts_snoc h]
    cases hlast : said config delivery.1 with
    | some content => exact settled_merge _ _ _ _
    | none =>
      refine ih h.left ?_
      obtain ⟨other, hother, hsome⟩ := hsaid
      refine ⟨other, (mem_append.mp hother).resolve_right fun hmem => ?_, hsome⟩
      exact hsome (mem_singleton.mp hmem ▸ hlast)

theorem elsewhere_handleAll (h : InOrder config store uid before) :
    ((handleAll config store before).accounts uid).GrantedElsewhere ↔
      (store.accounts uid).GrantedElsewhere := by
  induction before using reverseRecOn with
  | nil => exact Iff.rfl
  | append_singleton before delivery ih =>
    rw [accounts_snoc h, ← ih h.left]
    cases said config delivery.1 <;> exact Iff.rfl

theorem grants_iff :
    docs.sources.Grants ↔ docs.GrantedElsewhere ∨
      ∃ state ∈ docs.sources.stripe, isHonoredStatus state.status = true := by
  rw [BillingSourceSnapshot.Grants, AccountDocs.GrantedElsewhere, BillingSourceSnapshot.billed,
    or_assoc]
  refine or_congr_right ?_
  constructor
  · rintro ⟨state, hstate, hhonored⟩
    rcases mem_append.mp hstate with hmem | hmem
    · exact .inr ⟨state, Option.mem_toList.mp hmem, hhonored⟩
    · exact .inl ⟨state, Option.mem_toList.mp hmem, hhonored⟩
  · rintro (⟨state, hstate, hhonored⟩ | ⟨state, hstate, hhonored⟩)
    · exact ⟨state, mem_append_right _ (Option.mem_toList.mpr hstate), hhonored⟩
    · exact ⟨state, mem_append_left _ (Option.mem_toList.mpr hstate), hhonored⟩

/-! ### The subscription that is active -/

variable {subscription : String}

theorem activeIn_snoc_of_about (habout : About config subscription delivery.1) :
    ActiveIn config subscription (before ++ [delivery]) ↔
      statusSaid config delivery.1 = some .active := by
  rw [ActiveIn, filter_append, filter_singleton, decide_eq_true habout]
  simp

theorem activeIn_snoc_of_not_about (habout : ¬ About config subscription delivery.1) :
    ActiveIn config subscription (before ++ [delivery]) ↔ ActiveIn config subscription before := by
  rw [ActiveIn, filter_append, filter_singleton, decide_eq_false habout]
  simp [ActiveIn]

theorem said_of_activeIn (h : ActiveIn config subscription before) :
    ∃ delivery ∈ before, said config delivery.1 ≠ none := by
  obtain ⟨delivery, hlast, hstatus⟩ := Option.bind_eq_some_iff.mp h
  refine ⟨delivery, mem_of_mem_filter (mem_of_getLast? hlast), fun hnone => ?_⟩
  rw [statusSaid, hnone] at hstatus
  cases hstatus

/-- The status that is stored after one more event: what it says, or else the one before. -/
theorem status_merge (docs : AccountDocs) (now : Int) {content : Content}
    (hsaid : said config event = some content) {status : SourceStatus}
    (hstatus : (statusSaid config event).or (docs.sources.stripe.map (·.status)) = some status) :
    ∃ state ∈ (docs.merge config event content.2 now).sources.stripe, state.status = status := by
  refine ⟨_, rfl, ?_⟩
  rw [statusSaid, hsaid] at hstatus
  have hpatch : content.2.status.or (docs.sources.stripe.map (·.status)) = some status := hstatus
  show (content.2.status.or _).getD _ = status
  rw [hpatch]
  rfl

/-- As long as no other subscription ends, the stored status honors the active one. -/
theorem honored_of_activeIn
    (h : InOrder config store uid before) (hends : EndsNoOther config before)
    (hactive : ActiveIn config subscription before) :
    ∃ state ∈ ((handleAll config store before).accounts uid).sources.stripe,
      isHonoredStatus state.status = true := by
  induction before using reverseRecOn with
  | nil => cases hactive
  | append_singleton before delivery ih =>
    have hends' : EndsNoOther config before := fun front other later heq =>
      hends front other (later ++ [delivery]) (by rw [heq, append_assoc, cons_append])
    rw [accounts_snoc h]
    cases hsaid : said config delivery.1 with
    | none =>
      refine ih h.left hends' ((activeIn_snoc_of_not_about fun habout => ?_).mp hactive)
      rw [About, hsaid] at habout
      cases habout
    | some content =>
      by_cases habout : About config subscription delivery.1
      · obtain ⟨state, hstate, hstatus⟩ := status_merge
          ((handleAll config store before).accounts uid) delivery.2 hsaid
          (by rw [(activeIn_snoc_of_about habout).mp hactive]; rfl)
        exact ⟨state, hstate, by rw [hstatus]; rfl⟩
      · have hbefore := (activeIn_snoc_of_not_about habout).mp hactive
        obtain ⟨old, hold, hhonored⟩ := ih h.left hends' hbefore
        cases hstatus : statusSaid config delivery.1 with
        | none =>
          obtain ⟨state, hstate, hkept⟩ := status_merge
            ((handleAll config store before).accounts uid) delivery.2 hsaid
            (by rw [hstatus, hold]; rfl)
          exact ⟨state, hstate, by rw [hkept]; exact hhonored⟩
        | some status =>
          obtain ⟨state, hstate, hcontent⟩ := status_merge
            ((handleAll config store before).accounts uid) delivery.2 hsaid
            (by rw [hstatus]; rfl)
          refine ⟨state, hstate, ?_⟩
          rw [hcontent]
          by_contra hended
          exact hends before delivery [] rfl ⟨status, hstatus, Bool.eq_false_iff.mpr hended⟩
            subscription habout hbefore

/-- **An active subscription grants access exactly if no other one ends.** For every in-order
history of Stripe events of an account, about any number of subscriptions and on top of any
billing state: at every moment at which the latest event about some subscription says it is
active the stored entitlement is active or in grace, if and only if another source grants
access or no event ends one subscription while another one is active. -/
theorem active_subscription_keeps_access_iff (h : InOrder config store uid history) :
    ActiveGrants config store uid history ↔
      (store.accounts uid).GrantedElsewhere ∨ EndsNoOther config history := by
  constructor
  · intro hgrants
    by_cases helsewhere : (store.accounts uid).GrantedElsewhere
    · exact .inl helsewhere
    refine .inr fun before delivery later heq hended subscription habout hactive => ?_
    obtain ⟨status, hstatus, hended⟩ := hended
    -- the account right after the event that ends the other subscription
    have hsplit : history = (before ++ [delivery]) ++ later := by
      rw [heq, append_assoc, singleton_append]
    have hprefix : InOrder config store uid (before ++ [delivery]) := (hsplit ▸ h).left
    have hactive' : ActiveIn config subscription (before ++ [delivery]) :=
      (activeIn_snoc_of_not_about habout).mpr hactive
    have haccess := hgrants _ later hsplit ⟨subscription, hactive'⟩
    have hsettled : _ ↔ _ := settled_of_said hprefix (said_of_activeIn hactive')
    rw [hsettled, grants_iff, elsewhere_handleAll hprefix] at haccess
    obtain ⟨state, hstate, hhonored⟩ := haccess.resolve_left helsewhere
    rw [accounts_snoc hprefix] at hstate
    cases hsaid : said config delivery.1 with
    | none =>
      rw [statusSaid, hsaid] at hstatus
      cases hstatus
    | some content =>
      rw [hsaid] at hstate
      obtain ⟨ended, hended', hstatus'⟩ := status_merge
        ((handleAll config store before).accounts uid) delivery.2 hsaid (by rw [hstatus]; rfl)
      obtain rfl := Option.some.inj (hended'.symm.trans hstate)
      rw [hstatus', hended] at hhonored
      cases hhonored
  · intro hcondition before later heq hactive
    have hprefix : InOrder config store uid before := (heq ▸ h).left
    obtain ⟨subscription, hactive⟩ := hactive
    have hsettled : _ ↔ _ := settled_of_said hprefix (said_of_activeIn hactive)
    rw [hsettled, grants_iff, elsewhere_handleAll hprefix]
    refine hcondition.imp_right fun hends => honored_of_activeIn hprefix ?_ hactive
    intro front delivery rest hfront
    exact hends front delivery (rest ++ later) (by rw [heq, hfront, append_assoc, cons_append])

end History

/-! ### Two subscriptions -/

/-- The first subscription begins. -/
def firstCreated : StripeEventEnvelope :=
  ⟨"evt_first", "customer.subscription.created", 1, subscriptionFields "sub_1" "active"⟩

/-- It is not paid for. -/
def firstUnpaid : StripeEventEnvelope :=
  ⟨"evt_unpaid", "customer.subscription.updated", 2, subscriptionFields "sub_1" "unpaid"⟩

/-- The account takes out a second one. -/
def secondCreated : StripeEventEnvelope :=
  ⟨"evt_second", "customer.subscription.created", 3, subscriptionFields "sub_2" "active"⟩

/-- The first one is deleted. -/
def firstDeleted : StripeEventEnvelope :=
  ⟨"evt_deleted", "customer.subscription.deleted", 4, subscriptionFields "sub_1" "canceled"⟩

/-- An account that subscribes again after its first subscription has ended. -/
theorem active_subscription_keeps_access_renewed :
    ActiveGrants stagingWebhook unbilledStore "user"
      [(firstCreated, 1), (firstUnpaid, 2), (secondCreated, 3)] := by
  refine (active_subscription_keeps_access_iff
    ⟨⟨by decide, by decide⟩, by decide, by decide, by decide, by decide⟩).mpr (.inr ?_)
  intro before delivery later heq hends subscription habout hactive
  rcases before with _ | ⟨first, _ | ⟨second, _ | ⟨third, before⟩⟩⟩
  · cases hactive
  · -- the event that ends the first subscription, which is the only one so far
    obtain ⟨hfirst, hrest⟩ := cons.inj heq
    obtain ⟨hsecond, -⟩ := cons.inj hrest
    subst hfirst hsecond
    have hother : ¬ About stagingWebhook subscription firstCreated := habout
    have hnone : ActiveIn stagingWebhook subscription [] :=
      (@activeIn_snoc_of_not_about _ (firstCreated, 1) [] _ hother).mp hactive
    cases hnone
  · obtain ⟨-, hrest⟩ := cons.inj heq
    obtain ⟨-, hrest⟩ := cons.inj hrest
    obtain ⟨hthird, -⟩ := cons.inj hrest
    subst hthird
    exact absurd hends (by decide)
  · have hlength := congrArg length heq
    simp at hlength

/-- **A late event about an old subscription takes the access of the account away.** The
second subscription is active and paid when the first one, unpaid since long, is deleted. -/
theorem ended_subscription_takes_access :
    InOrder stagingWebhook unbilledStore "user"
        [(firstCreated, 1), (firstUnpaid, 2), (secondCreated, 3), (firstDeleted, 4)] ∧
      ActiveIn stagingWebhook "sub_2"
        [(firstCreated, 1), (firstUnpaid, 2), (secondCreated, 3), (firstDeleted, 4)] ∧
      ¬ ((handleAll stagingWebhook unbilledStore
        [(firstCreated, 1), (firstUnpaid, 2), (secondCreated, 3),
          (firstDeleted, 4)]).accounts "user").HasAccess := by
  refine ⟨⟨⟨by decide, by decide⟩, by decide, by decide, by decide, by decide⟩, by decide, ?_⟩
  decide

end Kanna.Billing
