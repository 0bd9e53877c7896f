import Kanna.Billing.StripeWebhook

/-!
# The order in which Stripe events arrive

An event that is older than the one applied last is dropped rather than applied. What such an
event alone knows is lost, so the order of delivery matters unless the newest event knows
everything that is new.
-/

namespace Kanna.Billing

open Kanna.Watermark

/-! ### What two histories are compared by -/

/-- The part of the Stripe source that the events say something about. -/
structure SourceView where
  status : SourceStatus
  currentPeriodEndsAt : Option Int
  graceEndsAt : Option Int
  cancelAtPeriodEnd : Bool
  stripeCustomerId : Option String
  stripeSubscriptionId : Option String
  deriving DecidableEq

/-- What an event can change of a stored source. -/
def BilledSourceState.view (state : BilledSourceState) : SourceView :=
  ⟨state.status, state.currentPeriodEndsAt, state.graceEndsAt, state.cancelAtPeriodEnd,
    state.stripeCustomerId, state.stripeSubscriptionId⟩

/-- The source state and the entitlement of the account are the same in both stores. -/
def SameBilling (uid : String) (left right : Store) : Prop :=
  (left.accounts uid).sources.stripe.map (·.view) =
      (right.accounts uid).sources.stripe.map (·.view) ∧
    (left.accounts uid).entitlement.map (·.unstamped) =
      (right.accounts uid).entitlement.map (·.unstamped)

instance (uid : String) (left right : Store) : Decidable (SameBilling uid left right) :=
  inferInstanceAs (Decidable (_ ∧ _))

/-- A history that delivers each of the events at least once, and no others. -/
def DeliversAll (events : List StripeEventEnvelope) (order : List Delivery) : Prop :=
  ∀ event, (∃ now, (event, now) ∈ order) ↔ event ∈ events

/-- The newest event that is not ignored knows every field about which any event that the
stored state admits says something new. -/
def NewestKnows (config : WebhookConfig) (store : Store) (uid : String)
    (events : List StripeEventEnvelope) : Prop :=
  Covered (logOf store uid) (events.filterMap (update? config))

/-! ### The entitlement follows the source -/

/-- A source state that looks like the view. -/
def SourceView.state (view : SourceView) (environment : BillingEnvironment) :
    BilledSourceState where
  source := .stripe
  status := view.status
  currentPeriodEndsAt := view.currentPeriodEndsAt
  graceEndsAt := view.graceEndsAt
  cancelAtPeriodEnd := view.cancelAtPeriodEnd
  environment := environment
  stripeCustomerId := view.stripeCustomerId
  stripeSubscriptionId := view.stripeSubscriptionId
  appStoreOriginalTransactionId := none
  lastEventAt := 0
  lastEventId := none
  updatedAt := 0

/-- The entitlement of an account with Stripe as its only billed source. -/
def SourceView.entitlement (view : SourceView) (comp : Option Bool)
    (environment : BillingEnvironment) : EntitlementRecord :=
  let sources : BillingSourceSnapshot := ⟨some (view.state environment), none, comp⟩
  if isCompActive comp then compEntitlement sources 0 environment
  else billedEntitlement sources (view.state environment) 0

/-- The stored entitlement is that of the stored source. -/
def AccountDocs.Derived (environment : BillingEnvironment) (docs : AccountDocs) : Prop :=
  ∃ state, docs.sources.stripe = some state ∧ docs.entitlement.map (·.unstamped) =
    some (state.view.entitlement docs.sources.comp environment)

/-- The reduced record depends on the source through its view only. -/
theorem unstamped_entitlement {state : BilledSourceState} {environment : BillingEnvironment}
    (hsource : state.source = .stripe) (henvironment : state.environment = environment)
    (comp : Option Bool) (now : Int) :
    (if isCompActive comp then compEntitlement ⟨some state, none, comp⟩ now environment
      else billedEntitlement ⟨some state, none, comp⟩ state now).unstamped =
      state.view.entitlement comp environment := by
  rcases state with ⟨source, status, periodEnd, graceEnd, cancel, environment', customer,
    subscription, transaction, lastEventAt, lastEventId, updatedAt⟩
  obtain rfl : source = .stripe := hsource
  obtain rfl : environment' = environment := henvironment
  rw [SourceView.entitlement]
  split_ifs
  · rfl
  · rfl

open Option

theorem derived_merge (config : WebhookConfig) {docs : AccountDocs}
    (hother : docs.sources.appStore = none) (event : StripeEventEnvelope)
    (patch : StripeSourcePatch) (now : Int) :
    (docs.merge config event patch now).Derived config.environment := by
  rcases docs with ⟨deleting, userExists, ⟨stripe, appStore, comp⟩, entitlement⟩
  obtain rfl : appStore = none := hother
  obtain ⟨stored, hstored, hsame⟩ := applyEntitlement_same
    (@reduceEntitlement_stripe_only (mergeStripeSourceState stripe patch event.id
      (stripeEventCreatedAt event) config.environment now) comp entitlement now
      config.environment)
  refine ⟨_, rfl, (congrArg (Option.map EntitlementRecord.unstamped) hstored).trans ?_⟩
  exact congrArg some (hsame.trans (unstamped_entitlement rfl rfl comp now))

open List

section Derived

variable {config : WebhookConfig} {store : Store} {uid : String}
  {events : List StripeEventEnvelope}

variable {after : Store} {event : StripeEventEnvelope} {now : Int}

section Next

variable (h : Next config store uid event now after)

include h

variable (hother : (store.accounts uid).sources.appStore = none)

include hother

open Function

/-- Stripe is the only billed source, and stays it. -/
theorem Next.appStore : (after.accounts uid).sources.appStore = none := by
  cases h with
  | applied =>
    show (update store.accounts uid _ uid).sources.appStore = none
    rw [update_self]
    exact hother
  | _ => exact hother

/-- A delivery leaves the account as it is, or leaves it with the entitlement derived. -/
theorem Next.derived_or :
    (after.accounts uid).Derived config.environment ∨ after.accounts uid = store.accounts uid := by
  cases h with
  | applied content =>
    left
    show (update store.accounts uid _ uid).Derived config.environment
    rw [update_self]
    exact derived_merge config hother event content.2 now
  | _ => exact .inr rfl

/-- The first delivery of an event that the stored state admits applies it. -/
theorem Next.derived (hsaid : said config event ≠ none)
    (hunseen : event.id ∉ store.stripeEvents) (hadmitted : ¬ (store.accounts uid).Stale event) :
    (after.accounts uid).Derived config.environment := by
  cases h with
  | ignored hnone => exact absurd hnone hsaid
  | duplicate content _ hseen => exact absurd hseen hunseen
  | stale content _ _ hstale => exact absurd hstale hadmitted
  | applied content =>
    show (update store.accounts uid _ uid).Derived config.environment
    rw [update_self]
    exact derived_merge config hother event content.2 now

omit hother

/-- An event that the stored state does not admit changes nothing of the account. -/
theorem Next.kept (hstale : said config event ≠ none → (store.accounts uid).Stale event) :
    after.accounts uid = store.accounts uid := by
  cases h with
  | ignored => rfl
  | duplicate => rfl
  | stale => rfl
  | applied content hsaid _ hadmitted =>
    exact absurd (hstale (by rw [hsaid]; exact some_ne_none _)) hadmitted

theorem Next.comp : (after.accounts uid).sources.comp = (store.accounts uid).sources.comp := by
  cases h with
  | ignored => rfl
  | duplicate => rfl
  | stale => rfl
  | applied =>
    show (update store.accounts uid _ uid).sources.comp = _
    rw [update_self]
    rfl

end Next

section History

variable {order : List Delivery} (h : Serves config store uid events)
  (horder : ∀ delivery ∈ order, delivery.1 ∈ events)

include h horder

/-- Once the entitlement is derived it stays so. -/
theorem handleAll_derived (hother : (store.accounts uid).sources.appStore = none)
    (hderived : (store.accounts uid).Derived config.environment) :
    ((handleAll config store order).accounts uid).Derived config.environment := by
  induction order generalizing store with
  | nil => exact hderived
  | cons delivery order ih =>
    have hevent := horder delivery mem_cons_self
    have hnext := h.next hevent delivery.2
    refine ih (h.handle hevent delivery.2)
      (fun other hmem => horder other (mem_cons_of_mem _ hmem)) (hnext.appStore hother) ?_
    rcases hnext.derived_or hother with hderived' | hkept
    · exact hderived'
    · rw [hkept]
      exact hderived

/-- A history that delivers an event the stored state admits leaves the entitlement derived. -/
theorem handleAll_derived_of_admitted
    (hids : ∀ first ∈ events, ∀ second ∈ events, first.id = second.id → first = second)
    (hother : (store.accounts uid).sources.appStore = none) (hmem : ∃ now, (event, now) ∈ order)
    (hsaid : said config event ≠ none) (hunseen : event.id ∉ store.stripeEvents)
    (hadmitted : ¬ (store.accounts uid).Stale event) :
    ((handleAll config store order).accounts uid).Derived config.environment := by
  induction order generalizing store with
  | nil =>
    obtain ⟨now, hnow⟩ := hmem
    cases hnow
  | cons delivery order ih =>
    have hevent := horder delivery mem_cons_self
    have hnext := h.next hevent delivery.2
    have htail : ∀ other ∈ order, other.1 ∈ events :=
      fun other hother => horder other (mem_cons_of_mem _ hother)
    rw [handleAll_cons]
    rcases hnext.derived_or hother with hderived | hkept
    · exact handleAll_derived (h.handle hevent delivery.2) htail (hnext.appStore hother) hderived
    · by_cases heq : delivery.1 = event
      · -- its first delivery applies it
        rw [← heq] at hsaid hunseen hadmitted
        exact handleAll_derived (h.handle hevent delivery.2) htail (hnext.appStore hother)
          (hnext.derived hother hsaid hunseen hadmitted)
      · obtain ⟨now, hnow⟩ := hmem
        have hlater : (event, now) ∈ order :=
          (mem_cons.mp hnow).resolve_left fun hhead => heq (congrArg Prod.fst hhead).symm
        refine ih (h.handle hevent delivery.2) htail (hnext.appStore hother) ⟨now, hlater⟩ ?_ ?_
        · intro hseen
          rcases hnext.seen hseen with hid | hseen
          · exact heq (hids delivery.1 hevent event (htail _ hlater) hid.symm)
          · exact hunseen hseen
        · rw [hkept]
          exact hadmitted

/-- Without such an event the account stays as it is. -/
theorem handleAll_kept
    (hstale : ∀ event ∈ events, said config event ≠ none → (store.accounts uid).Stale event) :
    (handleAll config store order).accounts uid = store.accounts uid := by
  induction order generalizing store with
  | nil => rfl
  | cons delivery order ih =>
    have hevent := horder delivery mem_cons_self
    have hkept := (h.next hevent delivery.2).kept (hstale _ hevent)
    rw [handleAll_cons, ih (h.handle hevent delivery.2)
      (fun other hother => horder other (mem_cons_of_mem _ hother)), hkept]
    rw [hkept]
    exact hstale

theorem handleAll_comp :
    ((handleAll config store order).accounts uid).sources.comp =
      (store.accounts uid).sources.comp := by
  induction order generalizing store with
  | nil => rfl
  | cons delivery order ih =>
    have hevent := horder delivery mem_cons_self
    rw [handleAll_cons, ih (h.handle hevent delivery.2)
      (fun other hother => horder other (mem_cons_of_mem _ hother)),
      (h.next hevent delivery.2).comp]

end History

end Derived

/-! ### Orders of delivery -/

theorem view_eq_of_fieldsOf {left right : BilledSourceState}
    (h : fieldsOf (some left) = fieldsOf (some right)) : left.view = right.view := by
  have hstatus := congrFun h .status
  have hperiod := congrFun h .currentPeriodEndsAt
  have hgrace := congrFun h .graceEndsAt
  have hcancel := congrFun h .cancelAtPeriodEnd
  have hcustomer := congrFun h .stripeCustomerId
  have hsubscription := congrFun h .stripeSubscriptionId
  exact SourceView.mk.injEq .. |>.mpr ⟨hstatus, hperiod, hgrace, hcancel, hcustomer, hsubscription⟩

theorem fieldsOf_eq_of_view {left right : Option BilledSourceState}
    (h : left.map (·.view) = right.map (·.view)) : fieldsOf left = fieldsOf right := by
  cases left with
  | none =>
    cases right with
    | none => rfl
    | some right => cases h
  | some left =>
    cases right with
    | none => cases h
    | some right =>
      obtain ⟨hstatus, hperiod, hgrace, hcancel, hcustomer, hsubscription⟩ :=
        SourceView.mk.injEq .. |>.mp (some.inj h)
      funext f
      cases f with
      | status => exact hstatus
      | currentPeriodEndsAt => exact hperiod
      | graceEndsAt => exact hgrace
      | cancelAtPeriodEnd => exact hcancel
      | stripeCustomerId => exact hcustomer
      | stripeSubscriptionId => exact hsubscription

variable {events : List StripeEventEnvelope} {order : List Delivery}

theorem DeliversAll.mem (h : DeliversAll events order) : ∀ delivery ∈ order, delivery.1 ∈ events :=
  fun delivery hdelivery => (h delivery.1).mp ⟨delivery.2, hdelivery⟩

variable {config : WebhookConfig}

/-- The updates of a history are those of its events. -/
theorem DeliversAll.delivers (h : DeliversAll events order) :
    Delivers (events.filterMap (update? config)) (updates config order) := by
  intro update
  rw [updates, mem_filterMap, mem_filterMap]
  constructor
  · rintro ⟨delivery, hdelivery, hupdate⟩
    exact ⟨delivery.1, h.mem delivery hdelivery, hupdate⟩
  · rintro ⟨event, hevent, hupdate⟩
    obtain ⟨now, hnow⟩ := (h event).mpr hevent
    exact ⟨(event, now), hnow, hupdate⟩

variable {order : List (Event String Field.Value)}

/-- Every sequence of updates of the events is that of a sequence of the events. -/
theorem exists_events (h : ∀ update ∈ order, update ∈ events.filterMap (update? config)) :
    ∃ sequence : List StripeEventEnvelope,
      (∀ event ∈ sequence, event ∈ events) ∧ sequence.filterMap (update? config) = order := by
  induction order with
  | nil => exact ⟨[], fun _ hevent => absurd hevent not_mem_nil, rfl⟩
  | cons update order ih =>
    obtain ⟨event, hevent, hupdate⟩ := mem_filterMap.mp (h update mem_cons_self)
    obtain ⟨sequence, hsequence, horder⟩ :=
      ih fun other hother => h other (mem_cons_of_mem _ hother)
    refine ⟨event :: sequence, ?_, ?_⟩
    · exact forall_mem_cons.mpr ⟨hevent, hsequence⟩
    · rw [filterMap_cons_some hupdate, horder]

section Order

variable {config : WebhookConfig} {store : Store} {uid : String}
  {events : List StripeEventEnvelope}

theorem update?_eq_some {event : StripeEventEnvelope} {update : Event String Field.Value}
    (h : update? config event = some update) :
    update.id = event.id ∧ update.stamp = stripeEventCreatedAt event ∧
      said config event ≠ none := by
  obtain ⟨content, hsaid, rfl⟩ := map_eq_some_iff.mp h
  exact ⟨rfl, rfl, by rw [hsaid]; exact some_ne_none _⟩

/-- What is distinct about the events is distinct about their updates. -/
theorem updates_inj {κ : Type} (key : StripeEventEnvelope → κ) (key' : Event String Field.Value → κ)
    (hkey : ∀ {event update}, update? config event = some update → key' update = key event)
    (hinj : ∀ first ∈ events, ∀ second ∈ events, key first = key second → first = second) :
    ∀ first ∈ events.filterMap (update? config), ∀ second ∈ events.filterMap (update? config),
      key' first = key' second → first = second := by
  intro first hfirst second hsecond heq
  obtain ⟨event, hevent, hupdate⟩ := mem_filterMap.mp hfirst
  obtain ⟨other, hother, hupdate'⟩ := mem_filterMap.mp hsecond
  rw [hkey hupdate, hkey hupdate'] at heq
  obtain rfl := hinj event hevent other hother heq
  exact some.inj (hupdate.symm.trans hupdate')

variable (h : Serves config store uid events)

include h

/-- Every order of the updates is that of a history of deliveries; the events that are
ignored, and repetitions of the others, are delivered at its end. -/
theorem exists_history (horder : Delivers (events.filterMap (update? config)) order) :
    ∃ history, DeliversAll events history ∧ (logOf (handleAll config store history) uid).fields =
        (deliverAll (logOf store uid) order).fields := by
  obtain ⟨sequence, hsequence, hupdates⟩ :=
    exists_events fun update hupdate => (horder update).mp hupdate
  refine ⟨(sequence ++ events).map fun event => (event, 0), ?_, ?_⟩
  · intro event
    constructor
    · rintro ⟨now, hnow⟩
      obtain ⟨other, hmem, heq⟩ := mem_map.mp hnow
      obtain ⟨rfl, -⟩ := Prod.mk.inj heq
      exact (mem_append.mp hmem).elim (hsequence other) id
    · exact fun hevent => ⟨0, mem_map_of_mem (mem_append_right _ hevent)⟩
  · have hall : updates config ((sequence ++ events).map fun event => (event, 0)) =
        order ++ events.filterMap (update? config) := by
      rw [updates, filterMap_map, ← hupdates, ← filterMap_append]
      rfl
    rw [logOf_handleAll h, hall, deliverAll_append]
    · refine fields_deliverAll_settled fun update hupdate => .inl ?_
      exact mem_seen_deliverAll.mpr (.inl ⟨update, (horder update).mpr hupdate, rfl⟩)
    · intro delivery hdelivery
      obtain ⟨event, hevent, rfl⟩ := mem_map.mp hdelivery
      exact (mem_append.mp hevent).elim (hsequence event) id

section Billing

variable (hids : ∀ first ∈ events, ∀ second ∈ events, first.id = second.id → first = second)
  (hunseen : ∀ event ∈ events, event.id ∉ store.stripeEvents)
  (hother : (store.accounts uid).sources.appStore = none)

include hids hunseen hother

/-- Whatever the order, the entitlement ends derived, or the account is never touched. -/
theorem derived_or_kept :
    (∀ order, DeliversAll events order →
      ((handleAll config store order).accounts uid).Derived config.environment) ∨
    ∀ order, DeliversAll events order →
      (handleAll config store order).accounts uid = store.accounts uid := by
  by_cases hadmitted : ∃ event ∈ events,
      said config event ≠ none ∧ ¬ (store.accounts uid).Stale event
  · obtain ⟨event, hevent, hsaid, hfresh⟩ := hadmitted
    refine .inl fun order horder => ?_
    exact handleAll_derived_of_admitted h horder.mem hids hother ((horder event).mpr hevent) hsaid
      (hunseen event hevent) hfresh
  · refine .inr fun order horder => handleAll_kept h horder.mem fun event hevent hsaid => ?_
    by_contra hfresh
    exact hadmitted ⟨event, hevent, hsaid, hfresh⟩

/-- The same values give the same billing. -/
theorem sameBilling_of_fields {first second : List Delivery} (hfirst : DeliversAll events first)
    (hsecond : DeliversAll events second)
    (hfields : fieldsOf ((handleAll config store first).accounts uid).sources.stripe =
      fieldsOf ((handleAll config store second).accounts uid).sources.stripe) :
    SameBilling uid (handleAll config store first) (handleAll config store second) := by
  rcases derived_or_kept h hids hunseen hother with hderived | hkept
  · obtain ⟨left, hleft, hleft'⟩ := hderived first hfirst
    obtain ⟨right, hright, hright'⟩ := hderived second hsecond
    rw [hleft, hright] at hfields
    have hview := view_eq_of_fieldsOf hfields
    refine ⟨?_, ?_⟩
    · rw [hleft, hright, map_some, map_some, hview]
    · rw [hleft', hright', hview, handleAll_comp h hfirst.mem, handleAll_comp h hsecond.mem]
  · rw [SameBilling, hkept first hfirst, hkept second hsecond]
    exact ⟨rfl, rfl⟩

end Billing

omit h

/-- **When the order of delivery is irrelevant.** For every finite set of Stripe events of a
live account with Stripe as its only billed source, pairwise distinct in their ids and their
creation times: any two orders of delivery, with any repetitions and at any times, end in the
same source state and the same entitlement exactly if the newest event knows every field about
which any of the events says something new. -/
theorem billing_order_irrelevant_iff (h : Serves config store uid events)
    (hother : (store.accounts uid).sources.appStore = none)
    (hunseen : ∀ event ∈ events, event.id ∉ store.stripeEvents)
    (hids : ∀ first ∈ events, ∀ second ∈ events, first.id = second.id → first = second)
    (hcreated : ∀ first ∈ events, ∀ second ∈ events,
      first.created = second.created → first = second) :
    (∀ first second, DeliversAll events first → DeliversAll events second →
      SameBilling uid (handleAll config store first) (handleAll config store second)) ↔
      NewestKnows config store uid events := by
  have hunseen' : ∀ update ∈ events.filterMap (update? config),
      update.id ∉ (logOf store uid).seen := by
    intro update hupdate
    obtain ⟨event, hevent, heq⟩ := mem_filterMap.mp hupdate
    rw [(update?_eq_some heq).1]
    exact hunseen event hevent
  have hids' : ∀ first ∈ events.filterMap (update? config),
      ∀ second ∈ events.filterMap (update? config), first.id = second.id → first = second :=
    updates_inj (·.id) (·.id) (fun heq => (update?_eq_some heq).1) hids
  have hstamps' : ∀ first ∈ events.filterMap (update? config),
      ∀ second ∈ events.filterMap (update? config), first.stamp = second.stamp → first = second :=
    updates_inj stripeEventCreatedAt (·.stamp) (fun heq => (update?_eq_some heq).2.1)
      fun first hfirst second hsecond heq => hcreated first hfirst second hsecond (by
        rw [stripeEventCreatedAt, stripeEventCreatedAt] at heq
        omega)
  rw [NewestKnows, ← order_independent_iff hunseen' hids' hstamps']
  constructor
  · intro hsame first second hfirst hsecond
    obtain ⟨history, hhistory, hfields⟩ := exists_history h hfirst
    obtain ⟨history', hhistory', hfields'⟩ := exists_history h hsecond
    rw [← hfields, ← hfields']
    exact fieldsOf_eq_of_view (hsame history history' hhistory hhistory').1
  · intro hsame first second hfirst hsecond
    refine sameBilling_of_fields h hids hunseen hother hfirst hsecond ?_
    have hfields := hsame _ _ hfirst.delivers hsecond.delivers
    rw [← logOf_handleAll h hfirst.mem, ← logOf_handleAll h hsecond.mem] at hfields
    exact hfields

end Order

/-! ### Two histories -/

/-- The subscription is created. -/
def subscriptionCreated : StripeEventEnvelope :=
  ⟨"evt_created", "customer.subscription.created", 1, subscriptionFields "sub_1" "active"⟩

/-- The payment of its first renewal fails. -/
def invoiceFailed : StripeEventEnvelope :=
  ⟨"evt_failed", "invoice.payment_failed", 2,
    [("subscription", .str "sub_1"), ("customer", .str "cus_1"),
      ("next_payment_attempt", .num 1000), ("metadata", .obj [("firebase_uid", .str "user")])]⟩

/-- The subscription ends. -/
def subscriptionEnded : StripeEventEnvelope :=
  ⟨"evt_ended", "customer.subscription.updated", 3, subscriptionFields "sub_1" "canceled"⟩

private theorem pair_inj {α κ : Type} {key : α → κ} {a b : α} (h : key a ≠ key b) :
    ∀ first ∈ [a, b], ∀ second ∈ [a, b], key first = key second → first = second := by
  intro first hfirst second hsecond heq
  rcases mem_pair.mp hfirst with rfl | rfl <;> rcases mem_pair.mp hsecond with rfl | rfl
  · rfl
  · exact absurd heq h
  · exact absurd heq.symm h
  · rfl

/-- The event of the subscription and that of its end may come in any order. -/
theorem billing_order_irrelevant_ended :
    Serves stagingWebhook unbilledStore "user" [subscriptionCreated, subscriptionEnded] ∧
    ∀ first second, DeliversAll [subscriptionCreated, subscriptionEnded] first →
      DeliversAll [subscriptionCreated, subscriptionEnded] second →
      SameBilling "user" (handleAll stagingWebhook unbilledStore first)
        (handleAll stagingWebhook unbilledStore second) := by
  have hserves : Serves stagingWebhook unbilledStore "user"
      [subscriptionCreated, subscriptionEnded] := ⟨by decide, by decide⟩
  refine ⟨hserves, (billing_order_irrelevant_iff hserves rfl (by decide)
    (pair_inj (by decide)) (pair_inj (by decide))).mpr ?_⟩
  intro newest hnewest _ hmax event _ _ f value _ _ hnone
  obtain ⟨envelope, henvelope, hupdate⟩ := mem_filterMap.mp hnewest
  rcases mem_pair.mp henvelope with rfl | rfl
  · obtain rfl := some.inj hupdate
    have hlate := hmax ⟨"evt_ended", 3000, _⟩ (mem_filterMap.mpr ⟨subscriptionEnded, by simp, rfl⟩)
    exact absurd hlate (by decide)
  · obtain rfl := some.inj hupdate
    revert hnone
    cases f <;> decide

/-- **A late event takes its knowledge with it.** The event of the subscription alone knows
when the period ends. If the failed invoice overtakes it, it is dropped, and the source state
and the entitlement never learn of the period. -/
theorem late_subscription_loses_period :
    Serves stagingWebhook unbilledStore "user" [subscriptionCreated, invoiceFailed] ∧
      subscriptionCreated.created ≠ invoiceFailed.created ∧
      DeliversAll [subscriptionCreated, invoiceFailed]
        [(subscriptionCreated, 0), (invoiceFailed, 0)] ∧
      DeliversAll [subscriptionCreated, invoiceFailed]
        [(invoiceFailed, 0), (subscriptionCreated, 0)] ∧
      ¬ SameBilling "user"
        (handleAll stagingWebhook unbilledStore [(subscriptionCreated, 0), (invoiceFailed, 0)])
        (handleAll stagingWebhook unbilledStore [(invoiceFailed, 0), (subscriptionCreated, 0)])
      := by
  refine ⟨⟨by decide, by decide⟩, by decide, ?_, ?_, by decide⟩
  · intro event
    simp [exists_or]
  · intro event
    simp [exists_or, or_comm]

end Kanna.Billing
