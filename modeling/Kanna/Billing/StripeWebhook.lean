import Kanna.Billing.Entitlement
import Kanna.Lib.Watermark

/-!
# The Stripe webhook

`stripeWebhook.ts` folds the events of an account onto its `billing/stripe` document, one
transaction for each delivery. An event is recorded in a ledger and applied at most once; one
that is older than the event applied last is recorded and dropped. Seen from one account, the
deliveries are those of a log of partial updates behind a watermark.
-/

namespace Kanna.Billing

open Kanna.Watermark Function

/-- The documents of one account that the webhook reads. -/
structure AccountDocs where
  /-- `accountDeletions/{uid}` exists -/
  deleting : Bool
  /-- `users/{uid}` exists -/
  userExists : Bool
  /-- the documents of its sources -/
  sources : BillingSourceSnapshot
  /-- the record derived from them -/
  entitlement : Option EntitlementRecord

/-- The account exists and is not being deleted. -/
def AccountDocs.Live (docs : AccountDocs) : Prop := docs.deleting = false ∧ docs.userExists = true

instance (docs : AccountDocs) : Decidable docs.Live :=
  inferInstanceAs (Decidable (_ ∧ _))

/-- Firestore, as far as billing goes. -/
structure Store where
  accounts : String → AccountDocs
  /-- the ledger `stripeEvents` -/
  stripeEvents : List String
  /-- `stripeCustomers/{customerId}.uid` -/
  stripeCustomers : String → Option String

/-- The configuration of the webhook. -/
structure WebhookConfig where
  graceFallbackDays : Nat
  environment : BillingEnvironment

/-- `StripeWebhookOutcomeCode`, for the deliveries that verify. -/
inductive OutcomeCode where
  | applied
  | duplicate
  | stale
  | ignored
  | unresolvedAccount
  | deletedAccount

/-- `resolveUid`. -/
def resolveUid (store : Store) (account : StripeAccountHint) : Option String :=
  (account.uid.filter (· ≠ "")).or
    ((account.customerId.bind store.stripeCustomers).filter (· ≠ ""))

/-- `mergeStripeSourceState`: fields the patch does not know keep their value. -/
def mergeStripeSourceState (existing : Option BilledSourceState) (patch : StripeSourcePatch)
    (eventId : String) (eventCreatedAt : Int) (environment : BillingEnvironment) (now : Int) :
    BilledSourceState where
  source := .stripe
  status := (patch.status.or (existing.map (·.status))).getD .expired
  currentPeriodEndsAt := patch.currentPeriodEndsAt.getD (existing.bind (·.currentPeriodEndsAt))
  graceEndsAt := patch.graceEndsAt.getD (existing.bind (·.graceEndsAt))
  cancelAtPeriodEnd :=
    (patch.cancelAtPeriodEnd.or (existing.map (·.cancelAtPeriodEnd))).getD false
  environment := environment
  stripeCustomerId := patch.stripeCustomerId.or (existing.bind (·.stripeCustomerId))
  stripeSubscriptionId := patch.stripeSubscriptionId.or (existing.bind (·.stripeSubscriptionId))
  appStoreOriginalTransactionId := none
  lastEventAt := eventCreatedAt
  lastEventId := some eventId
  updatedAt := now

/-- The account after an event is merged into its Stripe source. -/
def AccountDocs.merge (config : WebhookConfig) (docs : AccountDocs) (event : StripeEventEnvelope)
    (patch : StripeSourcePatch) (now : Int) : AccountDocs :=
  let sources := { docs.sources with
    stripe := some (mergeStripeSourceState docs.sources.stripe patch event.id
      (stripeEventCreatedAt event) config.environment now) }
  { docs with
    sources := sources
    entitlement := (applyEntitlement sources docs.entitlement now config.environment).1 }

/-- The ledger entry and the reverse map, written for every event that is not a duplicate. -/
def Store.recordEvent (store : Store) (uid : String) (event : StripeEventEnvelope)
    (customerId : Option String) : Store :=
  { store with
    stripeEvents := event.id :: store.stripeEvents
    stripeCustomers := match customerId with
      | some customerId => Function.update store.stripeCustomers customerId (some uid)
      | none => store.stripeCustomers }

/-- An event that is older than the one applied last. -/
def AccountDocs.Stale (docs : AccountDocs) (event : StripeEventEnvelope) : Prop :=
  ∃ existing ∈ docs.sources.stripe, stripeEventCreatedAt event < existing.lastEventAt

instance (docs : AccountDocs) (event : StripeEventEnvelope) : Decidable (docs.Stale event) :=
  inferInstanceAs (Decidable (∃ existing ∈ docs.sources.stripe, _))

/-- `applyStripeEvent`, one transaction. -/
def applyStripeEvent (config : WebhookConfig) (store : Store) (uid : String)
    (event : StripeEventEnvelope) (patch : StripeSourcePatch) (customerId : Option String)
    (now : Int) : Store × OutcomeCode :=
  let docs := store.accounts uid
  if ¬ docs.Live then (store, .deletedAccount)
  else if event.id ∈ store.stripeEvents then (store, .duplicate)
  else
    let recorded := store.recordEvent uid event customerId
    if docs.Stale event then (recorded, .stale)
    else
      ({ recorded with
          accounts := Function.update store.accounts uid (docs.merge config event patch now) },
        .applied)

/-- `handleStripeWebhook`, after the signature has been verified. -/
def handleStripeWebhook (config : WebhookConfig) (store : Store) (event : StripeEventEnvelope)
    (now : Int) : Store × OutcomeCode :=
  match interpretStripeEvent event config.graceFallbackDays with
  | .ignored _ => (store, .ignored)
  | .apply account patch =>
    match resolveUid store account with
    | none => (store, .unresolvedAccount)
    | some uid => applyStripeEvent config store uid event patch account.customerId now

/-- A delivery: an event, and the time at which it arrives. -/
abbrev Delivery : Type := StripeEventEnvelope × Int

/-- The deliveries of a history, one after the other. -/
def handleAll (config : WebhookConfig) (store : Store) (order : List Delivery) : Store :=
  order.foldl (fun store delivery =>
    (handleStripeWebhook config store delivery.1 delivery.2).1) store

variable (config : WebhookConfig) (store : Store)

@[simp] theorem handleAll_nil : handleAll config store [] = store := rfl

@[simp] theorem handleAll_cons (delivery : Delivery) (order : List Delivery) :
    handleAll config store (delivery :: order) =
      handleAll config (handleStripeWebhook config store delivery.1 delivery.2).1 order := rfl

theorem handleAll_append (first second : List Delivery) :
    handleAll config store (first ++ second) =
      handleAll config (handleAll config store first) second :=
  List.foldl_append

/-! ### The events of one account -/

/-- The account hint and the patch of an event. -/
abbrev Content : Type := StripeAccountHint × StripeSourcePatch

/-- What an event says, if it is not ignored. -/
def said (config : WebhookConfig) (event : StripeEventEnvelope) : Option Content :=
  match interpretStripeEvent event config.graceFallbackDays with
  | .ignored _ => none
  | .apply account patch => some (account, patch)

/-- The event is one of the account: it resolves to it, unless it is ignored. -/
def Belongs (config : WebhookConfig) (store : Store) (uid : String)
    (event : StripeEventEnvelope) : Prop :=
  ∀ content ∈ said config event, resolveUid store content.1 = some uid

instance (config : WebhookConfig) (store : Store) (uid : String) (event : StripeEventEnvelope) :
    Decidable (Belongs config store uid event) :=
  inferInstanceAs (Decidable
    (∀ content ∈ said config event, resolveUid store content.1 = some uid))

variable {event : StripeEventEnvelope} {now : Int} {config : WebhookConfig} {store : Store}
  {uid : String}

/-- **What a delivery does to the account it resolves to.** -/
theorem handle_eq (hbelongs : Belongs config store uid event) :
    handleStripeWebhook config store event now =
      match said config event with
      | none => (store, .ignored)
      | some content =>
        applyStripeEvent config store uid event content.2 content.1.customerId now := by
  rw [Belongs] at hbelongs
  rw [handleStripeWebhook]
  cases hinterpreted : interpretStripeEvent event config.graceFallbackDays with
  | ignored reason => simp only [said, hinterpreted]
  | apply account patch =>
    have hsaid : said config event = some (account, patch) := by simp only [said, hinterpreted]
    have hresolved := hbelongs _ hsaid
    simp only [hsaid, hresolved]

/-- Recording an event of the account keeps every event that resolves to the account. -/
theorem resolveUid_recordEvent {customerId : Option String} {account : StripeAccountHint}
    (h : resolveUid store account = some uid) :
    resolveUid (store.recordEvent uid event customerId) account = some uid := by
  rw [resolveUid, Option.or_eq_some_iff] at h ⊢
  refine h.imp_right fun ⟨hnone, hcustomer⟩ => ⟨hnone, ?_⟩
  cases customerId with
  | none => exact hcustomer
  | some customerId =>
    rw [Option.filter_eq_some_iff] at hcustomer ⊢
    refine ⟨?_, hcustomer.2⟩
    obtain ⟨id, hid, hmapped⟩ := Option.bind_eq_some_iff.mp hcustomer.1
    refine Option.bind_eq_some_iff.mpr ⟨id, hid, ?_⟩
    show update store.stripeCustomers customerId (some uid) id = some uid
    by_cases heq : id = customerId
    · rw [heq, update_self]
    · rw [update_of_ne heq, hmapped]

/-- The account that a delivery leaves behind, and what it does to the shared documents. -/
inductive Next (config : WebhookConfig) (store : Store) (uid : String)
    (event : StripeEventEnvelope) (now : Int) : Store → Prop where
  | ignored (hsaid : said config event = none) : Next config store uid event now store
  | duplicate (content : Content) (hsaid : said config event = some content)
      (hseen : event.id ∈ store.stripeEvents) : Next config store uid event now store
  | stale (content : Content) (hsaid : said config event = some content)
      (hnew : event.id ∉ store.stripeEvents) (hstale : (store.accounts uid).Stale event) :
      Next config store uid event now (store.recordEvent uid event content.1.customerId)
  | applied (content : Content) (hsaid : said config event = some content)
      (hnew : event.id ∉ store.stripeEvents) (hstale : ¬ (store.accounts uid).Stale event) :
      Next config store uid event now
        { store.recordEvent uid event content.1.customerId with
          accounts := Function.update store.accounts uid
            ((store.accounts uid).merge config event content.2 now) }

theorem next_of_handle (hlive : (store.accounts uid).Live)
    (hbelongs : Belongs config store uid event) :
    Next config store uid event now (handleStripeWebhook config store event now).1 := by
  rw [handle_eq hbelongs]
  cases hsaid : said config event with
  | none => exact .ignored hsaid
  | some content =>
    simp only [applyStripeEvent, hlive, not_true_eq_false, if_false]
    split_ifs with hseen hstale
    · exact .duplicate content hsaid hseen
    · exact .stale content hsaid hseen hstale
    · exact .applied content hsaid hseen hstale

section Next

variable {config : WebhookConfig} {store after : Store} {uid : String}
  {event : StripeEventEnvelope} {now : Int}

variable (h : Next config store uid event now after)

include h

theorem Next.live (hlive : (store.accounts uid).Live) : (after.accounts uid).Live := by
  cases h with
  | applied =>
    show (update store.accounts uid _ uid).Live
    rw [update_self]
    exact hlive
  | _ => exact hlive

theorem Next.belongs {other : StripeEventEnvelope}
    (hbelongs : Belongs config store uid other) : Belongs config after uid other := by
  cases h with
  | ignored => exact hbelongs
  | duplicate => exact hbelongs
  | stale => exact fun content hsaid => resolveUid_recordEvent (hbelongs content hsaid)
  | applied recorded =>
    intro content hsaid
    show resolveUid (store.recordEvent uid event recorded.1.customerId) content.1 = some uid
    exact resolveUid_recordEvent (hbelongs content hsaid)

/-- The ledger grows by the event at most. -/
theorem Next.seen {id : String}
    (hid : id ∈ after.stripeEvents) : id = event.id ∨ id ∈ store.stripeEvents := by
  cases h with
  | ignored => exact .inr hid
  | duplicate => exact .inr hid
  | _ => exact List.mem_cons.mp hid

omit h

end Next

/-! ### The account as a log of partial updates -/

/-- The fields of the Stripe source that events say something about. -/
inductive Field where
  | status
  | currentPeriodEndsAt
  | graceEndsAt
  | cancelAtPeriodEnd
  | stripeCustomerId
  | stripeSubscriptionId

/-- The type of a field. -/
def Field.Value : Field → Type
  | .status => SourceStatus
  | .currentPeriodEndsAt => Option Int
  | .graceEndsAt => Option Int
  | .cancelAtPeriodEnd => Bool
  | .stripeCustomerId => Option String
  | .stripeSubscriptionId => Option String

/-- The values of a Stripe source; those of a missing one are what merging assumes. -/
def fieldsOf (source : Option BilledSourceState) : Fields Field.Value
  | .status => (source.map (·.status)).getD .expired
  | .currentPeriodEndsAt => source.bind (·.currentPeriodEndsAt)
  | .graceEndsAt => source.bind (·.graceEndsAt)
  | .cancelAtPeriodEnd => (source.map (·.cancelAtPeriodEnd)).getD false
  | .stripeCustomerId => source.bind (·.stripeCustomerId)
  | .stripeSubscriptionId => source.bind (·.stripeSubscriptionId)

/-- A patch, field by field. -/
def StripeSourcePatch.patch (patch : StripeSourcePatch) : Patch Field.Value
  | .status => patch.status
  | .currentPeriodEndsAt => patch.currentPeriodEndsAt
  | .graceEndsAt => patch.graceEndsAt
  | .cancelAtPeriodEnd => patch.cancelAtPeriodEnd
  | .stripeCustomerId => patch.stripeCustomerId.map some
  | .stripeSubscriptionId => patch.stripeSubscriptionId.map some

/-- An event as an update, if it is not ignored. -/
def update? (config : WebhookConfig) (event : StripeEventEnvelope) :
    Option (Event String Field.Value) :=
  (said config event).map fun content => ⟨event.id, stripeEventCreatedAt event, content.2.patch⟩

/-- The Stripe source of an account, with the ledger. -/
def logOf (store : Store) (uid : String) : Log String Field.Value where
  seen := store.stripeEvents
  watermark := (store.accounts uid).sources.stripe.map (·.lastEventAt)
  fields := fieldsOf (store.accounts uid).sources.stripe

/-- Merging is laying the patch over the values. -/
theorem fieldsOf_merge (existing : Option BilledSourceState) (patch : StripeSourcePatch)
    (eventId : String) (eventCreatedAt : Int) (environment : BillingEnvironment) (now : Int) :
    fieldsOf (some (mergeStripeSourceState existing patch eventId eventCreatedAt environment
      now)) = patch.patch.onto (fieldsOf existing) := by
  rcases patch with ⟨status, periodEnd, graceEnd, cancel, customer, subscription⟩
  funext f
  cases f with
  | status => cases status <;> rfl
  | currentPeriodEndsAt => rfl
  | graceEndsAt => rfl
  | cancelAtPeriodEnd => cases cancel <;> rfl
  | stripeCustomerId => cases customer <;> rfl
  | stripeSubscriptionId => cases subscription <;> rfl

theorem older_logOf :
    (logOf store uid).Older (stripeEventCreatedAt event) ↔ (store.accounts uid).Stale event := by
  constructor
  · rintro ⟨newest, hnewest, hlt⟩
    obtain ⟨existing, hexisting, rfl⟩ := Option.map_eq_some_iff.mp hnewest
    exact ⟨existing, hexisting, hlt⟩
  · rintro ⟨existing, hexisting, hlt⟩
    exact ⟨existing.lastEventAt, Option.map_eq_some_iff.mpr ⟨existing, hexisting, rfl⟩, hlt⟩

theorem Next.logOf_eq {after : Store} (h : Next config store uid event now after) :
    logOf after uid = ((update? config event).toList).foldl deliver (logOf store uid) := by
  cases h with
  | ignored hsaid => rw [update?, hsaid]; rfl
  | duplicate content hsaid hseen =>
    rw [update?, hsaid]
    exact (deliver_seen hseen).symm
  | stale content hsaid hnew hstale =>
    have hdropped := @deliver_older _ _ _ ⟨event.id, stripeEventCreatedAt event, content.2.patch⟩ _
      (logOf store uid) hnew (older_logOf.mpr hstale)
    rw [update?, hsaid]
    exact hdropped.symm
  | applied content hsaid hnew hstale =>
    rw [update?, hsaid]
    refine Eq.trans ?_ (@deliver_applied _ _ _
      ⟨event.id, stripeEventCreatedAt event, content.2.patch⟩ _ (logOf store uid) hnew
      (older_logOf.not.mpr hstale)).symm
    have hdocs : update store.accounts uid
        ((store.accounts uid).merge config event content.2 now) uid =
        (store.accounts uid).merge config event content.2 now := update_self ..
    simp only [logOf, hdocs]
    rw [← fieldsOf_merge _ _ event.id (stripeEventCreatedAt event) config.environment now]
    rfl

/-- The updates that a history of deliveries carries. -/
def updates (config : WebhookConfig) (order : List Delivery) : List (Event String Field.Value) :=
  order.filterMap fun delivery => update? config delivery.1

/-- The events are those of one live account: each of them resolves to it in the stored state, by
its own metadata or by a customer that is mapped already. An event that only another one would make
resolve is dropped when it comes first. Deliveries of such events keep all this. -/
structure Serves (config : WebhookConfig) (store : Store) (uid : String)
    (events : List StripeEventEnvelope) : Prop where
  /-- the account exists and is not being deleted -/
  live : (store.accounts uid).Live
  belongs : ∀ event ∈ events, Belongs config store uid event

variable {events : List StripeEventEnvelope}

variable (h : Serves config store uid events)

include h

theorem Serves.next (hevent : event ∈ events) (now : Int) :
    Next config store uid event now (handleStripeWebhook config store event now).1 :=
  next_of_handle h.live (h.belongs event hevent)

theorem Serves.handle (hevent : event ∈ events) (now : Int) :
    Serves config (handleStripeWebhook config store event now).1 uid events :=
  ⟨(h.next hevent now).live h.live,
    fun other hother => (h.next hevent now).belongs (h.belongs other hother)⟩

/-- **The deliveries of an account are those of a log.** -/
theorem logOf_handleAll {order : List Delivery} (horder : ∀ delivery ∈ order, delivery.1 ∈ events) :
    logOf (handleAll config store order) uid =
      deliverAll (logOf store uid) (updates config order) := by
  induction order generalizing store with
  | nil => rfl
  | cons delivery order ih =>
    have hevent := horder delivery List.mem_cons_self
    rw [handleAll_cons, ih (h.handle hevent delivery.2)
      fun other hother => horder other (List.mem_cons_of_mem _ hother),
      (h.next hevent delivery.2).logOf_eq, updates, updates, List.filterMap_cons]
    cases update? config delivery.1 <;> rfl

/-! ### An account to evaluate on -/

/-- The webhook of a staging project. -/
def stagingWebhook : WebhookConfig := ⟨14, .staging⟩

/-- Accounts that have not been billed, and nothing else. -/
def unbilledStore : Store where
  accounts := fun _ => ⟨false, true, ⟨none, none, none⟩, none⟩
  stripeEvents := []
  stripeCustomers := fun _ => none

/-- A subscription object of the account `user`. -/
def subscriptionFields (id status : String) : List (String × Json) :=
  [("id", .str id), ("customer", .str "cus_1"), ("status", .str status),
    ("current_period_end", .num 900), ("cancel_at_period_end", .bool false),
    ("metadata", .obj [("firebase_uid", .str "user")])]

end Kanna.Billing
