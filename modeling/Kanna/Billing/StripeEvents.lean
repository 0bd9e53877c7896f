import Kanna.Lib.Json

/-!
# What a Stripe event says about the billing of an account

`stripeEvents.ts` translates a webhook event into a patch of the `billing/stripe` document.
Each kind of event knows some of the fields only: a checkout session knows the ids, an
invoice that failed knows the retry schedule but not the period.

Times are in milliseconds. The source writes them as ISO strings and sorts these as text,
which is the order of the times.
-/

namespace Kanna.Billing

/-- `EntitlementStatus`, also the status of a source. -/
inductive SourceStatus where
  | active
  | grace
  | expired
  | revoked
  deriving DecidableEq

/-- `StripeEventEnvelope`: `created` is in seconds, and `object` is `data.object`. -/
structure StripeEventEnvelope where
  id : String
  type : String
  created : Int
  object : List (String × Json)

/-- `StripeAccountHint`: what the event says about which account it belongs to. -/
structure StripeAccountHint where
  /-- the account that the metadata names -/
  uid : Option String
  customerId : Option String

/-- `StripeSourcePatch`. The outer `none` is an absent key; a `null` id counts as absent when
the patch is merged, so one `Option` is enough for the ids. -/
structure StripeSourcePatch where
  status : Option SourceStatus := none
  /-- `some none` is a `null` -/
  currentPeriodEndsAt : Option (Option Int) := none
  graceEndsAt : Option (Option Int) := none
  cancelAtPeriodEnd : Option Bool := none
  stripeCustomerId : Option String := none
  stripeSubscriptionId : Option String := none

/-- `StripeEventInterpretation`. -/
inductive StripeEventInterpretation where
  | ignored (reason : String)
  | apply (account : StripeAccountHint) (patch : StripeSourcePatch)

/-! ### The readers -/

/-- The fields of an object. -/
def readRecord (value : Option Json) : Option (List (String × Json)) := value.bind Json.record?

variable (object : List (String × Json))

/-- A string that is not empty. -/
def readString (key : String) : Option String :=
  (field object key).bind Json.text?

/-- A field that holds a boolean. -/
def readBoolean (key : String) : Option Bool :=
  (field object key).bind Json.bool?

/-- Unix seconds, as a time in milliseconds. -/
def readUnixSeconds (key : String) : Option Int :=
  ((field object key).bind Json.num?).map (· * 1000)

/-- A related object, as its id or expanded inline. -/
def readReferenceId : Option Json → Option String
  | some (.str value) => if value = "" then none else some value
  | value => (readRecord value).bind (readString · "id")

/-- The account that the metadata name. -/
def readMetadataUid : Option String :=
  (readRecord (field object "metadata")).bind (readString · "firebase_uid")

/-- The records of `object[key].data`. -/
def dataRecords (key : String) : List (List (String × Json)) :=
  let data := (readRecord (field object key)).bind fun record =>
    (field record "data").bind Json.array?
  (data.getD []).filterMap Json.record?

/-- The last of the times, in their order. -/
def latest (ends : List Int) : Option Int := ends.max?

/-- The end of the period, or the latest of the items' ends. -/
def readSubscriptionPeriodEnd : Option Int :=
  (readUnixSeconds object "current_period_end").or
    (latest ((dataRecords object "items").filterMap (readUnixSeconds · "current_period_end")))

/-- The subscription of an invoice, in either of two places. -/
def readInvoiceSubscriptionId : Option String :=
  (readReferenceId (field object "subscription")).or
    ((readRecord (field object "parent")).bind fun parent =>
      (readRecord (field parent "subscription_details")).bind fun details =>
        readReferenceId (field details "subscription"))

/-- The latest end of the invoice's lines. -/
def readInvoicePeriodEnd : Option Int :=
  latest ((dataRecords object "lines").filterMap fun line =>
    (readRecord (field line "period")).bind (readUnixSeconds · "end"))

/-- `addDays`. -/
def addDays (start : Option Int) (days : Nat) : Option Int :=
  start.map (· + days * (24 * 60 * 60 * 1000))

/-! ### The interpretation -/

/-- Stripe subscription status to source status; an unknown one is no evidence of access. -/
def mapSubscriptionStatus : String → SourceStatus
  | "active" => .active
  | "trialing" => .active
  | "past_due" => .grace
  | _ => .expired

/-- A checkout that is complete and paid, or needs no payment, makes the source active. -/
def interpretCheckoutSession : StripeEventInterpretation :=
  let account : StripeAccountHint :=
    ⟨(readString object "client_reference_id").or (readMetadataUid object),
      readReferenceId (field object "customer")⟩
  let ids : StripeSourcePatch :=
    { stripeCustomerId := account.customerId
      stripeSubscriptionId := readReferenceId (field object "subscription") }
  if readString object "status" = some "complete" ∧
      (readString object "payment_status" = some "paid" ∨
        readString object "payment_status" = some "no_payment_required") then
    .apply account { ids with status := some .active, graceEndsAt := some none }
  else .apply account ids

/-- A subscription event carries the whole state of the subscription. -/
def interpretSubscription (deleted : Bool) : StripeEventInterpretation :=
  let account : StripeAccountHint :=
    ⟨readMetadataUid object, readReferenceId (field object "customer")⟩
  let status : SourceStatus :=
    if deleted then .expired else mapSubscriptionStatus ((readString object "status").getD "")
  .apply account
    { status := some status
      currentPeriodEndsAt := some (readSubscriptionPeriodEnd object)
      cancelAtPeriodEnd := some ((readBoolean object "cancel_at_period_end").getD false)
      stripeCustomerId := account.customerId
      stripeSubscriptionId := readString object "id"
      -- grace is entered by the failing invoice; a subscription that is not past due leaves it
      graceEndsAt := if status = .grace then none else some none }

/-- A paid invoice makes the source active and ends the grace period. -/
def interpretInvoicePaid : StripeEventInterpretation :=
  match readInvoiceSubscriptionId object with
  | none => .ignored "invoice is not subscription-scoped"
  | some subscriptionId =>
    .apply ⟨readMetadataUid object, readReferenceId (field object "customer")⟩
      { status := some .active
        currentPeriodEndsAt := some (readInvoicePeriodEnd object)
        graceEndsAt := some none
        stripeCustomerId := readReferenceId (field object "customer")
        stripeSubscriptionId := some subscriptionId }

/-- A failed payment starts the grace period. -/
def interpretInvoiceFailed (graceFallbackDays : Nat) : StripeEventInterpretation :=
  match readInvoiceSubscriptionId object with
  | none => .ignored "invoice is not subscription-scoped"
  | some subscriptionId =>
    .apply ⟨readMetadataUid object, readReferenceId (field object "customer")⟩
      { status := some .grace
        graceEndsAt := some ((readUnixSeconds object "next_payment_attempt").or
          (addDays (readInvoicePeriodEnd object) graceFallbackDays))
        stripeCustomerId := readReferenceId (field object "customer")
        stripeSubscriptionId := some subscriptionId }

/-- What an event means, by its type. -/
def interpretStripeEvent (event : StripeEventEnvelope) (graceFallbackDays : Nat) :
    StripeEventInterpretation :=
  match event.type with
  | "checkout.session.completed" => interpretCheckoutSession event.object
  | "customer.subscription.created" => interpretSubscription event.object false
  | "customer.subscription.updated" => interpretSubscription event.object false
  | "customer.subscription.deleted" => interpretSubscription event.object true
  | "invoice.paid" => interpretInvoicePaid event.object
  | "invoice.payment_failed" => interpretInvoiceFailed event.object graceFallbackDays
  | type => .ignored ("unhandled event type " ++ type)

/-- `stripeEventCreatedAt`. -/
def stripeEventCreatedAt (event : StripeEventEnvelope) : Int := event.created * 1000

end Kanna.Billing
