import Mathlib.Data.List.Sort
import Kanna.Billing.StripeEvents

/-!
# The entitlement reducer

Every billing source writes its own document, and `reduceEntitlement` derives the one record
that grants access from all of them (`entitlement.ts`).
-/

namespace Kanna.Billing

/-- `BilledSourceId`. -/
inductive BilledSourceId where
  | stripe
  | appStore
  deriving DecidableEq

/-- What an entitlement comes from. -/
inductive EntitlementSource where
  | billed (source : BilledSourceId)
  | comp
  | freeBeta
  | grandfathered
  | promo
  deriving DecidableEq

/-- Where the bill was made out. -/
inductive BillingEnvironment where
  | production
  | sandbox
  | staging
  deriving DecidableEq

/-- `BilledSourceState`, with `lastEventAt` and `updatedAt` as times. A period end that is missing
or does not parse is `none`: both rank as `-∞`. -/
structure BilledSourceState where
  source : BilledSourceId
  status : SourceStatus
  currentPeriodEndsAt : Option Int
  graceEndsAt : Option Int
  cancelAtPeriodEnd : Bool
  environment : BillingEnvironment
  stripeCustomerId : Option String
  stripeSubscriptionId : Option String
  appStoreOriginalTransactionId : Option String
  /-- the created time of the event applied last -/
  lastEventAt : Int
  /-- its id -/
  lastEventId : Option String
  updatedAt : Int
  deriving DecidableEq

/-- `CloudAccessCapability`. -/
inductive CloudAccessCapability where
  | cloudRelay
  | cloudTaskIndex
  | remoteTaskControl
  deriving DecidableEq

/-- `CLOUD_ACCESS_CAPABILITIES`. -/
def cloudAccessCapabilities : List CloudAccessCapability :=
  [.cloudRelay, .cloudTaskIndex, .remoteTaskControl]

/-- The entitlement of an account, as it is stored. -/
structure EntitlementRecord where
  status : SourceStatus
  /-- the source that is honored -/
  source : EntitlementSource
  capabilities : List CloudAccessCapability
  currentPeriodEndsAt : Option Int
  graceEndsAt : Option Int
  stripeCustomerId : Option String
  stripeSubscriptionId : Option String
  appStoreOriginalTransactionId : Option String
  duplicateSources : Bool
  environment : BillingEnvironment
  /-- when it was derived -/
  updatedAt : Int
  deriving DecidableEq

/-- `BillingSourceSnapshot`; of the comp source only `active` is read. -/
structure BillingSourceSnapshot where
  stripe : Option BilledSourceState
  appStore : Option BilledSourceState
  comp : Option Bool

/-- `STATUS_RANK`. -/
def statusRank : SourceStatus → Nat
  | .active => 3
  | .grace => 2
  | .expired => 1
  | .revoked => 0

/-- `isHonoredStatus`. -/
def isHonoredStatus : SourceStatus → Bool
  | .active => true
  | .grace => true
  | .expired => false
  | .revoked => false

/-- `isCompActive`. -/
def isCompActive (comp : Option Bool) : Bool := comp = some true

/-- Position in `BILLED_SOURCE_ORDER`. -/
def sourceOrder : BilledSourceId → Int
  | .stripe => 0
  | .appStore => 1

/-- The comparator of `pickHonoredSource`. A missing period end ranks as `-∞`; the difference
of two of them is `NaN`, which is not `0` and sorts as equal. -/
def compareSources (previous : Option EntitlementRecord) (left right : BilledSourceState) : Int :=
  match right.currentPeriodEndsAt, left.currentPeriodEndsAt with
  | none, none => 0
  | some _, none => 1
  | none, some _ => -1
  | some rightEnd, some leftEnd =>
    if rightEnd - leftEnd ≠ 0 then rightEnd - leftEnd
    else
      let leftWasHonored := previous.map (·.source) = some (.billed left.source)
      let rightWasHonored := previous.map (·.source) = some (.billed right.source)
      if leftWasHonored ∧ ¬ rightWasHonored then -1
      else if rightWasHonored ∧ ¬ leftWasHonored then 1
      else sourceOrder left.source - sourceOrder right.source

/-- `pickHonoredSource`; `none` is the thrown error for no candidates. -/
def pickHonoredSource (candidates : List BilledSourceState) (previous : Option EntitlementRecord) :
    Option BilledSourceState :=
  (candidates.insertionSort fun left right => compareSources previous left right ≤ 0).head?

/-- The billed sources, in `BILLED_SOURCE_ORDER`. -/
def BillingSourceSnapshot.billed (sources : BillingSourceSnapshot) : List BilledSourceState :=
  sources.stripe.toList ++ sources.appStore.toList

/-- The record of a complimentary grant. -/
def compEntitlement (sources : BillingSourceSnapshot) (now : Int)
    (defaultEnvironment : BillingEnvironment) : EntitlementRecord where
  status := .active
  source := .comp
  capabilities := cloudAccessCapabilities
  currentPeriodEndsAt := none
  graceEndsAt := none
  stripeCustomerId := sources.stripe.bind (·.stripeCustomerId)
  stripeSubscriptionId := sources.stripe.bind (·.stripeSubscriptionId)
  appStoreOriginalTransactionId := sources.appStore.bind (·.appStoreOriginalTransactionId)
  duplicateSources := false
  environment := defaultEnvironment
  updatedAt := now

/-- The record of an honored source. -/
def billedEntitlement (sources : BillingSourceSnapshot) (honored : BilledSourceState) (now : Int) :
    EntitlementRecord where
  status := honored.status
  source := .billed honored.source
  capabilities := if isHonoredStatus honored.status then cloudAccessCapabilities else []
  currentPeriodEndsAt := honored.currentPeriodEndsAt
  graceEndsAt := honored.graceEndsAt
  stripeCustomerId := sources.stripe.bind (·.stripeCustomerId)
  stripeSubscriptionId := sources.stripe.bind (·.stripeSubscriptionId)
  appStoreOriginalTransactionId := sources.appStore.bind (·.appStoreOriginalTransactionId)
  duplicateSources :=
    sources.billed.length > 1 && sources.billed.all fun state => isHonoredStatus state.status
  environment := honored.environment
  updatedAt := now

/-- The sources that hold the best status. -/
def candidates (billed : List BilledSourceState) : List BilledSourceState :=
  billed.filter fun state => some (statusRank state.status) =
    (billed.map fun state => statusRank state.status).max?

/-- `reduceEntitlement`. -/
def reduceEntitlement (sources : BillingSourceSnapshot) (previous : Option EntitlementRecord)
    (now : Int) (defaultEnvironment : BillingEnvironment) : Option EntitlementRecord :=
  if isCompActive sources.comp then some (compEntitlement sources now defaultEnvironment)
  else if sources.billed = [] then
    -- every source document is gone, and that is said rather than leaving a stale grant
    previous.map fun record =>
      { record with
        status := .expired
        capabilities := []
        currentPeriodEndsAt := none
        graceEndsAt := none
        stripeCustomerId := sources.stripe.bind (·.stripeCustomerId)
        stripeSubscriptionId := sources.stripe.bind (·.stripeSubscriptionId)
        appStoreOriginalTransactionId := sources.appStore.bind (·.appStoreOriginalTransactionId)
        duplicateSources := false
        updatedAt := now }
  else
    (pickHonoredSource (candidates sources.billed) previous).map fun honored =>
      billedEntitlement sources honored now

/-- The record without the time it was last changed at. -/
def EntitlementRecord.unstamped (record : EntitlementRecord) : EntitlementRecord :=
  { record with updatedAt := 0 }

/-- Equal but for the `updatedAt` stamp. -/
def EntitlementRecord.SameButStamp (left right : EntitlementRecord) : Prop :=
  left.unstamped = right.unstamped

instance (left right : EntitlementRecord) : Decidable (left.SameButStamp right) :=
  inferInstanceAs (Decidable (_ = _))

theorem EntitlementRecord.SameButStamp.status {left right : EntitlementRecord}
    (h : left.SameButStamp right) : left.status = right.status := by
  have hunstamped : left.unstamped = right.unstamped := h
  have hstatus := congrArg EntitlementRecord.status hunstamped
  exact hstatus

/-- `entitlementChanged`: a field-by-field comparison. -/
def entitlementChanged (previous : Option EntitlementRecord) (next : EntitlementRecord) : Bool :=
  ¬ ∃ record ∈ previous, record.SameButStamp next

/-- `applyEntitlement`: the record to store, which is the stored one if nothing changed, and
whether it is written. -/
def applyEntitlement (sources : BillingSourceSnapshot) (previous : Option EntitlementRecord)
    (now : Int) (defaultEnvironment : BillingEnvironment) : Option EntitlementRecord × Bool :=
  match reduceEntitlement sources previous now defaultEnvironment with
  | none => (previous, false)
  | some entitlement =>
    if entitlementChanged previous entitlement then (some entitlement, true) else (previous, false)

/-! ### Which source is honored -/

variable {billed : List BilledSourceState}

open List

/-- The candidates are the sources no source outranks. -/
theorem mem_candidates {state : BilledSourceState} :
    state ∈ candidates billed ↔
      state ∈ billed ∧ ∀ other ∈ billed, statusRank other.status ≤ statusRank state.status := by
  rw [candidates, mem_filter, decide_eq_true_iff, eq_comm, max?_eq_some_iff]
  constructor
  · rintro ⟨hmem, -, hmax⟩
    exact ⟨hmem, fun other hother => hmax _ (mem_map_of_mem hother)⟩
  · rintro ⟨hmem, hmax⟩
    refine ⟨hmem, mem_map_of_mem hmem, fun rank hrank => ?_⟩
    obtain ⟨other, hother, rfl⟩ := mem_map.mp hrank
    exact hmax other hother

theorem exists_mem_candidates (h : billed ≠ []) : ∃ state, state ∈ candidates billed := by
  obtain ⟨rank, hrank⟩ : ∃ rank, (billed.map fun state => statusRank state.status).max? =
      some rank := by
    rw [← Option.isSome_iff_exists, isSome_max?_iff]
    simpa using h
  obtain ⟨state, hmem, rfl⟩ := mem_map.mp (max?_eq_some_iff.mp hrank).1
  refine ⟨state, mem_candidates.mpr ⟨hmem, fun other hother => ?_⟩⟩
  exact (max?_eq_some_iff.mp hrank).2 _ (mem_map_of_mem hother)

/-- A source is picked, and it is one of the candidates. -/
theorem pickHonoredSource_mem (previous : Option EntitlementRecord) (h : billed ≠ []) :
    ∃ honored, pickHonoredSource (candidates billed) previous = some honored ∧
      honored ∈ candidates billed := by
  obtain ⟨state, hstate⟩ := exists_mem_candidates h
  have hsorted : state ∈ (candidates billed).insertionSort
      fun left right => compareSources previous left right ≤ 0 :=
    mem_insertionSort _ |>.mpr hstate
  cases hlist : (candidates billed).insertionSort
      fun left right => compareSources previous left right ≤ 0 with
  | nil => exact absurd (hlist ▸ hsorted) not_mem_nil
  | cons honored rest =>
    refine ⟨honored, by rw [pickHonoredSource, hlist, head?_cons], ?_⟩
    have hmem := mem_cons_self (a := honored) (l := rest)
    rw [← hlist] at hmem
    exact mem_insertionSort _ |>.mp hmem

theorem isHonoredStatus_iff {status : SourceStatus} :
    isHonoredStatus status = true ↔ 2 ≤ statusRank status := by
  cases status <;> decide

/-- Some source grants access: the comp source, or a billed one with an honored status. -/
def BillingSourceSnapshot.Grants (sources : BillingSourceSnapshot) : Prop :=
  isCompActive sources.comp = true ∨
    ∃ state ∈ sources.billed, isHonoredStatus state.status = true

variable {previous : Option EntitlementRecord} {defaultEnvironment : BillingEnvironment}

variable {sources : BillingSourceSnapshot}

/-- **The record grants access exactly if a source does.** -/
theorem status_reduceEntitlement {now : Int} (h : sources.billed ≠ []) :
    ∃ record, reduceEntitlement sources previous now defaultEnvironment = some record ∧
      (isHonoredStatus record.status = true ↔ sources.Grants) := by
  by_cases hcomp : isCompActive sources.comp = true
  · refine ⟨_, if_pos hcomp, ?_⟩
    exact iff_of_true rfl (.inl hcomp)
  · obtain ⟨honored, hpick, hmem⟩ := pickHonoredSource_mem previous h
    obtain ⟨hbilled, hbest⟩ := mem_candidates.mp hmem
    refine ⟨billedEntitlement sources honored now, ?_, ?_, ?_⟩
    · rw [reduceEntitlement, if_neg hcomp, if_neg h, hpick, Option.map_some]
    · exact fun hhonored => .inr ⟨honored, hbilled, hhonored⟩
    · rintro (hgrant | ⟨state, hstate, hhonored⟩)
      · exact absurd hgrant hcomp
      · have hrank := isHonoredStatus_iff.mp hhonored
        exact isHonoredStatus_iff.mpr (hrank.trans (hbest state hstate))

/-- **With Stripe as the only billed source the record is a function of it**, whatever was
stored before. -/
theorem reduceEntitlement_stripe_only {stripe : BilledSourceState} {comp : Option Bool}
    (previous : Option EntitlementRecord) (now : Int) (defaultEnvironment : BillingEnvironment) :
    reduceEntitlement ⟨some stripe, none, comp⟩ previous now defaultEnvironment =
      some (if isCompActive comp then compEntitlement ⟨some stripe, none, comp⟩ now
          defaultEnvironment
        else billedEntitlement ⟨some stripe, none, comp⟩ stripe now) := by
  by_cases hcomp : isCompActive comp = true
  · rw [reduceEntitlement, if_pos hcomp, if_pos hcomp]
  · obtain ⟨honored, hpick, hmem⟩ := pickHonoredSource_mem previous (cons_ne_nil stripe [])
    obtain rfl := mem_singleton.mp (mem_candidates.mp hmem).1
    have hbilled : (⟨some honored, none, comp⟩ : BillingSourceSnapshot).billed ≠ [] :=
      cons_ne_nil _ _
    rw [reduceEntitlement, if_neg hcomp, if_neg hcomp, if_neg hbilled]
    exact congrArg (Option.map _) hpick

/-- What is stored afterwards is the reduced record, but for its stamp. -/
theorem applyEntitlement_same {now : Int} {record : EntitlementRecord}
    (h : reduceEntitlement sources previous now defaultEnvironment = some record) :
    ∃ stored, (applyEntitlement sources previous now defaultEnvironment).1 = some stored ∧
      stored.SameButStamp record := by
  rw [applyEntitlement, h]
  dsimp only
  split_ifs with hchanged
  · exact ⟨record, rfl, rfl⟩
  · rw [entitlementChanged, decide_eq_true_iff, not_not] at hchanged
    exact hchanged

end Kanna.Billing
