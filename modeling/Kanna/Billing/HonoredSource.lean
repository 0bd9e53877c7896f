import Kanna.Billing.Entitlement
import Mathlib

/-!
# Which source a record honors

Of the sources with the best status, `reduceEntitlement` honors the one with the latest period
end, and between equal ones it is to keep the source honored before
(`docs/specs/accounts-and-billing.md`). The comparator subtracts two ranks; for two unknown
period ends the difference is `NaN`, which is not `0`, and the rule about the source honored
before is never reached.

`compareSources_nonpos_iff` says when a source stays in front; the rest follows from it.
-/

namespace Kanna.Billing

/-- `periodRank`: `-∞` if there is no period end, or one that is not a date. -/
def BilledSourceState.periodRank (state : BilledSourceState) : WithBot Int :=
  match state.currentPeriodEndsAt with
  | none => ⊥
  | some time => time

/-- The stored record honors the source. -/
def WasHonored (previous : Option EntitlementRecord) (state : BilledSourceState) : Prop :=
  previous.map (·.source) = some (.billed state.source)

instance (previous : Option EntitlementRecord) (state : BilledSourceState) :
    Decidable (WasHonored previous state) :=
  inferInstanceAs (Decidable (_ = _))

/-- The source to honor: of the best status, with the latest period end, and the one honored
before if it is one of these. -/
structure Honors (sources : BillingSourceSnapshot) (previous : Option EntitlementRecord)
    (honored : BilledSourceState) : Prop where
  best : honored ∈ candidates sources.billed
  latest : ∀ other ∈ candidates sources.billed, other.periodRank ≤ honored.periodRank ∧
    (other.periodRank = honored.periodRank → WasHonored previous other →
      WasHonored previous honored)

/-- The record says what the sources say, and is the same when it is derived again. -/
def Settled (sources : BillingSourceSnapshot) (previous : Option EntitlementRecord) (now : Int)
    (defaultEnvironment : BillingEnvironment) : Prop :=
  (∀ record, reduceEntitlement sources previous now defaultEnvironment = some record →
    ∀ later, reduceEntitlement sources (some record) later defaultEnvironment =
      some { record with updatedAt := later }) ∧
  (isCompActive sources.comp = true → ∃ record,
    reduceEntitlement sources previous now defaultEnvironment = some record ∧
      record.status = .active) ∧
  (isCompActive sources.comp = false → sources.billed ≠ [] → ∃ honored,
    reduceEntitlement sources previous now defaultEnvironment =
      some (billedEntitlement sources honored now) ∧ Honors sources previous honored)

/-- Two sources hold the best status, neither has a known period end, and the second one was
honored. -/
def Unordered (sources : BillingSourceSnapshot) (previous : Option EntitlementRecord) : Prop :=
  isCompActive sources.comp = false ∧ ∃ first second,
    candidates sources.billed = [first, second] ∧ first.periodRank = ⊥ ∧
      second.periodRank = ⊥ ∧ ¬ WasHonored previous first ∧ WasHonored previous second

variable {sources : BillingSourceSnapshot} {previous : Option EntitlementRecord}
  {left right : BilledSourceState}

/-- When the comparator lets the first source stay in front. -/
theorem compareSources_nonpos_iff : compareSources previous left right ≤ 0 ↔
    right.periodRank < left.periodRank ∨ right.periodRank = left.periodRank ∧
      (left.periodRank = ⊥ ∨ WasHonored previous left ∨
        ¬ WasHonored previous right ∧ sourceOrder left.source ≤ sourceOrder right.source) := by
  rw [compareSources, BilledSourceState.periodRank, BilledSourceState.periodRank]
  cases left.currentPeriodEndsAt with
  | none => cases right.currentPeriodEndsAt <;> simp
  | some leftEnd =>
    cases right.currentPeriodEndsAt with
    | none => simp
    | some rightEnd =>
      simp only [WithBot.coe_lt_coe, WithBot.coe_inj, WithBot.coe_ne_bot, false_or]
      obtain rfl | hne := eq_or_ne rightEnd leftEnd
      · simp only [sub_self, ne_eq, not_true, if_false, lt_irrefl, false_or, true_and]
        by_cases hleft : WasHonored previous left
        · refine iff_of_true ?_ (.inl hleft)
          by_cases hright : WasHonored previous right
          · -- two sources that were both honored are the same one
            have hsame : left.source = right.source := by simpa using hleft.symm.trans hright
            rw [if_neg fun h => h.2 hright, if_neg fun h => h.2 hleft, hsame, sub_self]
          · rw [if_pos ⟨hleft, hright⟩]
            decide
        · rw [if_neg fun h => hleft h.1, or_iff_right hleft]
          by_cases hright : WasHonored previous right
          · rw [if_pos ⟨hright, hleft⟩]
            exact iff_of_false (by decide) fun h => h.1 hright
          · rw [if_neg fun h => hright h.1, sub_nonpos, and_iff_right hright]
      · simp [sub_ne_zero.mpr hne, hne]
        omega

/-- Sorting two candidates. -/
theorem pickHonoredSource_pair : pickHonoredSource [left, right] previous =
    some (if compareSources previous left right ≤ 0 then left else right) := by
  simp only [pickHonoredSource, List.insertionSort_cons, List.insertionSort_nil,
    List.orderedInsert_nil, List.orderedInsert_cons]
  split_ifs <;> rfl

theorem candidates_cases (h : sources.billed ≠ []) :
    (∃ state, candidates sources.billed = [state]) ∨
      ∃ first second, candidates sources.billed = [first, second] := by
  rw [BillingSourceSnapshot.billed] at h ⊢
  generalize sources.stripe = stripe, sources.appStore = appStore at h ⊢
  cases stripe with
  | none =>
    cases appStore with
    | none => exact absurd rfl h
    | some appStore => exact .inl ⟨appStore, by simp [candidates]⟩
  | some stripe =>
    cases appStore with
    | none => exact .inl ⟨stripe, by simp [candidates]⟩
    | some appStore =>
      simp only [candidates, Option.toList_some, List.singleton_append, List.map_cons,
        List.map_nil, List.max?_cons, List.max?_nil, List.filter_cons, List.filter_nil]
      split_ifs with hfirst hsecond hsecond
      · exact .inr ⟨stripe, appStore, rfl⟩
      · exact .inl ⟨stripe, rfl⟩
      · exact .inl ⟨appStore, rfl⟩
      · simp at hfirst hsecond
        omega

variable {now : Int} {defaultEnvironment : BillingEnvironment}

theorem reduceEntitlement_billed (hcomp : isCompActive sources.comp = false)
    (h : sources.billed ≠ []) : reduceEntitlement sources previous now defaultEnvironment =
      (pickHonoredSource (candidates sources.billed) previous).map fun honored =>
        billedEntitlement sources honored now := by
  rw [reduceEntitlement, if_neg (Bool.eq_false_iff.mp hcomp), if_neg h]

/-- The source that is picked is picked again, and it is the right one unless the ranks cannot
be subtracted. -/
theorem pickHonoredSource_spec (h : sources.billed ≠ []) :
    ∃ honored, pickHonoredSource (candidates sources.billed) previous = some honored ∧
      (∀ record, WasHonored (some record) honored →
        pickHonoredSource (candidates sources.billed) (some record) = some honored) ∧
      (isCompActive sources.comp = false → ¬ Unordered sources previous →
        Honors sources previous honored) := by
  obtain ⟨state, heq⟩ | ⟨first, second, heq⟩ := candidates_cases h
  · rw [heq]
    refine ⟨state, rfl, fun _ _ => rfl, fun _ _ => ?_⟩
    constructor <;> simp [heq]
  · rw [heq]
    simp only [pickHonoredSource_pair, compareSources_nonpos_iff, Option.some.injEq]
    split_ifs with hfirst
    · refine ⟨first, rfl, fun record hhonored => if_pos ?_, fun hcomp hordered => ⟨?_, ?_⟩⟩
      · exact hfirst.imp_right fun hsame => ⟨hsame.1, .inr (.inl hhonored)⟩
      · exact heq ▸ List.mem_cons_self
      · simp only [heq, List.forall_mem_cons, List.not_mem_nil, false_imp_iff, implies_true,
          and_true]
        refine ⟨⟨le_rfl, fun _ => id⟩, ?_, fun hsame hwas => ?_⟩
        · exact hfirst.elim le_of_lt fun hsame => hsame.1.le
        obtain hlt | ⟨-, hbot | hhonored | ⟨hnot, -⟩⟩ := hfirst
        · exact absurd hsame hlt.ne
        · by_contra hnot
          exact hordered ⟨hcomp, first, second, heq, hbot, hsame.trans hbot, hnot, hwas⟩
        · exact hhonored
        · exact absurd hwas hnot
    · rw [not_or] at hfirst
      refine ⟨second, rfl, fun record hhonored => if_neg ?_, fun _ _ => ⟨?_, ?_⟩⟩
      · rintro (hlater | ⟨hsame, hbot | hboth | ⟨hnot, -⟩⟩)
        · exact hfirst.1 hlater
        · exact hfirst.2 ⟨hsame, .inl hbot⟩
        · -- two sources that are both honored are the same one
          have hsource : first.source = second.source := by simpa using hboth.symm.trans hhonored
          rw [WasHonored, WasHonored, hsource] at hfirst
          exact hfirst.2 ⟨hsame, .inr (or_iff_not_imp_left.mpr fun hnot => ⟨hnot, le_rfl⟩)⟩
        · exact hnot hhonored
      · simp [heq]
      · simp only [heq, List.forall_mem_cons, List.not_mem_nil, false_imp_iff, implies_true,
          and_true]
        refine ⟨⟨not_lt.mp hfirst.1, fun hsame hwas => ?_⟩, le_rfl, fun _ => id⟩
        exact absurd ⟨hsame.symm, .inr (.inl hwas)⟩ hfirst.2

/-- Of two unknown period ends the first source stays in front. -/
theorem not_settled_of_unordered (h : Unordered sources previous) :
    ¬ Settled sources previous now defaultEnvironment := by
  obtain ⟨hcomp, first, second, heq, hfirst, hsecond, hnot, hwas⟩ := h
  rintro ⟨-, -, hhonors⟩
  have hbilled : sources.billed ≠ [] := by
    intro hnil
    rw [hnil] at heq
    cases heq
  have hstays : compareSources previous first second ≤ 0 :=
    compareSources_nonpos_iff.mpr (.inr ⟨hsecond.trans hfirst.symm, .inl hfirst⟩)
  obtain ⟨honored, hreduce, -, hrules⟩ := hhonors hcomp hbilled
  rw [reduceEntitlement_billed hcomp hbilled, heq, pickHonoredSource_pair, if_pos hstays] at hreduce
  have hrecord := Option.some.inj hreduce
  have hsource : EntitlementSource.billed first.source = .billed honored.source :=
    congrArg EntitlementRecord.source hrecord
  have hends : first.currentPeriodEndsAt = honored.currentPeriodEndsAt :=
    congrArg EntitlementRecord.currentPeriodEndsAt hrecord
  have hsame : second.periodRank = honored.periodRank := by
    rw [hsecond, ← hfirst, BilledSourceState.periodRank, BilledSourceState.periodRank, hends]
  have hkept := (hrules second (by simp [heq])).2 hsame hwas
  exact hnot (hkept.trans (congrArg some hsource.symm))

/-- **The honored source is the right one, and stays**, exactly if the period ends of two equal
sources are not both unknown with the second source honored. -/
theorem reduceEntitlement_settled_iff (sources : BillingSourceSnapshot)
    (previous : Option EntitlementRecord) (now : Int) (defaultEnvironment : BillingEnvironment) :
    Settled sources previous now defaultEnvironment ↔ ¬ Unordered sources previous := by
  refine ⟨fun h hunordered => not_settled_of_unordered hunordered h, fun hordered => ?_⟩
  refine ⟨fun record hrecord later => ?_, fun hcomp => ⟨_, if_pos hcomp, rfl⟩,
    fun hcomp hbilled => ?_⟩
  · by_cases hcomp : isCompActive sources.comp = true
    · rw [reduceEntitlement, if_pos hcomp] at hrecord ⊢
      cases hrecord
      rfl
    by_cases hbilled : sources.billed = []
    · rw [reduceEntitlement, if_neg hcomp, if_pos hbilled] at hrecord ⊢
      obtain ⟨record, -, rfl⟩ := Option.map_eq_some_iff.mp hrecord
      rfl
    · have hinactive := Bool.eq_false_iff.mpr hcomp
      obtain ⟨honored, hpick, hagain, -⟩ := pickHonoredSource_spec hbilled
      rw [reduceEntitlement_billed hinactive hbilled] at hrecord ⊢
      rw [hpick] at hrecord
      cases hrecord
      rw [hagain (billedEntitlement sources honored now) rfl]
      rfl
  · obtain ⟨honored, hpick, -, hhonors⟩ := pickHonoredSource_spec hbilled
    refine ⟨honored, ?_, hhonors hcomp hordered⟩
    rw [reduceEntitlement_billed hcomp hbilled, hpick, Option.map_some]

/-- A source without a period end. -/
def unknownEnd (source : BilledSourceId) : BilledSourceState :=
  ⟨source, .active, none, none, false, .production, none, none, none, 0, none, 0⟩

/-- The App Store source was honored, and the record goes over to Stripe. -/
theorem reduceEntitlement_unsettled :
    let sources : BillingSourceSnapshot := ⟨unknownEnd .stripe, unknownEnd .appStore, none⟩
    ¬ Settled sources (billedEntitlement sources (unknownEnd .appStore) 0) 1 .production :=
  not_settled_of_unordered ⟨rfl, unknownEnd .stripe, unknownEnd .appStore, by decide, rfl, rfl,
    by decide, rfl⟩

end Kanna.Billing
