import Mathlib.Data.List.MinMax

/-!
# Partial updates behind a watermark

Events carry a stamp and say something about some fields of a record. A log applies an
event once, and only if it is not older than the newest event applied so far: an older event
is dropped as a whole, together with what only it knows.

* `fields_of_newest` — what the newest event says is what the record holds in the end.
* `fields_of_silent` — a field about which nothing new is ever said stays.
* `order_independent_iff` — the order of the deliveries is irrelevant exactly if the newest
  event says something about every field about which anything new is said.
-/

namespace Kanna.Watermark

variable {ι φ : Type} {β : φ → Type}

/-- The values of a record, field by field. -/
abbrev Fields (β : φ → Type) : Type := ∀ f, β f

/-- What an event says, field by field. -/
abbrev Patch (β : φ → Type) : Type := ∀ f, Option (β f)

/-- The fields an event says nothing about keep their value. -/
def Patch.onto (patch : Patch β) (fields : Fields β) : Fields β :=
  fun f => (patch f).getD (fields f)

/-- An event: its id, when it was made, and what it sets. -/
structure Event (ι : Type) (β : φ → Type) where
  id : ι
  stamp : Int
  patch : Patch β

/-- The events seen, the newest stamp applied, and the fields. -/
structure Log (ι : Type) (β : φ → Type) where
  seen : List ι
  watermark : Option Int
  fields : Fields β

/-- The event is older than the newest one applied. -/
def Log.Older (log : Log ι β) (stamp : Int) : Prop := ∃ newest ∈ log.watermark, stamp < newest

instance (log : Log ι β) (stamp : Int) : Decidable (log.Older stamp) :=
  inferInstanceAs (Decidable (∃ newest ∈ log.watermark, stamp < newest))

/-- One delivery of an event. -/
def deliver [DecidableEq ι] (log : Log ι β) (event : Event ι β) : Log ι β :=
  if event.id ∈ log.seen then log
  else if log.Older event.stamp then { log with seen := event.id :: log.seen }
  else ⟨event.id :: log.seen, some event.stamp, event.patch.onto log.fields⟩

variable {event : Event ι β}

open List

/-- One of finitely many events is the newest. -/
theorem exists_newest {events : List (Event ι β)} (hmem : event ∈ events) :
    ∃ newest ∈ events, ∀ other ∈ events, other.stamp ≤ newest.stamp := by
  obtain ⟨newest, hnewest⟩ : ∃ newest, newest ∈ argmax Event.stamp events := by
    cases hmax : argmax Event.stamp events with
    | none => exact absurd (argmax_eq_none.mp hmax ▸ hmem) not_mem_nil
    | some newest => exact ⟨newest, rfl⟩
  exact ⟨newest, argmax_mem hnewest, fun other hother => le_of_mem_argmax hother hnewest⟩

variable {stamp : Int}

variable [DecidableEq ι]

/-- A sequence of deliveries. -/
def deliverAll (log : Log ι β) (order : List (Event ι β)) : Log ι β := order.foldl deliver log

variable (log : Log ι β)

@[simp] theorem deliverAll_nil : deliverAll log [] = log := rfl

@[simp] theorem deliverAll_cons (event : Event ι β) (order : List (Event ι β)) :
    deliverAll log (event :: order) = deliverAll (deliver log event) order := rfl

theorem deliverAll_append (first second : List (Event ι β)) :
    deliverAll log (first ++ second) = deliverAll (deliverAll log first) second :=
  foldl_append

/-! ### One delivery -/

theorem deliver_seen {log : Log ι β} (h : event.id ∈ log.seen) : deliver log event = log := if_pos h

theorem deliver_older {log : Log ι β} (hnew : event.id ∉ log.seen) (h : log.Older event.stamp) :
    deliver log event = { log with seen := event.id :: log.seen } := by
  rw [deliver, if_neg hnew, if_pos h]

theorem deliver_applied {log : Log ι β} (hnew : event.id ∉ log.seen) (h : ¬ log.Older event.stamp) :
    deliver log event = ⟨event.id :: log.seen, some event.stamp, event.patch.onto log.fields⟩ := by
  rw [deliver, if_neg hnew, if_neg h]

/-- A delivery of the event changes nothing any more. -/
def Log.Settled (log : Log ι β) (event : Event ι β) : Prop :=
  event.id ∈ log.seen ∨ log.Older event.stamp

theorem mem_seen_deliver {log : Log ι β} {id : ι} :
    id ∈ (deliver log event).seen ↔ id = event.id ∨ id ∈ log.seen := by
  by_cases hseen : event.id ∈ log.seen
  · rw [deliver_seen hseen]
    constructor
    · exact .inr
    · rintro (rfl | h)
      · exact hseen
      · exact h
  · by_cases holder : log.Older event.stamp
    · rw [deliver_older hseen holder, mem_cons]
    · rw [deliver_applied hseen holder, mem_cons]

/-- The watermark only rises. -/
theorem Log.Older.deliver {log : Log ι β}
    (h : log.Older stamp) : (deliver log event).Older stamp := by
  by_cases hseen : event.id ∈ log.seen
  · rw [deliver_seen hseen]
    exact h
  · by_cases holder : log.Older event.stamp
    · rw [deliver_older hseen holder]
      exact h
    · rw [deliver_applied hseen holder]
      obtain ⟨newest, hnewest, hlt⟩ := h
      have hle : newest ≤ event.stamp := by
        by_contra hgt
        exact holder ⟨newest, hnewest, by omega⟩
      exact ⟨event.stamp, rfl, by omega⟩

theorem Log.Settled.deliver {log : Log ι β} {other : Event ι β} (h : log.Settled event) :
    (deliver log other).Settled event :=
  h.imp (fun hseen => mem_seen_deliver.mpr (.inr hseen)) Older.deliver

theorem fields_deliver_settled {log : Log ι β} (h : log.Settled event) :
    (deliver log event).fields = log.fields := by
  by_cases hseen : event.id ∈ log.seen
  · rw [deliver_seen hseen]
  · rw [deliver_older hseen (h.resolve_left hseen)]

/-- A stamp that becomes older than the watermark is older than the event just delivered. -/
theorem older_of_older_deliver {log : Log ι β}
    (h : (deliver log event).Older stamp) : log.Older stamp ∨ stamp < event.stamp := by
  by_cases hseen : event.id ∈ log.seen
  · rw [deliver_seen hseen] at h
    exact .inl h
  · by_cases holder : log.Older event.stamp
    · rw [deliver_older hseen holder] at h
      exact .inl h
    · rw [deliver_applied hseen holder] at h
      obtain ⟨newest, hnewest, hlt⟩ := h
      obtain rfl := Option.some.inj hnewest
      exact .inr hlt

/-! ### Sequences of deliveries -/

variable {order : List (Event ι β)}

theorem fields_deliverAll_settled {log : Log ι β}
    (h : ∀ event ∈ order, log.Settled event) : (deliverAll log order).fields = log.fields := by
  induction order generalizing log with
  | nil => rfl
  | cons event order ih =>
    have hrest : ∀ other ∈ order, (deliver log event).Settled other :=
      fun other hother => (h other (mem_cons_of_mem _ hother)).deliver
    rw [deliverAll_cons, ih hrest]
    exact fields_deliver_settled (h event mem_cons_self)

theorem mem_seen_deliverAll {log : Log ι β} {id : ι} :
    id ∈ (deliverAll log order).seen ↔ (∃ event ∈ order, event.id = id) ∨ id ∈ log.seen := by
  induction order generalizing log with
  | nil => simp
  | cons event order ih =>
    rw [deliverAll_cons, ih, mem_seen_deliver, exists_mem_cons_iff]
    constructor
    · rintro (h | rfl | h)
      · exact .inl (.inr h)
      · exact .inl (.inl rfl)
      · exact .inr h
    · rintro ((rfl | h) | h)
      · exact .inr (.inl rfl)
      · exact .inl h
      · exact .inr (.inr h)

theorem older_of_older_deliverAll {log : Log ι β} (h : (deliverAll log order).Older stamp) :
    log.Older stamp ∨ ∃ event ∈ order, stamp < event.stamp := by
  induction order generalizing log with
  | nil => exact .inl h
  | cons event order ih =>
    rcases ih h with hdelivered | ⟨other, hother, hlt⟩
    · exact (older_of_older_deliver hdelivered).imp_right fun hlt => ⟨event, mem_cons_self, hlt⟩
    · exact .inr ⟨other, mem_cons_of_mem _ hother, hlt⟩

/-- **A field about which nothing new is said stays.** Events that are older than the
watermark to begin with may say what they like. -/
theorem fields_of_silent {log : Log ι β} {f : φ} (h : ∀ event ∈ order, ¬ log.Older event.stamp →
      ∀ value, event.patch f = some value → value = log.fields f) :
    (deliverAll log order).fields f = log.fields f := by
  induction order generalizing log with
  | nil => rfl
  | cons event order ih =>
    have hkept : (deliver log event).fields f = log.fields f := by
      by_cases hsettled : log.Settled event
      · rw [fields_deliver_settled hsettled]
      · obtain ⟨hnew, holder⟩ := not_or.mp hsettled
        rw [deliver_applied hnew holder]
        show (event.patch f).getD (log.fields f) = log.fields f
        cases hcontent : event.patch f with
        | none => rfl
        | some value => exact h event mem_cons_self holder value hcontent
    rw [deliverAll_cons, ih, hkept]
    intro other hother holder value hcontent
    rw [hkept]
    exact h other (mem_cons_of_mem _ hother) (fun hold => holder hold.deliver) value hcontent

/-- The deliveries of a set of events, each of them at least once. -/
def Delivers (events order : List (Event ι β)) : Prop := ∀ event, event ∈ order ↔ event ∈ events

/-- **What the newest event says is what the record holds in the end.** The other fields are
as the deliveries before it left them. -/
theorem fields_of_newest {pre post : List (Event ι β)} {log : Log ι β} {newest : Event ι β}
    (hpre : newest ∉ pre) (hunseen : newest.id ∉ log.seen) (holder : ¬ log.Older newest.stamp)
    (hids : ∀ event ∈ pre, event.id = newest.id → event = newest)
    (hstamps : ∀ event ∈ pre ++ post, event ≠ newest → event.stamp < newest.stamp) :
    (deliverAll log (pre ++ newest :: post)).fields =
      newest.patch.onto (deliverAll log pre).fields := by
  have hne : ∀ event ∈ pre, event ≠ newest := fun event hevent heq => hpre (heq ▸ hevent)
  have hnew : newest.id ∉ (deliverAll log pre).seen := by
    rw [mem_seen_deliverAll]
    rintro (⟨event, hevent, hid⟩ | hseen)
    · exact hne event hevent (hids event hevent hid)
    · exact hunseen hseen
  have hfresh : ¬ (deliverAll log pre).Older newest.stamp := by
    intro hold
    rcases older_of_older_deliverAll hold with hold | ⟨event, hevent, hlt⟩
    · exact holder hold
    · have := hstamps event (mem_append_left _ hevent) (hne event hevent)
      omega
  rw [deliverAll_append, deliverAll_cons, deliver_applied hnew hfresh]
  -- everything that still comes is a repetition or older
  refine fields_deliverAll_settled fun event hevent => ?_
  by_cases heq : event = newest
  · exact .inl (heq ▸ mem_cons_self)
  · exact .inr ⟨newest.stamp, rfl, hstamps event (mem_append_right _ hevent) heq⟩

/-! ### When the order is irrelevant -/

section Order

variable (log : Log ι β) (events : List (Event ι β))

/-- The newest event says something about every field about which anything new is said. -/
def Covered : Prop :=
  ∀ newest ∈ events, ¬ log.Older newest.stamp →
    (∀ event ∈ events, event.stamp ≤ newest.stamp) →
    ∀ event ∈ events, ¬ log.Older event.stamp →
      ∀ f value, event.patch f = some value → value ≠ log.fields f → newest.patch f ≠ none

variable {log events}

/-- The newest event decides the fields it says something about. -/
theorem field_of_newest {order : List (Event ι β)} {newest : Event ι β} {f : φ} {value : β f}
    (hmem : newest ∈ order) (hunseen : newest.id ∉ log.seen) (holder : ¬ log.Older newest.stamp)
    (hids : ∀ event ∈ order, event.id = newest.id → event = newest)
    (hstamps : ∀ event ∈ order, event ≠ newest → event.stamp < newest.stamp)
    (hcontent : newest.patch f = some value) : (deliverAll log order).fields f = value := by
  obtain ⟨pre, post, rfl, hpre⟩ := eq_append_cons_of_mem hmem
  have hsub : ∀ event ∈ pre ++ post, event ∈ pre ++ newest :: post := fun event hevent =>
    (mem_append.mp hevent).elim (mem_append_left _)
      fun hpost => mem_append_right _ (mem_cons_of_mem _ hpost)
  rw [fields_of_newest hpre hunseen holder
    (fun event hevent => hids event (mem_append_left _ hevent))
    (fun event hevent => hstamps event (hsub event hevent)), Patch.onto, hcontent, Option.getD_some]

variable (hunseen : ∀ event ∈ events, event.id ∉ log.seen)
  (hids : ∀ event ∈ events, ∀ other ∈ events, event.id = other.id → event = other)
  (hstamps : ∀ event ∈ events, ∀ other ∈ events, event.stamp = other.stamp → event = other)

include hunseen hids hstamps

/-- If the newest event covers what is said, every order of delivery ends in the same record. -/
theorem fields_eq_of_covered (hcovered : Covered log events)
    {first second : List (Event ι β)} (hfirst : Delivers events first)
    (hsecond : Delivers events second) :
    (deliverAll log first).fields = (deliverAll log second).fields := by
  funext f
  obtain ⟨value, hends⟩ : ∃ value, ∀ order, Delivers events order →
      (deliverAll log order).fields f = value := by
    by_cases hadmitted : ∃ event ∈ events, ¬ log.Older event.stamp
    · obtain ⟨event, hevent, holder⟩ := hadmitted
      obtain ⟨newest, hnewest, hmax⟩ := exists_newest hevent
      have hadmits : ¬ log.Older newest.stamp := by
        rintro ⟨latest, hlatest, hlt⟩
        exact holder ⟨latest, hlatest, lt_of_le_of_lt (hmax event hevent) hlt⟩
      cases hcontent : newest.patch f with
      | some value =>
        refine ⟨value, fun order horder => ?_⟩
        refine field_of_newest ((horder newest).mpr hnewest) (hunseen newest hnewest) hadmits
          (fun other hother hid => hids other ((horder other).mp hother) newest hnewest hid)
          (fun other hother hne => ?_) hcontent
        have hle := hmax other ((horder other).mp hother)
        have hstamp : other.stamp ≠ newest.stamp :=
          fun heq => hne (hstamps other ((horder other).mp hother) newest hnewest heq)
        omega
      | none =>
        -- nothing new is said about this field by any event that is admitted
        refine ⟨log.fields f, fun order horder => fields_of_silent ?_⟩
        intro other hother hadmitted value hvalue
        by_contra hne
        exact hcovered newest hnewest hadmits hmax other ((horder other).mp hother) hadmitted f
          value hvalue hne hcontent
    · refine ⟨log.fields f, fun order horder => fields_of_silent fun other hother holder => ?_⟩
      exact absurd ⟨other, (horder other).mp hother, holder⟩ hadmitted
  rw [hends first hfirst, hends second hsecond]

/-- A field that only an older event knows is lost when the newest event comes first. -/
theorem covered_of_fields_eq (h : ∀ first second, Delivers events first → Delivers events second →
      (deliverAll log first).fields = (deliverAll log second).fields) : Covered log events := by
  intro newest hnewest hadmits hmax event hevent holder f value hcontent hnew hsilent
  have hne : event ≠ newest := fun heq => by rw [heq, hsilent] at hcontent; cases hcontent
  -- the newest event alone, and after the one that knows the field
  have hdelivers : ∀ pre : List (Event ι β), (∀ other ∈ pre, other ∈ events) →
      Delivers events (pre ++ newest :: events) := by
    intro pre hpre other
    rw [mem_append, mem_cons]
    constructor
    · rintro (hother | rfl | hother)
      · exact hpre other hother
      · exact hnewest
      · exact hother
    · exact fun hother => .inr (.inr hother)
  have hends : ∀ pre : List (Event ι β), (∀ other ∈ pre, other ∈ events) → newest ∉ pre →
      (deliverAll log (pre ++ newest :: events)).fields f = (deliverAll log pre).fields f := by
    intro pre hpre hfresh
    have hsub : ∀ other ∈ pre ++ events, other ∈ events := fun other hother =>
      (mem_append.mp hother).elim (hpre other) id
    rw [fields_of_newest hfresh (hunseen newest hnewest) hadmits
      (fun other hother => hids other (hpre other hother) newest hnewest)
      (fun other hother hdiffers => lt_of_le_of_ne (hmax other (hsub other hother))
        fun heq => hdiffers (hstamps other (hsub other hother) newest hnewest heq)),
      Patch.onto, hsilent, Option.getD_none]
  have hfirst := hends [] (fun _ hother => absurd hother not_mem_nil) not_mem_nil
  have hsecond := hends [event] (fun _ hother => mem_singleton.mp hother ▸ hevent)
    (fun hmem => hne (mem_singleton.mp hmem).symm)
  have heq := congrFun (h _ _ (hdelivers [] fun _ hother => absurd hother not_mem_nil)
    (hdelivers [event] fun _ hother => mem_singleton.mp hother ▸ hevent)) f
  rw [hfirst, hsecond, deliverAll_cons, deliverAll_nil, deliverAll_nil,
    deliver_applied (hunseen event hevent) holder] at heq
  refine hnew ?_
  rw [heq]
  show value = (event.patch f).getD (log.fields f)
  rw [hcontent, Option.getD_some]

/-- **When the order of delivery is irrelevant**: exactly if the newest event covers what the
events say. -/
theorem order_independent_iff :
    (∀ first second, Delivers events first → Delivers events second →
      (deliverAll log first).fields = (deliverAll log second).fields) ↔ Covered log events :=
  ⟨covered_of_fields_eq hunseen hids hstamps, fun hcovered _ _ hfirst hsecond =>
      fields_eq_of_covered hunseen hids hstamps hcovered hfirst hsecond⟩

end Order

end Kanna.Watermark
