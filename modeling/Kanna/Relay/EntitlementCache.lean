import Kanna.Lib.Run
import Kanna.Lib.TtlCache
import Kanna.Billing.Entitlement

/-!
# The relay's entitlement checks

`sessionHasCapability` answers from the account's entitlement record, which the relay reads
from Firestore and keeps for a TTL (`entitlement.ts`). Reads take arbitrary time: Firestore
serves each at some moment between its start and its answer, and it may fail. An answer is kept
until the TTL after the *start* of its read, so a slow read that overwrites a newer answer with
an older one does not keep it longer than the bound.
-/

namespace Kanna.EntitlementCache

open Billing (SourceStatus CloudAccessCapability)

/-- The fields of the entitlement document that the relay parses. -/
structure Document where
  status : Option String
  capabilities : List String
  graceEndsAt : Option String

/-- `EntitlementRecord`, without `currentPeriodEndsAt`, which no check reads. -/
structure EntitlementRecord where
  status : SourceStatus
  capabilities : List CloudAccessCapability
  graceEndsAt : Option String
  deriving DecidableEq

/-- The status of a document. -/
def parseStatus : Option String → Option SourceStatus
  | some "active" => some .active
  | some "grace" => some .grace
  | some "expired" => some .expired
  | some "revoked" => some .revoked
  | _ => none

/-- A capability by its name. -/
def parseCapability : String → Option CloudAccessCapability
  | "cloud_relay" => some .cloudRelay
  | "cloud_task_index" => some .cloudTaskIndex
  | "remote_task_control" => some .remoteTaskControl
  | _ => none

/-- A time that is given. -/
def parseTimestamp (value : Option String) : Option String := value.filter fun text => text ≠ ""

/-- `readEntitlementRecord`, on the document as Firestore serves it. -/
def readEntitlementRecord (document : Option Document) : Option EntitlementRecord := do
  let data ← document
  let status ← parseStatus data.status
  return ⟨status, data.capabilities.filterMap parseCapability, parseTimestamp data.graceEndsAt⟩

/-- `EntitlementSubject`. -/
structure Subject where
  userId : String
  emailVerified : Option Bool

/-- The process's flags, with `Date.parse`, which is `none` for `NaN`. -/
structure Config where
  enforcementEnabled : Bool
  cacheTtlMs : Nat
  dateParse : String → Option Int

/-- How many entitlements are cached at most. -/
def ENTITLEMENT_CACHE_MAX_ENTRIES : Nat := 10000

variable (cfg : Config)

/-- Active, or in a grace period that is not over. -/
def isEntitlementHonored (record : Option EntitlementRecord) (nowMs : Nat) : Bool :=
  match record with
  | none => false
  | some record =>
    match record.status with
    | .active => true
    | .grace =>
      match record.graceEndsAt.bind cfg.dateParse with
      | none => true
      | some graceEndsAtMs => (nowMs : Int) < graceEndsAtMs
    | _ => false

/-- The entitlement is honored and has the capability. -/
def hasCapability (record : Option EntitlementRecord) (capability : CloudAccessCapability)
    (nowMs : Nat) : Bool :=
  isEntitlementHonored cfg record nowMs &&
    record.any fun record => record.capabilities.contains capability

/-- A call of `sessionHasCapability`: what it asks, when it started, and what Firestore has
served its read. `startVersion` notes how often the record had changed by then. -/
structure Check where
  subject : Subject
  capability : CloudAccessCapability
  startMs : Nat
  startVersion : Nat
  served : Option (Option EntitlementRecord) := none

/-- An answer, with the account's record, its last change and the time at that moment. -/
structure Decision where
  check : Check
  /-- the read of the check has failed -/
  failed : Bool
  answer : Bool
  current : Option EntitlementRecord
  version : Nat
  changedAt : Nat
  atMs : Nat

/-- The record each account has in Firestore, how often and when it last changed, the relay's
cache and its open checks. `answers` and `decisions` note every read that Firestore answered
(account, record, start) and every check that was decided. -/
structure State where
  now : Nat
  records : String → Option EntitlementRecord
  version : String → Nat := fun _ => 0
  changedAt : String → Nat := fun _ => 0
  cache : TtlCache String (Option EntitlementRecord) := .empty
  checks : List Check := []
  answers : List (String × Option EntitlementRecord × Nat) := []
  decisions : List Decision := []

/-- The clock, a change of the record, a check and how its read is served, comes back or fails,
and an invalidation. -/
inductive Move where
  | tick (ms : Nat)
  | write (userId : String) (document : Option Document)
  | check (subject : Subject) (capability : CloudAccessCapability)
  | serve (i : Nat)
  | answer (i : Nat)
  | fail (i : Nat)
  | invalidate (userId : Option String)

variable (s : State)

/-- A check is answered. -/
def State.decide (check : Check) (failed answer : Bool) : State :=
  { s with
    decisions := s.decisions ++ [{
      check, failed, answer
      current := s.records check.subject.userId
      version := s.version check.subject.userId
      changedAt := s.changedAt check.subject.userId
      atMs := s.now }] }

/-- The record of an account becomes another one. A document that parses to the same record
changes nothing for the relay. -/
def State.write (userId : String) (record : Option EntitlementRecord) : State :=
  if record = s.records userId then s
  else
    { s with
      records := Function.update s.records userId record
      version := Function.update s.version userId (s.version userId + 1)
      changedAt := Function.update s.changedAt userId s.now }

/-- `sessionHasCapability` up to its read: the answers that need none, and a cache hit. Without an
answer it goes on to read the record. -/
def sessionHasCapability (check : Check) : State × Option Bool :=
  if cfg.enforcementEnabled = false then (s, some true)
  else if check.subject.emailVerified = some false then (s, some false)
  else
    match s.cache.lookup check.subject.userId s.now with
    | (some entry, cache) =>
      ({ s with cache }, some (hasCapability cfg entry.value check.capability s.now))
    | (none, cache) => ({ s with cache }, none)

/-- `sessionHasCapability` after its read, which is `none` if it failed. -/
def answerFrom (check : Check) (read : Option (Option EntitlementRecord)) (nowMs : Nat) : Bool :=
  match read with
  | none => true
  | some record => hasCapability cfg record check.capability nowMs

/-- `resolveEntitlement` after its read: the answer is cached from the time the call started. -/
def resolveEntitlement (check : Check) (record : Option EntitlementRecord) : State :=
  { s with
    cache := s.cache.store ENTITLEMENT_CACHE_MAX_ENTRIES cfg.cacheTtlMs check.subject.userId
      record check.startMs }

/-- A check is answered at once, or is open until its read is answered or fails. -/
def State.begin (check : Check) : State :=
  match sessionHasCapability cfg s check with
  | (s, some answer) => s.decide check false answer
  | (s, none) => { s with checks := s.checks ++ [check] }

/-- One move, if it is enabled. -/
def step : Move → Option State
  | .tick ms => some { s with now := s.now + ms }
  | .write userId document => some (s.write userId (readEntitlementRecord document))
  | .check subject capability =>
    some (s.begin cfg
      { subject, capability, startMs := s.now, startVersion := s.version subject.userId })
  | .serve i => do
    let check ← s.checks[i]?
    let served := { check with served := some (s.records check.subject.userId) }
    return { s with checks := s.checks.set i served }
  | .answer i => do
    let check ← s.checks[i]?
    let record ← check.served
    let answered := { s with
      checks := s.checks.eraseIdx i
      answers := s.answers ++ [(check.subject.userId, record, check.startMs)] }
    return (resolveEntitlement cfg answered check record).decide check false
      (answerFrom cfg check (some record) s.now)
  | .fail i => do
    let check ← s.checks[i]?
    return State.decide { s with checks := s.checks.eraseIdx i } check true
      (answerFrom cfg check none s.now)
  | .invalidate userId =>
    some { s with cache := userId.elim .empty s.cache.delete }

/-- No check has been made. -/
def State.initial (records : String → Option EntitlementRecord) : State :=
  { now := 0, records }

/-- The answer that a record gives to a check. -/
def Check.allowedBy (check : Check) (record : Option EntitlementRecord) (nowMs : Nat) : Bool :=
  !cfg.enforcementEnabled ||
    check.subject.emailVerified ≠ some false && hasCapability cfg record check.capability nowMs

/-- The answer is that of a record, and of the current one if the check started a TTL or more
after the last change of it. -/
def Decision.Current (decision : Decision) : Prop :=
  ∃ record, decision.answer = decision.check.allowedBy cfg record decision.atMs ∧
    (decision.check.startVersion = decision.version →
      decision.changedAt + cfg.cacheTtlMs ≤ decision.check.startMs → record = decision.current)

/-- What holds of every state: a check whose read does not fail is decided from a record, and a
failed one is let through; what is cached is the answer to a read; the cache keeps its bound. -/
structure Fresh (s : State) : Prop where
  decisions : ∀ decision ∈ s.decisions, decision.failed = false → decision.Current cfg
  failures : ∀ decision ∈ s.decisions, decision.failed = true → decision.answer = true
  /-- it expires a TTL after the start of that read -/
  answered : ∀ entry ∈ s.cache.entries,
    ∃ startMs, (entry.key, entry.value, startMs) ∈ s.answers ∧
      entry.expiresAtMs = startMs + cfg.cacheTtlMs
  size : s.cache.size ≤ ENTITLEMENT_CACHE_MAX_ENTRIES

/-! ### The invariant -/

/-- The check is decided from a record. -/
def Check.Consults (check : Check) : Prop :=
  cfg.enforcementEnabled = true ∧ check.subject.emailVerified ≠ some false

/-- Either no change of the record since the check started, and what it was served is current,
or the last change is not before its start. -/
structure Check.Tracked (check : Check) (version changedAt : Nat)
    (current : Option EntitlementRecord) : Prop where
  started : check.startVersion ≤ version
  /-- a change since the start is not before it -/
  changed : check.startVersion < version → check.startMs ≤ changedAt
  /-- without a change the read found the current record -/
  served : ∀ record ∈ check.served, check.startVersion = version → record = current

/-- The check has read what the record is or was. -/
def State.Tracks (check : Check) : Prop :=
  check.Tracked (s.version check.subject.userId) (s.changedAt check.subject.userId)
    (s.records check.subject.userId)

/-- The entry is an answer to a read, kept until the TTL after its start, and current if that
start was after the last change. -/
def EntryOk (entry : TtlEntry String (Option EntitlementRecord)) : Prop :=
  ∃ startMs, (entry.key, entry.value, startMs) ∈ s.answers ∧
    entry.expiresAtMs = startMs + cfg.cacheTtlMs ∧ startMs ≤ s.now ∧
    (s.changedAt entry.key < startMs → entry.value = s.records entry.key)

/-- What every step keeps. -/
structure Inv (s : State) : Prop where
  checks : ∀ check ∈ s.checks, s.Tracks check ∧ check.startMs ≤ s.now ∧ check.Consults cfg
  entries : ∀ entry ∈ s.cache.entries, EntryOk cfg s entry
  size : s.cache.size ≤ ENTITLEMENT_CACHE_MAX_ENTRIES
  decisions : ∀ decision ∈ s.decisions,
    if decision.failed then decision.answer = true else decision.Current cfg

variable {cfg} {s : State} {record : Option EntitlementRecord}

theorem Check.Consults.allowedBy {check : Check} (h : check.Consults cfg) (nowMs : Nat) :
    check.allowedBy cfg record nowMs = hasCapability cfg record check.capability nowMs := by
  rw [Check.allowedBy, h.1, decide_eq_true h.2]
  rfl

variable (hI : Inv cfg s)

include hI

open List

/-- A decision that is right is all that deciding adds. -/
theorem Inv.decide {check : Check} {failed answer : Bool}
    (hright : if failed then answer = true else
      Decision.Current cfg ⟨check, failed, answer, s.records check.subject.userId,
        s.version check.subject.userId, s.changedAt check.subject.userId, s.now⟩) :
    Inv cfg (s.decide check failed answer) := by
  refine { hI with decisions := fun decision hmem => ?_ }
  obtain hmem | hmem := mem_append.mp hmem
  · exact hI.decisions decision hmem
  · rw [mem_singleton.mp hmem]
    exact hright

/-- A decision from a record is right if the record is current where the bound asks for it. -/
theorem Inv.decideFrom {check : Check} (hconsults : check.Consults cfg)
    (hrecord : check.startVersion = s.version check.subject.userId →
      s.changedAt check.subject.userId + cfg.cacheTtlMs ≤ check.startMs →
      record = s.records check.subject.userId) :
    Inv cfg (s.decide check false (hasCapability cfg record check.capability s.now)) :=
  hI.decide ⟨record, (hconsults.allowedBy s.now).symm, hrecord⟩

/-- The answers that need no record are those of every record. -/
theorem Inv.decideAlways {check : Check} {answer : Bool}
    (hanswer : ∀ record, answer = check.allowedBy cfg record s.now) :
    Inv cfg (s.decide check false answer) :=
  hI.decide ⟨s.records check.subject.userId, hanswer _, fun _ _ => rfl⟩

/-- Fewer entries and fewer checks keep the invariant. -/
theorem Inv.shrink {cache : TtlCache String (Option EntitlementRecord)}
    {checks : List Check} (hentries : ∀ entry ∈ cache.entries, entry ∈ s.cache.entries)
    (hsize : cache.size ≤ s.cache.size) (hchecks : ∀ check ∈ checks, check ∈ s.checks) :
    Inv cfg { s with cache, checks } where
  checks := fun check hmem => hI.checks check (hchecks check hmem)
  entries := fun entry hmem => hI.entries entry (hentries entry hmem)
  size := hsize.trans hI.size
  decisions := hI.decisions

theorem Inv.tick (ms : Nat) : Inv cfg { s with now := s.now + ms } where
  checks := fun check hmem => by
    obtain ⟨htracked, hstart, hconsults⟩ := hI.checks check hmem
    exact ⟨htracked, Nat.le_add_right_of_le hstart, hconsults⟩
  entries := fun entry hmem => by
    obtain ⟨startMs, hanswer, hexpires, hstart, hcurrent⟩ := hI.entries entry hmem
    exact ⟨startMs, hanswer, hexpires, Nat.le_add_right_of_le hstart, hcurrent⟩
  size := hI.size
  decisions := hI.decisions

/-- A change makes every check of the account that is still open, and every entry of it, older
than the record's last change. -/
theorem Inv.write (userId : String) (record : Option EntitlementRecord) :
    Inv cfg (s.write userId record) := by
  unfold State.write
  split_ifs with hsame
  · exact hI
  refine ⟨fun check hmem => ?_, fun entry hmem => ?_, hI.size, hI.decisions⟩
  · obtain ⟨⟨hversion, hchanged, hserved⟩, hstart, hconsults⟩ := hI.checks check hmem
    refine ⟨?_, hstart, hconsults⟩
    by_cases huser : check.subject.userId = userId
    · subst huser
      refine ⟨?_, fun _ => ?_, fun record' _ hnow => ?_⟩
      · simpa using Nat.le_succ_of_le hversion
      · simpa using hstart
      · simp at hnow
        omega
    · constructor <;> simpa [huser]
  · obtain ⟨startMs, hanswer, hexpires, hstart, hcurrent⟩ := hI.entries entry hmem
    refine ⟨startMs, hanswer, hexpires, hstart, ?_⟩
    by_cases huser : entry.key = userId
    · simp [huser]
      omega
    · simpa [huser] using hcurrent

theorem Inv.check (subject : Subject) (capability : CloudAccessCapability) :
    Inv cfg (s.begin cfg
      { subject, capability, startMs := s.now, startVersion := s.version subject.userId }) := by
  unfold State.begin sessionHasCapability
  by_cases hoff : cfg.enforcementEnabled = false
  · rw [if_pos hoff]
    exact hI.decideAlways fun record => by rw [Check.allowedBy, hoff]; rfl
  have hon : cfg.enforcementEnabled = true := (Bool.not_eq_false _).mp hoff
  rw [if_neg hoff]
  by_cases hunverified : subject.emailVerified = some false
  · rw [if_pos hunverified]
    refine hI.decideAlways fun record => ?_
    rw [Check.allowedBy, hon, decide_eq_false (not_not.mpr hunverified)]
    rfl
  · rw [if_neg hunverified]
    have hless : Inv cfg { s with cache := (s.cache.lookup subject.userId s.now).2 } :=
      hI.shrink (fun _ => TtlCache.mem_lookup) TtlCache.size_lookup_le fun _ => id
    cases hlookup : s.cache.lookup subject.userId s.now with
    | mk found cache =>
    rw [hlookup] at hless
    cases found with
    | some entry =>
      obtain ⟨hmem, hkey, hlive⟩ := TtlCache.lookup_eq_some hlookup
      -- a hit is current where the bound asks for it: its read started after the change
      refine hless.decideFrom ⟨hon, hunverified⟩ fun _ hlate => ?_
      obtain ⟨startMs, -, hexpires, -, hcurrent⟩ := hI.entries entry hmem
      rw [hkey] at hcurrent
      refine hcurrent ?_
      dsimp only at hlate ⊢
      omega
    | none =>
      refine { hless with checks := fun check hmem => ?_ }
      obtain hmem | hmem := mem_append.mp hmem
      · exact hI.checks check hmem
      · rw [mem_singleton.mp hmem]
        exact ⟨⟨le_rfl, fun h => absurd h (lt_irrefl _), nofun⟩, le_rfl,
          hon, hunverified⟩

theorem Inv.serve {i : Nat} {check : Check} (hcheck : s.checks[i]? = some check) :
    Inv cfg { s with
      checks := s.checks.set i
        { check with served := some (s.records check.subject.userId) } } := by
  refine { hI with checks := fun other hmem => ?_ }
  obtain hmem | rfl := mem_or_eq_of_mem_set hmem
  · exact hI.checks other hmem
  · obtain ⟨htracked, hopen⟩ := hI.checks check (mem_of_getElem? hcheck)
    exact ⟨⟨htracked.started, htracked.changed, fun _ h _ => (Option.some.inj h).symm⟩, hopen⟩

/-- Caching the answer of an open check keeps the invariant. -/
theorem Inv.resolve {check : Check} (htracked : s.Tracks check) (hstart : check.startMs ≤ s.now)
    (hserved : record ∈ check.served)
    (hanswered : (check.subject.userId, record, check.startMs) ∈ s.answers) :
    Inv cfg (resolveEntitlement cfg s check record) := by
  refine ⟨hI.checks, fun entry hmem => ?_, ?_, hI.decisions⟩
  · obtain ⟨hmem, -⟩ | rfl := TtlCache.mem_store hmem
    · exact hI.entries entry hmem
    · refine ⟨check.startMs, hanswered, rfl, hstart,
        fun hafter => htracked.served record hserved ?_⟩
      -- a change during the read would not be before its start
      exact htracked.started.antisymm (Nat.le_of_not_lt fun h => by
        have := htracked.changed h
        simp only [resolveEntitlement] at hafter
        omega)
  · exact TtlCache.size_store_le (by decide) hI.size

omit hI

theorem inv_step {a : Move} {s' : State} (hI : Inv cfg s) (hstep : step cfg s a = some s') :
    Inv cfg s' := by
  cases a with
  | tick ms =>
    cases hstep
    exact hI.tick ms
  | write userId document =>
    cases hstep
    exact hI.write userId _
  | check subject capability =>
    cases hstep
    exact hI.check subject capability
  | serve i =>
    obtain ⟨check, hcheck, hstep⟩ := Option.bind_eq_some_iff.mp hstep
    cases hstep
    exact hI.serve hcheck
  | answer i =>
    obtain ⟨check, hcheck, hstep⟩ := Option.bind_eq_some_iff.mp hstep
    obtain ⟨record, hserved, hstep⟩ := Option.bind_eq_some_iff.mp hstep
    cases hstep
    obtain ⟨htracked, hstart, hconsults⟩ := hI.checks check (mem_of_getElem? hcheck)
    have hrest : Inv cfg { s with checks := s.checks.eraseIdx i } :=
      hI.shrink (fun _ => id) le_rfl fun _ => mem_of_mem_eraseIdx
    have hnoted : Inv cfg { s with
        checks := s.checks.eraseIdx i
        answers := s.answers ++ [(check.subject.userId, record, check.startMs)] } :=
      { hrest with
        entries := fun entry hmem =>
          (hI.entries entry hmem).imp fun _ hentry => hentry.imp_left (mem_append_left _) }
    refine (hnoted.resolve htracked hstart hserved
      (mem_append_right _ (mem_singleton_self _))).decideFrom hconsults ?_
    exact fun hsame _ => htracked.served record hserved hsame
  | fail i =>
    obtain ⟨check, hcheck, hstep⟩ := Option.bind_eq_some_iff.mp hstep
    cases hstep
    have hrest : Inv cfg { s with checks := s.checks.eraseIdx i } :=
      hI.shrink (fun _ => id) le_rfl fun _ => mem_of_mem_eraseIdx
    exact hrest.decide rfl
  | invalidate userId =>
    cases hstep
    cases userId with
    | none => exact hI.shrink (fun _ h => absurd h not_mem_nil) (Nat.zero_le _) fun _ => id
    | some userId =>
      exact hI.shrink (fun _ h => (TtlCache.mem_delete.mp h).1) TtlCache.size_delete_le fun _ => id

/-- The move starts a check. -/
def Move.isCheck : Move → Bool
  | .check _ _ => true
  | _ => false

/-- A check that starts is open or decided, and an open one stays so until it is decided. -/
theorem length_step (hstep : step cfg s a = some s') :
    s'.checks.length + s'.decisions.length =
      s.checks.length + s.decisions.length + [a].countP Move.isCheck := by
  have herase : ∀ {i : Nat} {check : Check}, s.checks[i]? = some check →
      (s.checks.eraseIdx i).length + (s.decisions.length + 1) =
        s.checks.length + s.decisions.length := by
    intro i check hcheck
    have hlt := (List.getElem?_eq_some_iff.mp hcheck).1
    rw [length_eraseIdx_of_lt hlt]
    omega
  cases a with
  | tick | invalidate =>
    cases hstep
    rfl
  | write userId document =>
    cases hstep
    unfold State.write
    split_ifs <;> rfl
  | check subject capability =>
    cases hstep
    unfold State.begin sessionHasCapability
    split_ifs
    iterate 2 simp [State.decide, Move.isCheck, Nat.add_assoc]
    obtain ⟨found, cache⟩ := s.cache.lookup subject.userId s.now
    cases found <;> simp [State.decide, Move.isCheck] <;> omega
  | serve i =>
    obtain ⟨check, hcheck, hstep⟩ := Option.bind_eq_some_iff.mp hstep
    cases hstep
    simp [Move.isCheck]
  | answer i =>
    obtain ⟨check, hcheck, hstep⟩ := Option.bind_eq_some_iff.mp hstep
    obtain ⟨record, -, hstep⟩ := Option.bind_eq_some_iff.mp hstep
    cases hstep
    simpa [State.decide, resolveEntitlement, Move.isCheck] using herase hcheck
  | fail i =>
    obtain ⟨check, hcheck, hstep⟩ := Option.bind_eq_some_iff.mp hstep
    cases hstep
    simpa [State.decide, Move.isCheck] using herase hcheck

theorem length_run {moves : List Move} (hrun : run (step cfg) s moves = some s') :
    s'.checks.length + s'.decisions.length =
      s.checks.length + s.decisions.length + moves.countP Move.isCheck := by
  induction moves generalizing s with
  | nil =>
    cases hrun
    rfl
  | cons a moves ih =>
    obtain ⟨s₁, hstep, hrun⟩ := Option.bind_eq_some_iff.mp hrun
    rw [ih hrun, length_step hstep, Nat.add_assoc, ← countP_append, singleton_append]

theorem Inv.fresh (hI : Inv cfg s) : Fresh cfg s where
  decisions := fun decision hmem hread => by
    have hright := hI.decisions decision hmem
    rwa [hread] at hright
  failures := fun decision hmem hfailed => by
    have hright := hI.decisions decision hmem
    rwa [hfailed] at hright
  answered := fun entry hmem => by
    obtain ⟨startMs, hanswer, hexpires, -, -⟩ := hI.entries entry hmem
    exact ⟨startMs, hanswer, hexpires⟩
  size := hI.size

/-- **Entitlement checks are current after a TTL.** Over every interleaving of checks, reads of
arbitrary length that may fail, changes of the records, evictions and invalidations: a check that
starts the cache TTL or more after the last change of its account's record decides from that
record; every cached record is the answer to a read; and the cache keeps its bound. Every check
that was started is open or decided. -/
theorem entitlement_current (cfg : Config) (records : String → Option EntitlementRecord)
    (moves : List Move) :
    Always (step cfg) (Fresh cfg) (State.initial records) moves ∧
      ∀ s, run (step cfg) (State.initial records) moves = some s →
        s.checks.length + s.decisions.length = moves.countP Move.isCheck := by
  have hinit : Inv cfg (State.initial records) :=
    ⟨fun _ h => absurd h not_mem_nil, fun _ h => absurd h not_mem_nil, Nat.zero_le _,
      fun _ h => absurd h not_mem_nil⟩
  refine ⟨(always_of_invariant inv_step moves hinit).mono Inv.fresh, fun s hrun => ?_⟩
  exact (length_run hrun).trans (Nat.zero_add _)

/-- A relay that enforces, with a TTL of 100 ms. -/
def enforcing : Config := ⟨true, 100, fun _ => none⟩

/-- The account subscribes while a read is on its way, whose answer is cached after that; the next
check is a TTL later. -/
def subscribedMeanwhile : List Move :=
  let check := Move.check ⟨"user", none⟩ .cloudRelay
  [check, .serve 0, .tick 1, .write "user" (some ⟨some "active", ["cloud_relay"], none⟩), .answer 0,
    .tick 100, check, .serve 0, .answer 0]

theorem entitlement_current_subscribed :
    (run (step enforcing) (State.initial fun _ => none) subscribedMeanwhile).map
        (fun s => s.decisions.map Decision.answer) = some [false, true] ∧
      Always (step enforcing) (Fresh enforcing) (State.initial fun _ => none)
        subscribedMeanwhile :=
  ⟨by decide, (entitlement_current enforcing _ subscribedMeanwhile).1⟩

end Kanna.EntitlementCache
