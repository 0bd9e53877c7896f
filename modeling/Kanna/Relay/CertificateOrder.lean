import Kanna.Relay.PushOperations

/-!
# The order of pairing certificates

What is stored for a pair is replaced only by the same certificate or by a later one, and
forgotten only once nothing that is as old can be valid (`Follows`). This holds from any
moment to any later one, whatever operations overlap. So a device that its desktop has revoked
comes back only with a later certificate, or with the very one that was stored: the comparison
lets the exact certificate through, which is how a token is renewed under the same certificate.

A registration is checked when its request arrives, and stored later. One that is stored after
its certificate has expired can be older than what was forgotten; the result leaves it out.
-/

namespace Kanna.Relay

open Durable

/-- The issue time and the signature that are stored for a pair. -/
def PushState.mark (s : PushState) (ref : PairingKey) : Option Mark :=
  (s.pairings.lookup ref).bind (·.mark)

/-! ### Marks that only advance -/

/-- What is stored stays or is replaced by something later, as long as it could be valid. -/
def Follows (now : Int) (old new : Option Mark) : Prop :=
  ∀ mark ∈ old, (∃ next ∈ new, mark.Before next) ∨ mark.1 + maxCertificateLifetimeMs ≤ now

theorem Follows.refl (now : Int) (mark : Option Mark) : Follows now mark mark :=
  fun mark hmark => .inl ⟨mark, hmark, .inr rfl⟩

variable {now later : Int}

theorem Follows.trans {first second third : Option Mark}
    (h : Follows now first second) (h' : Follows later second third) (hlater : now ≤ later) :
    Follows later first third := by
  intro mark hmark
  obtain ⟨next, hnext, hbefore⟩ | hexpired := h mark hmark
  · obtain ⟨last, hlast, hbefore'⟩ | hexpired := h' next hnext
    · exact .inl ⟨last, hlast, hbefore.trans hbefore'⟩
    · have := hbefore.le
      exact .inr (by omega)
  · exact .inr (by omega)

variable {certificate : Certificate} {current : Option PairingRecord}

/-- A certificate that the comparison lets through follows what is stored. -/
theorem follows_of_assert (h : assertCurrentOrNewerCertificate certificate current = .ok ()) :
    Follows now (current.bind (·.mark)) (some certificate.mark) :=
  fun _ hmark => .inl ⟨certificate.mark, rfl, before_of_assert h hmark⟩

variable {ref : PairingKey}

theorem Retires.follows {pairings : Pairings} {candidate : Option Certificate} {nowMs : Int}
    {current : PairingRecord} {write : Write}
    (h : Retires pairings ref candidate nowMs current certificate write) (hnow : nowMs ≤ now)
    (other : PairingKey) : Follows now ((pairings.lookup other).bind (·.mark))
      (((write.apply pairings ref).lookup other).bind (·.mark)) := by
  by_cases hother : other = ref
  · subst hother
    have hfollows : Follows now ((pairings.lookup other).bind (·.mark))
        (some certificate.mark) := by
      rw [h.stored]
      exact follows_of_assert h.newer
    rcases h.write with ⟨rfl, hexpired⟩ | rfl
    · -- the document is deleted: what was stored is no later than the certificate
      intro mark hmark
      obtain ⟨next, hnext, hbefore⟩ | hold := hfollows mark hmark
      · cases hnext
        have hle : mark.1 ≤ certificate.issuedAt := hbefore.le
        exact .inr (by omega)
      · exact .inr hold
    · rw [Write.apply, AList.lookup_insert]
      exact hfollows
  · rw [lookup_apply_ne pairings hother]
    exact .refl now _

/-! ### Operations in flight -/

/-- An operation does not use a time that is still to come, and a registration has a
certificate that was checked. -/
def Pending.Timely (clock : Int) : Pending → Prop
  | .register request _ _ =>
    request.cert.expiresAt ≤ request.cert.issuedAt + maxCertificateLifetimeMs
  | .revoke _ nowMs => nowMs ≤ clock
  | .revokeDevice _ nowMs => nowMs ≤ clock
  | .collect _ _ nowMs => nowMs ≤ clock
  | .publishing _ nowMs _ _ => nowMs ≤ clock
  | .delivery _ _ nowMs => nowMs ≤ clock
  | .delivered .. => True
  | .reconcile _ _ _ nowMs => nowMs ≤ clock
  | .retireDevice .. => True

variable {op : Pending}

theorem Pending.Timely.mono (hlater : now ≤ later) (h : op.Timely now) : op.Timely later := by
  cases op with
  | register => exact h
  | delivered => trivial
  | retireDevice => trivial
  | _ => exact Int.le_trans h hlater

variable {crypto : PushCrypto} {s s' : PushState}

theorem Origin.timely
    (h : Origin crypto s op) (hpending : ∀ other ∈ s.pending, other.Timely s.clock) :
    op.Timely s.clock := by
  cases h with
  | register hvalid => exact lifetime_of_validate hvalid
  | collect hnow => exact hnow
  | bindings hop | devices hop | delivery hop | reconcile hop =>
    have hwaiting := hpending _ hop
    exact hwaiting
  | delivered => trivial
  | retireDevice => trivial
  | _ => exact Int.le_refl _

/-! ### What a move does to one pair -/

/-- What a move that adds an entry to the log has done. -/
def PushEntry.Of (s s' : PushState) : PushEntry → Prop
  | .registered ref cert atMs => atMs = s.clock ∧
    cert.expiresAt ≤ cert.issuedAt + maxCertificateLifetimeMs ∧
    assertCurrentOrNewerCertificate cert (s.pairings.lookup ref) = .ok () ∧
    s'.mark ref = some cert.mark
  | .desktopRevoked ref held =>
    held = s.mark ref ∧ (s'.pairings.lookup ref).bind (·.liveToken) = none
  | _ => True

/-- A pair with a token had it before, under the same certificate, or was just registered. -/
def Kept (s s' : PushState) : Prop :=
  ∀ ref record, s'.pairings.lookup ref = some record → record.liveToken ≠ none →
    (∃ old, s.pairings.lookup ref = some old ∧ old.liveToken ≠ none ∧ old.mark = record.mark) ∨
    ∃ cert, s'.log = .registered ref cert s.clock :: s.log ∧ record.mark = some cert.mark

/-- What a move does, as far as certificates go. -/
structure Advances (s s' : PushState) : Prop where
  clock : s.clock ≤ s'.clock
  follows : ∀ ref, Follows s'.clock (s.mark ref) (s'.mark ref)
  logged : s'.log = s.log ∨ ∃ entry, s'.log = entry :: s.log ∧ entry.Of s s'
  kept : Kept s s'

open PushState

/-- The moves that leave the pairings and the log alone. -/
theorem Advances.of_eq (hclock : s.clock ≤ s'.clock)
    (hpairings : s'.pairings = s.pairings) (hlog : s'.log = s.log) : Advances s s' where
  clock := hclock
  follows := fun ref => by
    rw [mark, mark, hpairings]
    exact .refl _ _
  logged := .inl hlog
  kept := fun _ record hrecord hlive => .inl ⟨record, hpairings ▸ hrecord, hlive, rfl⟩

theorem Transacted.kept (h : Transacted crypto s op s') : Kept s s' := by
  intro ref record hrecord hlive
  obtain ⟨old, hold, htoken, hmark⟩ | ⟨request, fcmToken, nowMs, -, hregistered⟩ :=
    h.live_token hrecord hlive
  · exact .inl ⟨old, hold, htoken ▸ hlive, hmark⟩
  · exact .inr ⟨request.cert, hregistered.log, hregistered.mark⟩

/-- **What the last step of an operation does to the certificates.** -/
theorem Transacted.advances
    (h : Transacted crypto s op s') (hop : op.Timely s.clock) : Advances s s' := by
  have hkept := h.kept
  cases h with
  | unchanged => exact .of_eq (Int.le_refl _) rfl rfl
  | registered hassert htoken hmark =>
    refine ⟨Int.le_refl _, fun ref => ?_, .inr ⟨_, rfl, rfl, hop, hassert, ?_⟩, hkept⟩
    · rw [mark, mark, lookup_insert_eq]
      split_ifs with heq
      · rw [heq, Option.bind_some, hmark]
        exact follows_of_assert hassert
      · exact .refl _ _
    · rw [mark, AList.lookup_insert, Option.bind_some, hmark]
  | revoked hretires | collected hretires =>
    exact ⟨Int.le_refl _, hretires.follows hop, .inl rfl, hkept⟩
  | @desktopRevoked ref nowMs write hretires =>
    rcases hretires with ⟨hnone, rfl⟩ | ⟨current, certificate, hretires⟩
    · refine ⟨Int.le_refl _, fun _ => .refl _ _, .inr ⟨_, rfl, rfl, ?_⟩, hkept⟩
      change (s.pairings.lookup ref).bind _ = none
      rw [hnone, Option.bind_none]
    · exact ⟨Int.le_refl _, hretires.follows hop, .inr ⟨_, rfl, rfl, hretires.liveToken⟩, hkept⟩
  | delivered hrecord =>
    refine ⟨Int.le_refl _, fun other => ?_, .inl rfl, hkept⟩
    rw [mark, mark, lookup_insert_eq]
    split_ifs with heq
    · rw [heq, hrecord]
      exact .refl _ _
    · exact .refl _ _
  | reconciled hretires =>
    exact ⟨Int.le_refl _, hretires.follows hop, .inr ⟨_, rfl, trivial⟩, hkept⟩
  | deviceRetired =>
    exact ⟨Int.le_refl _, fun _ => .refl _ _, .inr ⟨_, rfl, trivial⟩, hkept⟩

open List

/-- **What a move does to the certificates**, and to what is in flight. -/
theorem Next.advances {move : PushMove} (h : Next crypto s move s')
    (htimely : ∀ op ∈ s.pending, op.Timely s.clock) :
    Advances s s' ∧ ∀ op ∈ s'.pending, op.Timely s'.clock := by
  cases h with
  | @ticked ms =>
    have hclock : s.clock ≤ s.clock + ms := by omega
    exact ⟨.of_eq hclock rfl rfl, fun op hop => (htimely op hop).mono hclock⟩
  | waiting hops =>
    refine ⟨.of_eq (Int.le_refl _) rfl rfl, fun op hop => ?_⟩
    rcases hops op hop with hold | horigin
    · exact htimely op hold
    · exact horigin.timely htimely
  | @committed i admitted ops op s' hmove hop hops hdone =>
    have htransacted := transacted_of_transact hdone
    have hadvances := htransacted.advances (htimely op (mem_of_getElem? hop))
    obtain ⟨hclock, hpending⟩ := htransacted.clock_pending
    -- the operation that commits leaves the queue in the same move
    refine ⟨⟨hadvances.clock, hadvances.follows, hadvances.logged, hadvances.kept⟩, ?_⟩
    rw [hpending, hclock]
    exact fun other hother => htimely other (hops other hother)
  | registrations => exact ⟨.of_eq (Int.le_refl _) rfl rfl, htimely⟩

/-! ### After a desktop has revoked a device -/

/-- A certificate that was registered before a revocation has expired, or is older than what is
stored, or what is stored is what was stored at the revocation. -/
def Passed (now : Int) (held : Option Mark) (old : Certificate) (mark : Option Mark) : Prop :=
  old.issuedAt + maxCertificateLifetimeMs ≤ now ∨
    ∃ stored ∈ mark, old.issuedAt < stored.1 ∨ (old.issuedAt ≤ stored.1 ∧ held = some stored)

variable {held : Option Mark}

theorem Passed.follows {old : Certificate}
    {mark mark' : Option Mark} (h : Passed now held old mark) (hfollows : Follows later mark mark')
    (hlater : now ≤ later) : Passed later held old mark' := by
  obtain hexpired | ⟨stored, hstored, hpassed⟩ := h
  · exact .inl (by omega)
  · have hle : old.issuedAt ≤ stored.1 := by
      rcases hpassed with hlt | ⟨hle, -⟩
      · exact Int.le_of_lt hlt
      · exact hle
    obtain ⟨next, hnext, hlt | rfl⟩ | hexpired := hfollows stored hstored
    · exact .inr ⟨next, hnext, .inl (Int.lt_of_le_of_lt hle hlt)⟩
    · exact .inr ⟨stored, hnext, hpassed⟩
    · exact .inl (by omega)

/-- What the comparison lets through while it is valid is later, or is what was stored. -/
theorem Passed.renewed {old cert : Certificate} (h : Passed now held old (current.bind (·.mark)))
    (hassert : assertCurrentOrNewerCertificate cert current = .ok ())
    (hlife : cert.expiresAt ≤ cert.issuedAt + maxCertificateLifetimeMs)
    (hvalid : now < cert.expiresAt) : old.issuedAt < cert.issuedAt ∨ held = some cert.mark := by
  obtain hexpired | ⟨stored, hstored, hpassed⟩ := h
  · exact .inl (by omega)
  · have hbefore := before_of_assert hassert hstored
    have hle : stored.1 ≤ cert.issuedAt := hbefore.le
    rcases hpassed with hlt | ⟨hold, hheld⟩
    · exact .inl (by omega)
    · rcases hbefore with hlt | rfl
      · have hlt : stored.1 < cert.issuedAt := hlt
        exact .inl (by omega)
      · exact .inr hheld

/-- What holds of a pair since its desktop revoked the device: `newer` is what has happened
since, and `older` what had happened before. -/
structure Revocation (s : PushState) (ref : PairingKey) (held : Option Mark)
    (newer older : List PushEntry) : Prop where
  passed : ∀ old atMs, .registered ref old atMs ∈ older → Passed s.clock held old (s.mark ref)
  active : ∀ record, s.pairings.lookup ref = some record → record.liveToken ≠ none →
    ∃ cert atMs, .registered ref cert atMs ∈ newer ∧ record.mark = some cert.mark
  renewed : ∀ cert atMs, .registered ref cert atMs ∈ newer → atMs < cert.expiresAt →
    (∀ old atMs', .registered ref old atMs' ∈ older → old.issuedAt < cert.issuedAt) ∨
      held = some cert.mark

variable {newer older : List PushEntry}

/-- A move after the revocation; `fresh` is what it adds to the log. -/
theorem Revocation.next (hadvances : Advances s s') {fresh : List PushEntry}
    (h : Revocation s ref held newer older) (hlog' : s'.log = fresh ++ s.log) :
    Revocation s' ref held (fresh ++ newer) older where
  passed := fun old atMs hold =>
    (h.passed old atMs hold).follows (hadvances.follows ref) hadvances.clock
  active := by
    intro record hrecord hlive
    obtain ⟨old, hold, holdlive, hmark⟩ | ⟨cert, hregistered, hmark⟩ :=
      hadvances.kept ref record hrecord hlive
    · obtain ⟨cert, atMs, hcert, hcertmark⟩ := h.active old hold holdlive
      exact ⟨cert, atMs, mem_append_right _ hcert, hmark ▸ hcertmark⟩
    · refine ⟨cert, s.clock, ?_, hmark⟩
      have hfresh : fresh = [.registered ref cert s.clock] :=
        append_cancel_right (hlog'.symm.trans hregistered)
      rw [hfresh]
      exact mem_cons_self
  renewed := by
    intro cert atMs hcert hvalid
    rcases mem_append.mp hcert with hnew | hold
    · -- the registration is the move itself
      obtain hsame | ⟨entry, hentry, hof⟩ := hadvances.logged
      · have hfresh : fresh = [] := append_left_eq_self.mp (hlog'.symm.trans hsame)
        rw [hfresh] at hnew
        cases hnew
      · have hfresh : fresh = [entry] := append_cancel_right (hlog'.symm.trans hentry)
        rw [hfresh] at hnew
        cases mem_singleton.mp hnew
        obtain ⟨rfl, hlife, hassert, -⟩ := hof
        refine or_iff_not_imp_right.mpr fun hheld old atMs' hold => ?_
        exact ((h.passed old atMs' hold).renewed hassert hlife hvalid).resolve_right hheld
    · exact h.renewed cert atMs hold hvalid

/-- What holds in every state: of what is in flight, of what was registered, and of every
revocation. -/
structure Ordered (s : PushState) : Prop where
  timely : ∀ op ∈ s.pending, op.Timely s.clock
  registered : ∀ ref cert atMs, .registered ref cert atMs ∈ s.log →
    Follows s.clock (some cert.mark) (s.mark ref)
  revoked : ∀ newer ref held older, s.log = newer ++ .desktopRevoked ref held :: older →
    Revocation s ref held newer older

theorem ordered_start (hpending : s.pending = []) (hlog : s.log = []) :
    Ordered s where
  timely := by
    rw [hpending]
    exact nofun
  registered := by
    rw [hlog]
    exact nofun
  revoked := by
    intro newer ref held older h
    rw [hlog] at h
    exact absurd h.symm (append_ne_nil_of_right_ne_nil _ (cons_ne_nil _ _))

/-- The revocation that a move makes. -/
theorem Ordered.revocation (h : Ordered s) (hadvances : Advances s s')
    (hdead : (s'.pairings.lookup ref).bind (·.liveToken) = none) :
    Revocation s' ref (s.mark ref) [] s.log where
  passed := by
    intro old atMs hold
    have hpassed : Passed s.clock (s.mark ref) old (s.mark ref) := by
      obtain ⟨stored, hstored, hbefore⟩ | hexpired := h.registered ref old atMs hold _ rfl
      · exact .inr ⟨stored, hstored, .inr ⟨hbefore.le, hstored⟩⟩
      · exact .inl hexpired
    exact hpassed.follows (hadvances.follows ref) hadvances.clock
  active := by
    intro record hrecord hlive
    rw [hrecord] at hdead
    exact absurd hdead hlive
  renewed := nofun

theorem Ordered.step {move : PushMove} (h : Ordered s)
    (hstep : pushStep crypto s move = some s') : Ordered s' := by
  obtain ⟨hadvances, htimely⟩ := (next_of_step hstep).advances h.timely
  have hregistered : ∀ ref cert atMs, .registered ref cert atMs ∈ s.log →
      Follows s'.clock (some cert.mark) (s'.mark ref) := fun ref cert atMs hmem =>
    (h.registered ref cert atMs hmem).trans (hadvances.follows ref) hadvances.clock
  -- a revocation of the old log, seen from the new one
  have hrevoked : ∀ fresh newer ref held older, s'.log = fresh ++ s.log →
      s.log = newer ++ .desktopRevoked ref held :: older →
      Revocation s' ref held (fresh ++ newer) older := fun fresh newer ref held older hlog' hlog =>
    (h.revoked newer ref held older hlog).next hadvances hlog'
  obtain hlog | ⟨entry, hlog, hof⟩ := hadvances.logged
  · refine ⟨htimely, ?_, ?_⟩
    · rw [hlog]
      exact hregistered
    · rw [hlog]
      exact fun newer ref held older hsplit => hrevoked [] newer ref held older hlog hsplit
  · refine ⟨htimely, fun ref cert atMs hmem => ?_, fun newer ref held older hsplit => ?_⟩
    · rw [hlog] at hmem
      rcases mem_cons.mp hmem with rfl | hold
      · rw [hof.2.2.2]
        exact .refl _ _
      · exact hregistered ref cert atMs hold
    · rw [hlog] at hsplit
      obtain ⟨rfl, heq⟩ | ⟨rest, rfl, hrest⟩ := append_eq_cons_iff.mp hsplit.symm
      · cases heq
        rw [hof.1]
        exact h.revocation hadvances hof.2
      · exact hrevoked [entry] rest ref held older hlog hrest

/-! ### Runs -/

/-- What is stored follows what was stored at any earlier moment. -/
theorem follows_run {moves : List PushMove}
    (h : Ordered s) (hrun : run (pushStep crypto) s moves = some s') (ref : PairingKey) :
    Ordered s' ∧ s.clock ≤ s'.clock ∧ Follows s'.clock (s.mark ref) (s'.mark ref) := by
  induction moves generalizing s with
  | nil =>
    cases hrun
    exact ⟨h, Int.le_refl _, .refl _ _⟩
  | cons move moves ih =>
    obtain ⟨next, hnext, hrest⟩ := run_cons_eq_some hrun
    obtain ⟨hadvances, -⟩ := (next_of_step hnext).advances h.timely
    obtain ⟨hordered, hclock, hfollows⟩ := ih (h.step hnext) hrest
    exact ⟨hordered, Int.le_trans hadvances.clock hclock,
      (hadvances.follows ref).trans hfollows hclock⟩

/-- **The issue time that is stored for a pair never decreases while a certificate that old
could be valid, and a revoked device comes back only through a registration after the
revocation**, whose certificate, if it was valid when it was stored, is later than every one
registered before the revocation or is the one that was stored at the revocation. -/
theorem certificates_only_advance {crypto : PushCrypto} {start s s' : PushState}
    {before after : List PushMove} (hpending : start.pending = []) (hlog : start.log = [])
    (hbefore : run (pushStep crypto) start before = some s)
    (hafter : run (pushStep crypto) s after = some s') (desktopPubKey deviceId : String) :
    (∀ record issuedAt,
      s.pairings.lookup (pairingKey crypto desktopPubKey deviceId) = some record →
      record.certIssuedAt = some issuedAt →
      (∃ record' issuedAt',
        s'.pairings.lookup (pairingKey crypto desktopPubKey deviceId) = some record' ∧
        record'.certIssuedAt = some issuedAt' ∧ issuedAt ≤ issuedAt') ∨
      issuedAt + maxCertificateLifetimeMs ≤ s'.clock) ∧
    (∀ newer held older record,
      s'.log =
        newer ++ .desktopRevoked (pairingKey crypto desktopPubKey deviceId) held :: older →
      s'.pairings.lookup (pairingKey crypto desktopPubKey deviceId) = some record →
      record.liveToken ≠ none →
      ∃ cert atMs,
        .registered (pairingKey crypto desktopPubKey deviceId) cert atMs ∈ newer ∧
        record.mark = some cert.mark ∧
        (atMs < cert.expiresAt →
          (∀ old atMs', .registered (pairingKey crypto desktopPubKey deviceId) old atMs' ∈ older →
            old.issuedAt < cert.issuedAt) ∨
          held = some cert.mark)) := by
  generalize pairingKey crypto desktopPubKey deviceId = ref
  have hordered := (follows_run (ordered_start hpending hlog) hbefore ref).1
  obtain ⟨hordered', -, hfollows⟩ := follows_run hordered hafter ref
  constructor
  · intro record issuedAt hrecord hissued
    have hmark : s.mark ref = some (issuedAt, record.certSignature) := by
      rw [mark, hrecord, Option.bind_some, PairingRecord.mark, hissued, Option.map_some]
    obtain ⟨next, hnext, hbefore⟩ | hexpired := hfollows _ hmark
    · obtain ⟨record', hrecord', hmark'⟩ := Option.bind_eq_some_iff.mp hnext
      obtain ⟨issuedAt', hissued', rfl⟩ := Option.map_eq_some_iff.mp hmark'
      exact .inl ⟨record', issuedAt', hrecord', hissued', hbefore.le⟩
    · exact .inr hexpired
  · intro newer held older record hsplit hrecord hlive
    have hrevocation := hordered'.revoked newer ref held older hsplit
    obtain ⟨cert, atMs, hcert, hmark⟩ := hrevocation.active record hrecord hlive
    exact ⟨cert, atMs, hcert, hmark, hrevocation.renewed cert atMs hcert⟩

/-! ### A device that comes back -/

/-- The device registers, its desktop revokes it, and it registers again. -/
def registerTwice (issuedAt issuedAt' : Int) : List PushMove :=
  [.post (pairingBody "token" issuedAt), .commit 0 true, .desktopRevoke "desktop" "phone",
    .commit 0 true, .post (pairingBody "fresh" issuedAt'), .commit 0 true]

/-- What the moves leave, if all of them are enabled. -/
def registeredTwice (issuedAt issuedAt' : Int) : PushState :=
  (run (pushStep trustingCrypto) emptyPush (registerTwice issuedAt issuedAt')).getD emptyPush

theorem certificates_only_advance_renewed :
    run (pushStep trustingCrypto) emptyPush (registerTwice 50 60) =
      some (registeredTwice 50 60) ∧
    ∃ cert atMs, .registered ⟨"desktop", "phone"⟩ cert atMs ∈
        [PushEntry.registered ⟨"desktop", "phone"⟩ ⟨60, 1060, "signed"⟩ 100] ∧
      some ((60 : Int), some "signed") = some cert.mark ∧
      (atMs < cert.expiresAt →
        (∀ old atMs', .registered ⟨"desktop", "phone"⟩ old atMs' ∈
            [PushEntry.registered ⟨"desktop", "phone"⟩ ⟨50, 1050, "signed"⟩ 100] →
          old.issuedAt < cert.issuedAt) ∨
        some ((50 : Int), some "signed") = some cert.mark) := by
  have hrun : run (pushStep trustingCrypto) emptyPush (registerTwice 50 60) =
      some (registeredTwice 50 60) := rfl
  refine ⟨hrun, ?_⟩
  exact (certificates_only_advance rfl rfl hrun (run_nil _) "desktop" "phone").2
    [.registered ⟨"desktop", "phone"⟩ ⟨60, 1060, "signed"⟩ 100] (some (50, some "signed"))
    [.registered ⟨"desktop", "phone"⟩ ⟨50, 1050, "signed"⟩ 100]
    { tokenHash := some "fresh", fcmToken := some "fresh", updatedAtMs := some 100
      lastDeliveredAtMs := none, certIssuedAt := some 60, certExpiresAt := some 1060
      certSignature := some "signed" } (by decide) (by decide) (by decide)

/-- **A device that its desktop has revoked registers again with the same certificate.** -/
theorem revoked_device_returns :
    ¬ ∀ (crypto : PushCrypto) (start s : PushState) (moves : List PushMove),
      start.pending = [] → start.log = [] → run (pushStep crypto) start moves = some s →
      ∀ desktopPubKey deviceId newer held older record,
        s.log =
          newer ++ .desktopRevoked (pairingKey crypto desktopPubKey deviceId) held :: older →
        s.pairings.lookup (pairingKey crypto desktopPubKey deviceId) = some record →
        record.liveToken ≠ none →
        ∃ cert atMs, .registered (pairingKey crypto desktopPubKey deviceId) cert atMs ∈ newer ∧
          ∀ old atMs', .registered (pairingKey crypto desktopPubKey deviceId) old atMs' ∈ older →
            old.issuedAt < cert.issuedAt := by
  intro h
  obtain ⟨cert, atMs, hcert, hlater⟩ := h trustingCrypto emptyPush (registeredTwice 50 50)
    (registerTwice 50 50) rfl rfl rfl "desktop" "phone"
    [.registered ⟨"desktop", "phone"⟩ ⟨50, 1050, "signed"⟩ 100] (some (50, some "signed"))
    [.registered ⟨"desktop", "phone"⟩ ⟨50, 1050, "signed"⟩ 100]
    { tokenHash := some "fresh", fcmToken := some "fresh", updatedAtMs := some 100
      lastDeliveredAtMs := none, certIssuedAt := some 50, certExpiresAt := some 1050
      certSignature := some "signed" } (by decide) (by decide) (by decide)
  cases mem_singleton.mp hcert
  have hlt : (50 : Int) < 50 := hlater ⟨50, 1050, "signed"⟩ 100 mem_cons_self
  exact absurd hlt (by decide)

end Kanna.Relay
