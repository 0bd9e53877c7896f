import Kanna.Lib.Run
import Kanna.Transfer.Authentication

/-!
# A sealed request is authenticated at most once

A payload is fresh until its time of issue plus the freshness window, and its entry in the
table does not expire before that. So when the table has forgotten it, either the call could
not be recorded and failed, or the process and with it the epoch is another one, or the table
was swept when the payload was no longer fresh. `authenticated_at_most_once` makes this an
argument over whole runs, under three conditions on them (`Careful`).

The conditions are not met by every run. A call reads the clock before it takes the lock of
the table, and a call with a later clock may sweep the table in between; the replay key names
the peer by the id in the request, which the payload does not contain; and a call whose record
was not saved removes whatever is then under its key. `replayed_request_authenticated` has a
run for each of them that authenticates one payload twice.
-/

namespace Kanna

/-! ### What the checks establish -/

/-- What is known of a request that has passed the checks in a process. -/
structure Checked (freshness : UInt64) (epoch : String) (request : CheckedRequest) : Prop where
  action : request.sealedPayload.payload.str "action" = some request.action
  requestId : request.sealedPayload.payload.str "request_id" = some request.requestId
  epoch : request.sealedPayload.payload.str "owner_epoch" = some epoch
  issuedAt : (request.sealedPayload.payload.get "issued_at_unix_ms").bind Value.asU64 =
    some request.issuedAt
  fresh : request.now.toNat ≤ request.issuedAt.toNat + freshness.toNat

variable {epoch : String}

/-- The request passes the checks: its requester is found and trusted, its payload opens
against the key of the requester and names the action, the request and the epoch, and it was
issued neither too early nor too late. -/
structure AuthRequest.Passes (config : AuthConfig) (epoch : String) (now : UInt64)
    (request : AuthRequest) (checked : CheckedRequest) : Prop
    extends Checked config.freshness epoch checked where
  peer : ∃ peer, request.requester = .ok peer ∧ checked.sealedPayload.sender = peer.publicKey
  receiver : checked.sealedPayload.receiver = config.publicKey
  sealedPayload : request.sealedPayload = some checked.sealedPayload
  requesterPeerId : checked.requesterPeerId = request.requesterPeerId
  names : checked.action = request.action ∧ checked.requestId = request.requestId
  clock : checked.now = now ∧ checked.issuedAt.toNat ≤ now.toNat + config.freshness.toNat

/-- Inversion of the checks. -/
theorem checkRequest_eq_ok {config : AuthConfig} {now : UInt64}
    {request : AuthRequest} {checked : CheckedRequest}
    (h : checkRequest config epoch now request = .ok checked) :
    request.Passes config epoch now checked := by
  obtain ⟨peer, hpeer, h⟩ := of_bind h
  obtain ⟨sealed, hsealed, h⟩ := of_okOr h
  obtain ⟨payload, hopen, h⟩ := of_bind h
  obtain ⟨issuedAt, hpayload, h⟩ := of_bind h
  obtain ⟨_, hfresh, h⟩ := of_bind h
  cases h
  obtain ⟨hreceiver, hsender, rfl⟩ := openJson_eq_ok_iff.mp hopen
  rw [checkFreshness] at hfresh
  obtain ⟨hlate, hfresh⟩ := of_throw hfresh
  obtain ⟨hearly, -⟩ := of_throw hfresh
  obtain ⟨_, hnames, hpayload⟩ := of_bind hpayload
  obtain ⟨hepoch, hpayload⟩ := of_throw hpayload
  rw [ensureAuthenticatedRequest] at hnames
  obtain ⟨haction, hnames⟩ := of_throw hnames
  obtain ⟨hrequest, -⟩ := of_throw hnames
  exact
    { action := not_not.mp haction
      requestId := not_not.mp hrequest
      epoch := not_not.mp hepoch
      issuedAt := eq_some_of_okOr hpayload
      fresh := by dsimp only; omega
      peer := ⟨peer, hpeer, hsender⟩
      receiver := hreceiver
      sealedPayload := hsealed
      requesterPeerId := rfl
      names := ⟨rfl, rfl⟩
      clock := ⟨rfl, by dsimp only; omega⟩ }

open Option

/-! ### What the table remembers -/

/-- The request whose key a call has inserted and not withdrawn. -/
def AuthCall.inserted : AuthCall → Option CheckedRequest
  | .saving request => some request
  | .saved request _ => some request
  | .succeeded request => some request
  | _ => none

namespace AuthListener

variable {ι : Type} [DecidableEq ι] {config : AuthConfig} {idOf : String → String}
  {s s' : AuthListener ι} {i j : ι} {request : CheckedRequest}

/-- The key of a call is in the table for as long as its payload is fresh, or else the table
was swept when it was no longer fresh. -/
def Remembers (config : AuthConfig) (s : AuthListener ι) (i : ι) (request : CheckedRequest) :
    Prop :=
  (∃ replay ∈ s.table.replays, replay.key = request.replayKey ∧ replay.owner = some i ∧
      min (request.issuedAt.toNat + config.freshness.toNat) (UInt64.size - 1) ≤
        replay.expiresAt) ∨
    request.issuedAt.toNat + config.freshness.toNat < s.lastSweep.toNat

/-- A request that has passed the checks, under the one peer id of its key. -/
structure Trusted (config : AuthConfig) (idOf : String → String) (epoch : String)
    (request : CheckedRequest) : Prop extends Checked config.freshness epoch request where
  requester : request.requesterPeerId = idOf request.sealedPayload.sender

/-- A call has inserted its key, in this process or an earlier one. -/
def Inserted (config : AuthConfig) (idOf : String → String) (s : AuthListener ι) (i : ι)
    (request : CheckedRequest) : Prop :=
  ∃ epoch ∈ s.epoch :: s.pastEpochs, Trusted config idOf epoch request ∧
    (epoch = s.epoch → s.Remembers config i request)

/-- What holds of a listener as long as its runs keep the conditions of `Careful`. -/
structure Valid (config : AuthConfig) (idOf : String → String) (s : AuthListener ι) : Prop where
  /-- a request that goes on has passed the checks -/
  checked : ∀ i request, s.calls i = .checked request → Trusted config idOf s.epoch request
  /-- an inserted key is remembered while its request is fresh -/
  inserted : ∀ i request, (s.calls i).inserted = some request → s.Inserted config idOf i request
  /-- one call for each payload -/
  unique : ∀ i j request request', (s.calls i).inserted = some request →
    (s.calls j).inserted = some request' → request.sealedPayload = request'.sealedPayload → i = j
  /-- every success is that of a call -/
  authenticated : ∀ sealed ∈ s.authenticated, ∃ i request,
    s.calls i = .succeeded request ∧ request.sealedPayload = sealed
  nodup : s.authenticated.Nodup

omit [DecidableEq ι] in
theorem valid_start (config : AuthConfig) (idOf : String → String) (epoch : String) :
    (start epoch : AuthListener ι).Valid config idOf where
  checked := by
    rintro i request ⟨⟩
  inserted := by
    rintro i request ⟨⟩
  unique := by
    rintro i j request request' ⟨⟩
  authenticated := by
    rintro sealed ⟨⟩
  nodup := List.nodup_nil

@[simp] theorem setCall_self (s : AuthListener ι) (i : ι) (call : AuthCall) :
    (s.setCall i call).calls i = call :=
  Function.update_self _ _ _

variable {call : AuthCall}

theorem setCall_of_ne (h : j ≠ i) : (s.setCall i call).calls j = s.calls j :=
  Function.update_of_ne h _ _

theorem succeed_setCall (s : AuthListener ι) (i : ι) (call : AuthCall) (request : CheckedRequest) :
    (s.setCall i call).succeed i request = s.succeed i request := by
  rw [succeed, succeed, setCall, setCall, Function.update_idem]
  rfl

/-- What is inserted once a call has gone on. -/
theorem inserted_setCall (hj : ((s.setCall i call).calls j).inserted = some request) :
    j = i ∧ call.inserted = some request ∨ j ≠ i ∧ (s.calls j).inserted = some request := by
  by_cases hne : j = i
  · subst hne
    rw [setCall_self] at hj
    exact .inl ⟨rfl, hj⟩
  · rw [setCall_of_ne hne] at hj
    exact .inr ⟨hne, hj⟩

omit [DecidableEq ι] in
theorem le_lastSweep_sweep (s : AuthListener ι) (now : UInt64) :
    s.lastSweep.toNat ≤ (s.sweep now).lastSweep.toNat ∧
      now.toNat ≤ (s.sweep now).lastSweep.toNat := by
  rw [sweep]
  split
  next hle => exact ⟨UInt64.le_iff_toNat_le.mp hle, Nat.le_refl _⟩
  next hlt => exact ⟨Nat.le_refl _, Nat.le_of_lt (Nat.lt_of_not_le fun h => hlt
      (UInt64.le_iff_toNat_le.mpr h))⟩

omit [DecidableEq ι] in
/-- The table forgets only what is no longer fresh at the time of the sweep. -/
theorem Remembers.sweep (h : s.Remembers config i request) (now : UInt64) :
    (s.sweep now).Remembers config i request := by
  obtain ⟨hlast, hsweep⟩ := s.le_lastSweep_sweep now
  obtain ⟨replay, hreplay, hkey, howner, hexpires⟩ | hold := h
  · by_cases hexpired : replay.expiresAt < now.toNat
    · refine .inr ?_
      have hnow := now.toNat_lt
      simp only [UInt64.size] at hexpires
      omega
    · refine .inl ⟨replay, List.mem_filter.mpr ⟨hreplay, ?_⟩, hkey, howner, hexpires⟩
      rw [decide_eq_false hexpired]
      rfl
  · exact .inr (Nat.lt_of_lt_of_le hold hlast)

omit [DecidableEq ι] in
theorem Valid.sweep (h : s.Valid config idOf) (now : UInt64) : (s.sweep now).Valid config idOf := by
  refine { h with inserted := fun i request hi => ?_ }
  obtain ⟨epoch, hepoch, htrusted, hremembers⟩ := h.inserted i request hi
  exact ⟨epoch, hepoch, htrusted, fun heq => (hremembers heq).sweep now⟩

variable (h : s.Valid config idOf)

include h

omit [DecidableEq ι] in
/-- **The table is enough.** A call that has passed the checks, has not read the clock before
the last sweep and does not find its key has a payload that no other call has inserted. -/
theorem Valid.sealedPayload_ne (hi : s.calls i = .checked request)
    (hclock : s.lastSweep ≤ request.now)
    (hkey : (s.sweep request.now).table.containsKey request.replayKey = false)
    {request' : CheckedRequest} (hj : (s.calls j).inserted = some request') :
    request'.sealedPayload ≠ request.sealedPayload := by
  intro hsealed
  have hchecked := h.checked i request hi
  obtain ⟨epoch, -, hchecked', hremembers⟩ := h.inserted j request' hj
  -- one payload: the requests differ at most in who is said to have sent it and when
  have haction := some.inj (hchecked'.action.symm.trans (hsealed ▸ hchecked.action))
  have hrequestId := some.inj (hchecked'.requestId.symm.trans (hsealed ▸ hchecked.requestId))
  have hissued := some.inj (hchecked'.issuedAt.symm.trans (hsealed ▸ hchecked.issuedAt))
  have hepoch := some.inj (hchecked'.epoch.symm.trans (hsealed ▸ hchecked.epoch))
  have hsame : request'.replayKey = request.replayKey := by
    rw [CheckedRequest.replayKey, CheckedRequest.replayKey, haction, hrequestId,
      hchecked'.requester, hchecked.requester, hsealed]
  obtain ⟨replay, hreplay, hreplayKey, -⟩ | hstale := (hremembers hepoch).sweep request.now
  · -- the key is still there, so the call would have been refused
    rw [ReplayTable.containsKey, List.any_eq_false] at hkey
    exact hkey replay hreplay (decide_eq_true (hreplayKey.trans hsame))
  · -- the payload was stale at the last sweep, and the clock of the call is not older
    have hsweep : (s.sweep request.now).lastSweep = request.now := if_pos hclock
    rw [hsweep, hissued] at hstale
    have hfresh := hchecked.fresh
    omega

variable (hnot : ∀ request, s.calls i ≠ .succeeded request)

include hnot

/-- A call that has not returned goes on, and the entries of the other calls stay. -/
theorem Valid.setCall {table : ReplayTable ι} {removals : List String}
    (hothers : ∀ replay ∈ s.table.replays, ∀ j ≠ i, replay.owner = some j →
      replay ∈ table.replays)
    (hchecked : ∀ request, call = .checked request → Trusted config idOf s.epoch request)
    (hinserted : ∀ request, call.inserted = some request →
      { s with table := table }.Inserted config idOf i request ∧
        ∀ j ≠ i, ∀ request', (s.calls j).inserted = some request' →
          request'.sealedPayload ≠ request.sealedPayload) :
    ({ s with table := table, removals := removals }.setCall i call).Valid config idOf := by
  refine ⟨fun j request hj => ?_, fun j request hj => ?_,
    fun j k request request' hj hk hsealed => ?_, fun sealed hsealed => ?_, h.nodup⟩
  · by_cases hne : j = i
    · subst hne
      rw [setCall_self] at hj
      exact hchecked request hj
    · rw [setCall_of_ne hne] at hj
      exact h.checked j request hj
  · obtain ⟨rfl, hnew⟩ | ⟨hne, hold⟩ := inserted_setCall hj
    · exact (hinserted request hnew).1
    · obtain ⟨epoch, hepoch, htrusted, hremembers⟩ := h.inserted j request hold
      refine ⟨epoch, hepoch, htrusted, fun heq => ?_⟩
      obtain ⟨replay, hreplay, hkey, howner, hexpires⟩ | hstale := hremembers heq
      · exact .inl ⟨replay, hothers replay hreplay j hne howner, hkey, howner, hexpires⟩
      · exact .inr hstale
  · obtain ⟨rfl, hnew⟩ | ⟨hji, hold⟩ := inserted_setCall hj
    · obtain ⟨hki, -⟩ | ⟨hki, hold'⟩ := inserted_setCall hk
      · exact hki.symm
      · exact absurd hsealed.symm ((hinserted request hnew).2 k hki request' hold')
    · obtain ⟨rfl, hnew'⟩ | ⟨-, hold'⟩ := inserted_setCall hk
      · exact absurd hsealed ((hinserted request' hnew').2 j hji request hold)
      · exact h.unique j k request request' hold hold' hsealed
  · obtain ⟨j, request, hj, hpayload⟩ := h.authenticated sealed hsealed
    refine ⟨j, request, (setCall_of_ne ?_).trans hj, hpayload⟩
    rintro rfl
    exact hnot request hj

/-- A call that fails. -/
theorem Valid.fail (error : RuntimeError) : (s.setCall i (.failed error)).Valid config idOf :=
  h.setCall hnot (fun _ hreplay _ _ _ => hreplay) (by rintro _ ⟨⟩) (by rintro _ ⟨⟩)

/-- A call inserts its key. -/
theorem Valid.insert (htrusted : Trusted config idOf s.epoch request)
    (hnew : ∀ j request', (s.calls j).inserted = some request' →
      request'.sealedPayload ≠ request.sealedPayload)
    (hkey : s.table.containsKey request.replayKey = false) (removals : List String) :
    ({ s with
        table := s.table.insert
          ⟨request.replayKey, request.expiresAt config.freshness, request.durable, some i⟩
        removals := removals }.setCall i (.saving request)).Valid config idOf := by
  refine h.setCall hnot (fun replay hreplay _ _ _ => ?_) (by rintro _ ⟨⟩) ?_
  · -- the inserted key does not displace another one, since it was not in the table
    rw [ReplayTable.containsKey, List.any_eq_false] at hkey
    refine List.mem_cons_of_mem _ (List.mem_filter.mpr ⟨hreplay, ?_⟩)
    exact (congrArg not (Bool.eq_false_iff.mpr (hkey replay hreplay))).trans rfl
  · rintro _ ⟨⟩
    refine ⟨⟨s.epoch, List.mem_cons_self, htrusted, fun _ => .inl
      ⟨_, List.mem_cons_self, rfl, rfl, ?_⟩⟩, fun j _ request' hj => hnew j request' hj⟩
    simp only [CheckedRequest.expiresAt]
    omega

/-- A call goes on with the key it has inserted. -/
theorem Valid.proceed (hi : (s.calls i).inserted = some request)
    (hcall : call.inserted = some request) (hpast : ∀ request', call ≠ .checked request') :
    (s.setCall i call).Valid config idOf := by
  refine h.setCall hnot (fun _ hreplay _ _ _ => hreplay) (fun _ heq => absurd heq (hpast _)) ?_
  intro _ heq
  cases hcall.symm.trans heq
  exact ⟨h.inserted i request hi, fun j hne request' hj hsealed =>
    hne (h.unique j i request' request hj hi hsealed)⟩

/-- The one call that has inserted a payload returns it, which nobody has done before. -/
theorem Valid.succeed (hi : (s.calls i).inserted = some request) :
    (s.succeed i request).Valid config idOf := by
  have hset : (s.setCall i (.succeeded request)).Valid config idOf :=
    h.proceed hnot hi rfl (by rintro _ ⟨⟩)
  refine { hset with authenticated := fun sealed hsealed => ?_, nodup := ?_ }
  · obtain rfl | hold := List.mem_cons.mp hsealed
    · exact ⟨i, request, setCall_self s i _, rfl⟩
    · exact hset.authenticated sealed hold
  · refine List.nodup_cons.mpr ⟨fun hmem => ?_, h.nodup⟩
    obtain ⟨j, request', hj, hpayload⟩ := h.authenticated _ hmem
    have hj' : (s.calls j).inserted = some request' := by rw [hj]; rfl
    obtain rfl := h.unique j i request' request hj' hi hpayload
    exact hnot request' hj

/-- A call whose record was not saved withdraws its own entry. -/
theorem Valid.withdraw (error : RuntimeError)
    (hown : ∀ replay ∈ s.table.replays, replay.key = request.replayKey → replay.owner = some i) :
    ({ s.setCall i (.failed error) with table := s.table.remove request.replayKey }).Valid
      config idOf := by
  refine h.setCall hnot (fun replay hreplay j hne howner => ?_) (by rintro _ ⟨⟩) (by rintro _ ⟨⟩)
  -- the entry of another call has another key
  refine List.mem_filter.mpr ⟨hreplay, ?_⟩
  have hother : replay.key ≠ request.replayKey := by
    intro heq
    cases howner.symm.trans (hown replay hreplay heq)
    exact hne rfl
  rw [decide_eq_false hother]
  rfl

omit h hnot

theorem inserted_stopped (h : (stopped call).inserted = some request) :
    call = .succeeded request := by
  cases call with
  | succeeded request' =>
    cases h
    rfl
  | _ => cases h

omit [DecidableEq ι] in
/-- A new process has an epoch of its own, so it accepts no payload that was inserted before. -/
theorem Valid.restart (h : s.Valid config idOf) {epoch : String}
    (hepoch : epoch ∉ s.epoch :: s.pastEpochs) (loaded : ReplayTable ι) :
    ({ s with
        epoch := epoch
        pastEpochs := s.epoch :: s.pastEpochs
        table := loaded
        disk := loaded
        removals := []
        calls := fun i => stopped (s.calls i) } : AuthListener ι).Valid config idOf := by
  have hold : ∀ j request', (stopped (s.calls j)).inserted = some request' →
      (s.calls j).inserted = some request' := by
    intro j request' hj
    rw [inserted_stopped hj]
    rfl
  refine ⟨fun j request' hj => ?_, fun j request' hj => ?_, fun j k request₁ request₂ hj hk =>
    h.unique j k request₁ request₂ (hold j request₁ hj) (hold k request₂ hk),
    fun sealed hsealed => ?_, h.nodup⟩
  · change stopped (s.calls j) = .checked request' at hj
    cases hcall : s.calls j <;> rw [hcall] at hj <;> cases hj
  · obtain ⟨epoch', hepoch', htrusted, -⟩ := h.inserted j request' (hold j request' hj)
    refine ⟨epoch', List.mem_cons_of_mem _ hepoch', htrusted, fun heq => ?_⟩
    have heq' : epoch' = epoch := heq
    exact absurd (heq' ▸ hepoch') hepoch
  · obtain ⟨j, request', hj, hpayload⟩ := h.authenticated sealed hsealed
    refine ⟨j, request', ?_, hpayload⟩
    change stopped (s.calls j) = _
    rw [hj]
    rfl

/-! ### Whole runs -/

/-- The conditions under which a payload is accepted at most once: a key passes the checks
under one peer id only; a call takes the lock of the table with a clock that is not older than
the last sweep; and a call that could not save its record finds no entry but its own under its
key. -/
def Careful (config : AuthConfig) (idOf : String → String) (s : AuthListener ι) :
    AuthMove ι → Prop
  | .check _ request => ∀ checked, request.Passes config s.epoch s.clock checked →
      checked.requesterPeerId = idOf checked.sealedPayload.sender
  | .enter i => ∀ request, s.calls i = .checked request → s.lastSweep ≤ request.now
  | .resume i => ∀ request error, s.calls i = .saved request (.error error) →
      ∀ replay ∈ s.table.replays, replay.key = request.replayKey → replay.owner = some i
  | _ => True

theorem Valid.enter (h : s.Valid config idOf) (hi : s.calls i = .checked request)
    (hclock : s.lastSweep ≤ request.now) : (s.enter config i request).Valid config idOf := by
  have hnot : ∀ request', (s.sweep request.now).calls i ≠ .succeeded request' := by
    change ∀ _, s.calls i ≠ _
    rw [hi]
    rintro _ ⟨⟩
  have hswept := h.sweep request.now
  rw [AuthListener.enter]
  split
  next => exact hswept.fail hnot _
  next hkey =>
  split
  next => exact hswept.fail hnot _
  next =>
    have hkey' := Bool.eq_false_iff.mpr hkey
    have hinsert := hswept.insert hnot (h.checked i request hi)
      (fun j request' hj => h.sealedPayload_ne hi hclock hkey' hj) hkey'
      (s.table.expiredDurable request.now ++ s.removals)
    split
    next => exact hinsert
    next =>
      rw [← succeed_setCall _ i (.saving request)]
      refine hinsert.succeed ?_ (by rw [setCall_self]; rfl)
      rw [setCall_self]
      rintro _ ⟨⟩

theorem Valid.step {move : AuthMove ι} (h : s.Valid config idOf)
    (hcareful : s.Careful config idOf move)
    (hstep : s.step config move = some s') : s'.Valid config idOf := by
  cases move with
  | check i request =>
    rw [AuthListener.step] at hstep
    split at hstep
    next hi =>
      have hnot : ∀ request, s.calls i ≠ .succeeded request := by simp [hi]
      split at hstep
      next =>
        cases hstep
        exact h.fail hnot _
      next checked hchecked =>
        cases hstep
        refine h.setCall hnot (fun _ hreplay _ _ _ => hreplay) ?_ (by rintro _ ⟨⟩)
        rintro _ ⟨⟩
        have hpasses := checkRequest_eq_ok hchecked
        exact ⟨hpasses.toChecked, hcareful checked hpasses⟩
    next => cases hstep
  | enter i =>
    rw [AuthListener.step] at hstep
    split at hstep
    next request hi =>
      cases hstep
      exact h.enter hi (hcareful request hi)
    next => cases hstep
  | save i outcome =>
    rw [AuthListener.step] at hstep
    split at hstep
    next request hi =>
      have hset : ∀ outcome, (s.setCall i (.saved request outcome)).Valid config idOf := by
        exact fun outcome => h.proceed (by simp [hi]) (by rw [hi]; rfl) rfl (by rintro _ ⟨⟩)
      split at hstep
      next error =>
        cases hstep
        exact hset _
      next =>
        cases hstep
        exact { hset (.ok ()) with }
    next => cases hstep
  | resume i =>
    rw [AuthListener.step] at hstep
    split at hstep
    next request hi =>
      cases hstep
      exact h.succeed (by simp [hi]) (by rw [hi]; rfl)
    next request error hi =>
      cases hstep
      exact h.withdraw (by simp [hi]) _ (hcareful request error hi)
    next => cases hstep
  | restart epoch =>
    rw [AuthListener.step, ite_none_left_eq_some] at hstep
    obtain ⟨hepoch, hstep⟩ := hstep
    rw [ite_none_left_eq_some] at hstep
    cases hstep.2
    exact h.restart hepoch _
  | _ =>
    rw [AuthListener.step, ite_none_right_eq_some] at hstep
    cases hstep.2
    exact { h with }

/-- **A sealed request is authenticated at most once**, in all processes together and for
every order of the calls, the clock, the disk and the restarts, if the conditions of
`Careful` hold along the run. -/
theorem authenticated_at_most_once {epoch : String} {moves : List (AuthMove ι)}
    (hcareful : Meets (AuthListener.step config) (Careful config idOf) (start epoch) moves) :
    Always (AuthListener.step config) (fun s => s.authenticated.Nodup)
      (start epoch : AuthListener ι) moves :=
  always_of_meets (I := Valid config idOf) Valid.nodup Valid.step (valid_start config idOf epoch)
    hcareful

/-! ### Runs that authenticate a payload -/

/-- A listener that takes a payload as fresh for ten milliseconds. -/
def shortFreshness : AuthConfig := ⟨"own-key", 10, 8, fun _ _ => true⟩

/-- A `close_task` request sealed by the peer. -/
def closePayload (requestId : String) (issuedAt : UInt64) : SealedJson :=
  ⟨"peer-key", "own-key", 0, .object [("action", .string "close_task"),
    ("request_id", .string requestId), ("owner_epoch", .string "epoch"),
    ("issued_at_unix_ms", .posInt issuedAt)]⟩

/-- The request with this payload, from a peer that is trusted under the id. -/
def closeRequest (peerId requestId : String) (issuedAt : UInt64) : AuthRequest :=
  ⟨peerId, some (closePayload requestId issuedAt), "close_task", requestId,
    .ok ⟨peerId, "Peer", "127.0.0.1:1", 1, "peer-key", 5, true⟩,
    PeerStore.empty.upsert ⟨peerId, "Peer", "peer-key", "", "", none, none⟩, fun _ => none⟩

/-- The request is accepted, and its replay is refused. -/
def replayRefused : List (AuthMove (Fin 2)) :=
  [.tick 100, .check 0 (closeRequest "peer" "close-1" 100), .enter 0, .save 0 (.ok ()), .resume 0,
    .tick 105, .check 1 (closeRequest "peer" "close-1" 100), .enter 1]

theorem authenticated_at_most_once_replayRefused :
    ∃ s : AuthListener (Fin 2),
      run (AuthListener.step shortFreshness) (start "epoch") replayRefused = some s ∧
      s.authenticated = [closePayload "close-1" 100] ∧ s.authenticated.Nodup := by
  obtain ⟨s, hrun, hone⟩ : ∃ s : AuthListener (Fin 2),
      run (AuthListener.step shortFreshness) (start "epoch") replayRefused = some s ∧
      s.authenticated = [closePayload "close-1" 100] := ⟨_, rfl, rfl⟩
  have hcareful : Meets (AuthListener.step shortFreshness)
      (Careful shortFreshness fun _ => "peer") (start "epoch") replayRefused := by
    refine .cons trivial rfl (.cons ?_ rfl (.cons ?_ rfl (.cons trivial rfl (.cons ?_ rfl
      (.cons trivial rfl (.cons ?_ rfl (.cons ?_ rfl trivial)))))))
    · exact fun checked hpasses => hpasses.requesterPeerId
    · rintro request ⟨⟩
      decide
    · rintro request error ⟨⟩
    · exact fun checked hpasses => hpasses.requesterPeerId
    · rintro request ⟨⟩
      decide
  exact ⟨s, hrun, hone, (authenticated_at_most_once hcareful).last hrun⟩

/-- The replay reads the clock in the last millisecond in which the payload is fresh, and
before it takes the lock another call sweeps the table one millisecond later. -/
def sweptBeforeEntry : List (AuthMove (Fin 3)) :=
  [.tick 100, .check 0 (closeRequest "peer" "close-1" 100), .enter 0, .save 0 (.ok ()), .resume 0,
    .tick 110, .check 1 (closeRequest "peer" "close-1" 100),
    .tick 111, .check 2 (closeRequest "peer" "close-2" 111), .enter 2,
    .enter 1, .save 1 (.ok ()), .resume 1]

/-- The payload is replayed under a second peer id that is trusted with the same key. -/
def otherPeerId : List (AuthMove (Fin 3)) :=
  [.tick 100, .check 0 (closeRequest "peer" "close-1" 100), .enter 0, .save 0 (.ok ()), .resume 0,
    .check 1 (closeRequest "other-peer" "close-1" 100), .enter 1, .save 1 (.ok ()), .resume 1]

/-- A record is saved so slowly that its entry has expired and its replay key is in use for
another payload; when saving fails, that payload's entry is removed. -/
def lateWithdrawal : List (AuthMove (Fin 3)) :=
  [.tick 100, .check 0 (closeRequest "peer" "close-1" 100), .enter 0,
    .tick 111, .check 1 (closeRequest "peer" "close-1" 111), .enter 1, .save 1 (.ok ()), .resume 1,
    .save 0 (.error (.taskFailed "")), .resume 0,
    .check 2 (closeRequest "peer" "close-1" 111), .enter 2, .save 2 (.ok ()), .resume 2]

/-- Without any one of the three conditions a sealed request is authenticated twice. -/
theorem replayed_request_authenticated :
    (∃ s : AuthListener (Fin 3),
      run (AuthListener.step shortFreshness) (start "epoch") sweptBeforeEntry = some s ∧
      s.authenticated = [closePayload "close-1" 100, closePayload "close-1" 100]) ∧
    (∃ s : AuthListener (Fin 3),
      run (AuthListener.step shortFreshness) (start "epoch") otherPeerId = some s ∧
      s.authenticated = [closePayload "close-1" 100, closePayload "close-1" 100]) ∧
    ∃ s : AuthListener (Fin 3),
      run (AuthListener.step shortFreshness) (start "epoch") lateWithdrawal = some s ∧
      s.authenticated = [closePayload "close-1" 111, closePayload "close-1" 111] :=
  ⟨⟨_, rfl, rfl⟩, ⟨_, rfl, rfl⟩, ⟨_, rfl, rfl⟩⟩

end AuthListener

end Kanna
