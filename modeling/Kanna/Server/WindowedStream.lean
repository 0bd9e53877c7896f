import Mathlib.Data.List.Nodup
import Kanna.Server.WindowedClient

/-!
# What a windowed client shows

Every step of the tap, of the task that serves a client and of the client keeps the
invariant `Inv`: the client, the frames on their way and the events not received yet
are the output of one stream, up to the last byte published.

Output that is published while the client takes it for that of an older stream would
break it; the driver of the tap, `run_terminal_tap`, publishes none.
-/

namespace Kanna

universe u

variable {A : Type u}

/-! ## The task -/

variable {task : TapTask A} {event : TapEvent} {events : TapReceiver}
  {resume : Option TermResumePosition}

namespace TapTask

@[simp] theorem unsent_hear (task : TapTask A) (event : TapEvent) :
    (task.hear event).unsent = task.unsent := by
  cases task <;> rfl

end TapTask

theorem TapReceiver.hear_not_lagged (h : (events.hear event).lagged = false) :
    events.lagged = false ∧ (events.hear event).pending = events.pending ++ [event] := by
  unfold hear at h ⊢
  split at h
  next hroom =>
    rw [if_pos hroom]
    exact ⟨h, rfl⟩
  next => cases h

variable {shared : TapShared A} {base : TapBase A} {streamId offset : ℕ}
  {replay : List (List UInt8)} {status : Option SessionStatus}

/-- What the tap offers a client. -/
def TapShared.Offers (shared : TapShared A) (resume : Option TermResumePosition) :
    TapAttach A → Prop
  | .notReady | .needsRestart => True
  | .fresh streamId offset _ replay _ => shared.base.isSome = true ∧ streamId = shared.streamId ∧
      offset = shared.baseOffset ∧ shared.ring.replayFrom shared.baseOffset = some replay
  | .resumed streamId offset _ replay _ => ∃ position, resume = some position ∧
      position.streamId = shared.streamId ∧ streamId = shared.streamId ∧
      offset = position.offset ∧ shared.ring.replayFrom position.offset = some replay

theorem TapShared.offers_attachFresh {b : TapBase A} (hb : shared.base = some b)
    (resume : Option TermResumePosition) : shared.Offers resume (shared.attachFresh b) := by
  unfold attachFresh
  split
  next => trivial
  next replay hreplay =>
  split
  next => trivial
  next => exact ⟨hb ▸ rfl, rfl, rfl, hreplay⟩

theorem TapShared.offers_attach (shared : TapShared A) (resume : Option TermResumePosition) :
    shared.Offers resume (shared.attach resume) := by
  unfold attach
  split
  next => trivial
  next b hb =>
  have hfresh := offers_attachFresh hb resume
  split
  next => exact hfresh
  next position =>
  split
  next hid =>
    split
    next replay hreplay => exact ⟨position, rfl, hid, rfl, rfl, hreplay⟩
    next => exact hfresh
  next => exact hfresh

/-! ## The invariant -/

open TapTask TermClient List Option

namespace WindowedStream

/-- The tap's state is that of its newest stream. -/
structure Current (shared : TapShared A) (g : Generation) : Prop where
  id : g.id = shared.streamId
  records : shared.ring.Records g.start g.bytes
  base : shared.base.isSome = true → shared.baseOffset = g.start

/-- The task goes on from where the frames on their way leave the client. -/
def Serves (generations : List Generation) (client : TermClient) (queue : List (ServerFrame A)) :
    TapTask A → Prop
  -- a position is presented before any frame is on its way
  | .attaching resume => ∀ position, resume = some position →
    queue = [] ∧ client.resume = some position
  -- what comes after those frames is on its way as events
  | .streaming streamId unsent events => events.lagged = false →
    Live generations (client.handleAll (queue ++ unsent)) streamId events.pending
  | _ => True

variable {generations generations' : List Generation} {client : TermClient}
  {queue : List (ServerFrame A)}

theorem Serves.mono (h : Serves generations client queue task)
    (hkept : ∀ g ∈ generations, g ∈ generations') : Serves generations' client queue task := by
  cases task with
  | streaming => exact fun hlagged => (h hlagged).mono hkept
  | attaching | waiting | closing | done => exact h

theorem Serves.hear (h : Serves generations client queue task)
    (hlive : ∀ client streamId unsent events, task = .streaming streamId unsent events →
      events.lagged = false → Live generations client streamId events.pending →
      Live generations' client streamId (events.pending ++ [event])) :
    Serves generations' client queue (task.hear event) := by
  cases task with
  | streaming streamId unsent events =>
    intro hlagged
    obtain ⟨hbefore, hpending⟩ := TapReceiver.hear_not_lagged hlagged
    rw [hpending]
    exact hlive _ streamId unsent events rfl hbefore (h hbefore)
  | attaching | waiting | closing | done => exact h

theorem Serves.handle {frame : ServerFrame A}
    (h : Serves generations client (frame :: queue) task) :
    Serves generations (client.handleFrame frame) queue task := by
  cases task with
  | attaching => exact fun position hresume => nomatch (h position hresume).1
  | streaming | waiting | closing | done => exact h

/-- From the tap to the client nothing is lost, doubled or mixed up. -/
structure Inv (w : WindowedStream A) : Prop where
  /-- a stream id names one stream -/
  distinct : (w.generations.map Generation.id).Nodup
  /-- and was minted -/
  minted : ∀ g ∈ w.generations, g.id ∈ w.ids
  /-- the newest stream is the tap's -/
  current : ∃ g older, w.generations = g :: older ∧ Current w.shared g
  /-- the frames on their way keep the client right -/
  follows : TermClient.Follows w.generations w.client (w.queue ++ w.task.unsent)
  /-- and what the task sends after them fits -/
  serves : Serves w.generations w.client w.queue w.task
  /-- a lost socket leaves nothing behind -/
  offline : w.connected = false → w.queue = [] ∧ w.task = .done

theorem inv_new (idBase nextId : ℕ) : (new idBase nextId : WindowedStream A).Inv where
  distinct := nodup_singleton _
  minted g hg := by
    cases mem_singleton.mp hg
    exact mem_singleton.mpr rfl
  current := ⟨_, [], rfl, rfl, OutputRing.records_new _, nofun⟩
  follows := .inl rfl
  serves := trivial
  offline _ := ⟨rfl, rfl⟩

variable {w w' : WindowedStream A}

variable (h : w.Inv)

include h

/-- **The client shows what was published.** -/
theorem Inv.exact : w.Exact := by
  refine ⟨h.distinct, fun hnone => ?_, fun position hpos => ?_⟩
  · rcases h.follows.tracks with hnew | ⟨g, -, rest, hat⟩
    · rw [hnew]
      exact ⟨rfl, rfl⟩
    · rw [hat.resume] at hnone
      cases hnone
  · rcases h.follows.tracks with hnew | ⟨g, hg, rest, hat⟩
    · rw [hnew] at hpos
      cases hpos
    · rw [hat.resume] at hpos
      cases hpos
      refine ⟨⟨g.id, g.start⟩, hat.base, rfl, g, hg, rfl, Nat.le_refl _, Nat.le_add_right _ _,
        ?_, ?_⟩
      · rw [hat.bytes, length_append]
        exact Nat.add_le_add_left (Nat.le_add_right _ _) _
      · rw [Generation.between, hat.bytes]
        simp

/-- Every broadcast: the tap changes, the client only has one more event to come. -/
theorem Inv.broadcast (event : TapEvent) {nextId : ℕ} {shared : TapShared A} {ids : List ℕ}
    {generations : List Generation} (hdistinct : (generations.map Generation.id).Nodup)
    (hminted : ∀ g ∈ generations, g.id ∈ ids)
    (hcurrent : ∃ g older, generations = g :: older ∧ Current shared g)
    (hgrown : Grown w.generations generations)
    (hlive : ∀ client streamId unsent events, w.task = .streaming streamId unsent events →
      events.lagged = false → Live w.generations client streamId events.pending →
      Live generations client streamId (events.pending ++ [event])) :
    ({ w with nextId, shared, task := w.task.hear event, ids, generations }).Inv := by
  refine ⟨hdistinct, hminted, hcurrent, ?_, h.serves.hear hlive, fun hoff => ?_⟩
  · rw [unsent_hear]
    exact h.follows.grown hgrown
  · obtain ⟨hq, ht⟩ := h.offline hoff
    rw [ht]
    exact ⟨hq, rfl⟩

section Proceed

variable {before : TapTask A} (htask : w.task = before)
  (hdone : before ≠ .done)

include htask hdone

/-- The task goes on and the tap stays as it is. -/
theorem Inv.proceed
    (hfollows : TermClient.Follows w.generations w.client (queue ++ task.unsent))
    (hserves : Serves w.generations w.client queue task) : ({ w with task, queue }).Inv := by
  refine ⟨h.distinct, h.minted, h.current, hfollows, hserves, fun hoff => ?_⟩
  exact absurd (htask.symm.trans (h.offline hoff).2) hdone

omit hdone

variable (hunsent : before.unsent = [])

include hunsent

theorem Inv.follows_queue : TermClient.Follows w.generations w.client w.queue := by
  have hall := h.follows
  rwa [htask, hunsent, append_nil] at hall

/-- The frames on their way are followed by one that changes nothing. -/
theorem Inv.follows_queue_snoc {frame : ServerFrame A}
    (hframe : ∀ client : TermClient, client.handleFrame frame = client) :
    TermClient.Follows w.generations w.client (w.queue ++ [frame]) := by
  have hall := h.follows
  rw [htask, hunsent] at hall
  obtain ⟨hqueue, hlast⟩ := follows_append.mp hall
  refine follows_append.mpr ⟨hqueue, hlast, ?_⟩
  rw [hframe]
  exact hlast

include hdone

/-- The task has nothing to send. -/
theorem Inv.idle (hidle : task.unsent = [])
    (hserves : Serves w.generations w.client w.queue task) : ({ w with task }).Inv := by
  refine h.proceed htask hdone ?_ hserves
  rw [hidle, append_nil]
  exact h.follows_queue htask hunsent

theorem Inv.closing {frame : ServerFrame A}
    (hframe : ∀ client : TermClient, client.handleFrame frame = client) :
    ({ w with task := .closing frame }).Inv :=
  h.proceed htask hdone (h.follows_queue_snoc htask hunsent hframe) trivial

end Proceed

/-! ## Publishing -/

/-- An id that was not minted before starts a new stream. -/
theorem distinct_cons {g : Generation} (hfresh : g.id ∉ w.ids) :
    ((g :: w.generations).map Generation.id).Nodup := by
  rw [map_cons, nodup_cons]
  refine ⟨fun hmem => ?_, h.distinct⟩
  obtain ⟨g', hg', hid⟩ := mem_map.mp hmem
  exact hfresh (hid ▸ h.minted g' hg')

theorem inv_publishSnapshot
    (windowSnapshot : String → UInt16 → String × List String) (snapshot : TerminalSnapshot)
    (agentProvider : Option A) (hfresh : w.FreshIds (.publishSnapshot snapshot agentProvider)) :
    (w.publishSnapshot windowSnapshot snapshot agentProvider).Inv := by
  have hid : terminalTapId w.idBase (w.nextId + 1) ∉ w.ids := fun hmem =>
    (nodup_cons.mp hfresh).1 (mem_cons_of_mem _ hmem)
  refine h.broadcast .snapshot (distinct_cons h hid) ?_
    ⟨_, _, rfl, rfl, OutputRing.records_resetTo _ _, fun _ => rfl⟩
    (grown_of_subset (subset_cons_self _ _)) (fun client streamId unsent events _ _ hlive => ?_)
  · exact forall_mem_cons.mpr ⟨mem_cons_self,
      fun g hg => mem_cons_of_mem _ (mem_cons_of_mem _ (h.minted g hg))⟩
  · exact (hlive.hear rfl).mono fun g hg => mem_cons_of_mem _ hg

theorem inv_publishOutput (data : List UInt8)
    (hstale : data = [] ∨ w.stale = false) : (w.publishOutput data).Inv := by
  obtain ⟨g, older, hgenerations, hcurrent⟩ := h.current
  have hrecorded : record data w.generations = { g with bytes := g.bytes ++ data } :: older := by
    rw [hgenerations]
    rfl
  have hids : (record data w.generations).map Generation.id = w.generations.map Generation.id := by
    rw [hrecorded, hgenerations]
    rfl
  refine h.broadcast (.output data) ?_ (fun g' hg' => ?_)
    ⟨_, older, hrecorded, hcurrent.id, hcurrent.records.push data, hcurrent.base⟩
    (grown_record data w.generations) (fun client streamId unsent events htask hlagged hlive => ?_)
  · rw [hids]
    exact h.distinct
  · have hmem : g'.id ∈ (record data w.generations).map Generation.id := mem_map_of_mem hg'
    rw [hids] at hmem
    obtain ⟨g'', hg'', hid⟩ := mem_map.mp hmem
    exact hid ▸ h.minted g'' hg''
  · have hdistinct := h.distinct
    rw [hgenerations] at hlive hdistinct ⊢
    by_cases hsame : streamId = g.id
    · subst hsame
      exact hlive.output_current hdistinct data
    · refine hlive.output_other hsame (hstale.imp_right fun hno => ?_)
      -- the client is on an older stream, so it has to be told
      rw [stale, htask, behind] at hno
      have hne : (streamId != w.shared.streamId) = true := by
        rw [bne_iff_ne, ← hcurrent.id]
        exact hsame
      simpa [hne, hlagged] using hno

theorem inv_invalidateStream (hfresh : w.FreshIds .invalidateStream) : w.invalidateStream.Inv where
  distinct := distinct_cons h (nodup_cons.mp hfresh).1
  minted := forall_mem_cons.mpr ⟨mem_cons_self, fun g hg => mem_cons_of_mem _ (h.minted g hg)⟩
  current := ⟨_, _, rfl, rfl, OutputRing.records_resetTo _ _, fun _ => rfl⟩
  follows := h.follows.grown (grown_of_subset (subset_cons_self _ _))
  serves := h.serves.mono fun _ hg => mem_cons_of_mem _ hg
  offline := h.offline

/-! ## Attaching -/

variable {resume : Option TermResumePosition} {frame : ServerFrame A}

variable (htask : w.task = .attaching resume)

include htask

/-- The first frame brings the client to a position in a stream, and the others to its end. -/
theorem inv_attached {g : Generation} (hg : g ∈ w.generations) (status : Option SessionStatus)
    (hat : ((w.client.handleAll w.queue).handleFrame frame).At g replay.flatten) :
    ({ w with task := .streaming g.id (frame :: catchUp status replay) .new }).Inv := by
  have hall := h.follows
  rw [htask] at hall
  obtain ⟨hqueue, hlast⟩ := follows_append.mp hall
  obtain ⟨hfollows, hend⟩ := hat.catchUp (A := A) hg status
  refine h.proceed htask nofun (follows_append.mpr ⟨hqueue, hlast, hfollows⟩) fun _ => ?_
  refine ⟨g, hg, rfl, [], ?_, fun _ => rfl⟩
  rw [handleAll_append]
  exact hend

/-- A base window, and everything published since. -/
theorem inv_attach_fresh
    (hoffers : w.shared.Offers resume (.fresh streamId offset base replay status)) :
    ({ w with task := .ofAttach (.fresh streamId offset base replay status) }).Inv := by
  obtain ⟨hbase, rfl, rfl, hreplay⟩ := hoffers
  obtain ⟨g, older, hgenerations, hcurrent⟩ := h.current
  obtain ⟨before, hbytes, hoffset⟩ := hcurrent.records.replayFrom hreplay
  have hnil : before = [] := eq_nil_of_length_eq_zero (by
    have := hcurrent.base hbase
    omega)
  subst hnil
  rw [← hcurrent.id, hcurrent.base hbase]
  exact inv_attached h htask (hgenerations ▸ mem_cons_self) status ⟨hbytes, rfl, rfl⟩

/-- The position presented, and everything published since. -/
theorem inv_attach_resumed
    (hoffers : w.shared.Offers resume (.resumed streamId offset base replay status)) :
    ({ w with task := .ofAttach (.resumed streamId offset base replay status) }).Inv := by
  obtain ⟨position, rfl, hid, rfl, rfl, hreplay⟩ := hoffers
  obtain ⟨g, older, hgenerations, hcurrent⟩ := h.current
  have hg : g ∈ w.generations := hgenerations ▸ mem_cons_self
  have hserves := h.serves
  rw [htask] at hserves
  obtain ⟨hqueue, hresume⟩ := hserves position rfl
  obtain ⟨before, hbytes, hoffset⟩ := hcurrent.records.replayFrom hreplay
  -- the position is one in the tap's stream, and the client has what comes before it
  have hat : w.client.At g replay.flatten := by
    rcases h.follows.tracks with hnew | ⟨g', hg', rest, hat'⟩
    · rw [hnew] at hresume
      cases hresume
    · have hposition := hat'.resume
      rw [hresume] at hposition
      cases hposition
      have heq : g' = g := inj_on_of_nodup_map h.distinct hg' hg (hid.trans hcurrent.id.symm)
      subst heq
      have hlength : w.client.applied.length = before.length := Nat.add_left_cancel hoffset
      have hsplit := hat'.bytes.symm.trans hbytes
      obtain ⟨-, hrest⟩ := append_inj hsplit hlength
      rwa [hrest] at hat'
  have hsame : { w.client with resume := some ⟨g.id, position.offset⟩ } = w.client := by
    rw [hcurrent.id, ← hid]
    exact congrArg (fun r => { w.client with resume := r }) hresume.symm
  rw [← hcurrent.id]
  refine inv_attached h htask hg status ?_
  rw [hqueue]
  exact hsame.symm ▸ hat

omit htask

/-! ## The task and the client -/

/-- The task receives an event of the stream it serves. -/
theorem inv_serve (htask : w.task = .streaming streamId [] events)
    (hlagged : events.lagged = false) {rest : List TapEvent}
    (hpending : events.pending = event :: rest) :
    ({ w with task := .serve streamId events.drop event }).Inv := by
  have hopen : (.streaming streamId [] events : TapTask A) ≠ .done := by rintro ⟨⟩
  have hdrop : events.drop.pending = rest := by
    rw [TapReceiver.drop, hpending]
    rfl
  have hserves := h.serves
  rw [htask] at hserves
  obtain ⟨g, hg, hid, more, hat, hlast⟩ := hserves hlagged
  rw [append_nil, hpending] at hat
  rw [hpending] at hlast
  have hleft : TapEvent.snapshot ≠ event → .snapshot ∉ events.drop.pending → more = [] := by
    intro hother hno
    rw [hdrop] at hno
    exact hlast fun hm => hno ((mem_cons.mp hm).resolve_left hother)
  cases event with
  | output data =>
    rw [outputs, append_assoc] at hat
    refine h.proceed htask hopen ?_ fun _ => ⟨g, hg, hid, more, ?_, hleft (by rintro ⟨⟩)⟩
    · exact follows_append.mpr
        ⟨h.follows_queue htask rfl, hat.tracks hg, (hat.output (A := A)).tracks hg⟩
    · rw [handleAll_append, hdrop]
      exact hat.output (A := A)
  | status status =>
    rw [outputs] at hat
    refine h.proceed htask hopen (h.follows_queue_snoc htask rfl fun _ => rfl) fun _ =>
      ⟨g, hg, hid, more, ?_, hleft (by rintro ⟨⟩)⟩
    rw [handleAll_append, hdrop]
    exact hat
  | snapshot => exact h.idle htask hopen rfl rfl (by rintro _ ⟨⟩)
  | exit | failed => exact h.closing htask hopen rfl fun _ => rfl

/-- The task waits for a base. -/
theorem inv_wake (htask : w.task = .waiting events) (event : TapEvent) :
    ({ w with task := .wake events.drop event }).Inv := by
  cases event with
  | snapshot => exact h.idle htask nofun rfl rfl nofun
  | output | status => exact h.idle htask nofun rfl rfl trivial
  | exit | failed => exact h.closing htask nofun rfl fun _ => rfl

theorem inv_recv (hrecv : w.task.recv = some task) : ({ w with task := task }).Inv := by
  unfold recv at hrecv
  split at hrecv
  next events htask =>
    split at hrecv
    next =>
      cases hrecv
      exact h.idle htask nofun rfl rfl nofun
    next =>
      obtain ⟨event, hevent, rfl⟩ := map_eq_some_iff.mp hrecv
      exact inv_wake h htask event
  next streamId events htask =>
    split at hrecv
    next =>
      cases hrecv
      exact h.idle htask nofun rfl rfl nofun
    next hlagged =>
      obtain ⟨event, hevent, rfl⟩ := map_eq_some_iff.mp hrecv
      obtain ⟨rest, hpending⟩ := head?_eq_some_iff.mp hevent
      exact inv_serve h htask (Bool.not_eq_true _ ▸ hlagged) hpending
  next => cases hrecv

theorem inv_send (hsend : w.task.send = some (frame, task)) :
    ({ w with queue := w.queue ++ [frame], task := task }).Inv := by
  have hfollows := h.follows
  have hserves := h.serves
  unfold send at hsend
  split at hsend
  next streamId frame' unsent events htask =>
    cases hsend
    rw [htask] at hfollows hserves
    rw [TapTask.unsent, append_cons] at hfollows
    rw [Serves, append_cons] at hserves
    exact h.proceed htask nofun hfollows hserves
  next frame' htask =>
    cases hsend
    rw [htask, unsent, ← append_nil (w.queue ++ [frame])] at hfollows
    exact h.proceed htask nofun hfollows trivial
  next => cases hsend

theorem inv_handle (hqueue : w.queue = frame :: queue) :
    ({ w with queue := queue, client := w.client.handleFrame frame }).Inv := by
  have hfollows := h.follows
  have hserves := h.serves
  rw [hqueue] at hfollows hserves
  refine ⟨h.distinct, h.minted, h.current, hfollows.2, hserves.handle, fun hoff => ?_⟩
  have hnil := (h.offline hoff).1
  rw [hqueue] at hnil
  cases hnil

theorem inv_reconnect (hoff : w.connected = false) :
    ({ w with connected := true, task := .attaching w.client.resume }).Inv := by
  obtain ⟨hqueue, htask⟩ := h.offline hoff
  refine ⟨h.distinct, h.minted, h.current, ?_, fun _ hresume => ⟨hqueue, hresume⟩, nofun⟩
  have hfollows := h.follows
  rw [htask] at hfollows
  exact hfollows

theorem inv_attach (htask : w.task = .attaching resume) :
    ({ w with task := if w.finished then .done else .ofAttach (w.shared.attach resume) }).Inv := by
  split
  next => exact h.idle htask nofun rfl rfl trivial
  next =>
    have hoffers := w.shared.offers_attach resume
    generalize w.shared.attach resume = offer at hoffers
    cases offer with
    | notReady | needsRestart => exact h.idle htask nofun rfl rfl trivial
    | fresh => exact inv_attach_fresh h htask hoffers
    | resumed => exact inv_attach_resumed h htask hoffers

omit h

/-! ## Every run -/

/-- Ids are distinct, and no output is taken for that of an older stream. -/
def Orderly (w : WindowedStream A) (a : TapAction A) : Prop := w.FreshIds a ∧ w.NoStaleOutput a

instance (w : WindowedStream A) (a : TapAction A) : Decidable (w.Orderly a) :=
  inferInstanceAs (Decidable (w.FreshIds a ∧ w.NoStaleOutput a))

variable (windowSnapshot : String → UInt16 → String × List String)

theorem inv_step {a : TapAction A} (h : w.Inv) (hG : w.Orderly a)
    (hstep : w.step windowSnapshot a = some w') : w'.Inv := by
  cases a with
  | mint =>
    cases hstep
    exact { h with minted := fun g hg => mem_cons_of_mem _ (h.minted g hg) }
  | publishSnapshot snapshot agentProvider =>
    cases hstep
    exact inv_publishSnapshot h windowSnapshot snapshot agentProvider hG.1
  | publishOutput data =>
    cases hstep
    exact inv_publishOutput h data hG.2
  | publishStatus status =>
    cases hstep
    obtain ⟨g, older, hgenerations, hcurrent⟩ := h.current
    exact h.broadcast (.status status) h.distinct h.minted
      ⟨g, older, hgenerations, hcurrent.id, hcurrent.records, hcurrent.base⟩
      (grown_of_subset (.refl _)) fun _ _ _ _ _ _ hl => hl.hear rfl
  | invalidateStream =>
    cases hstep
    exact inv_invalidateStream h hG.1
  | announce event =>
    have hquiet : outputs [event] = [] ∧ w' = { w with task := w.task.hear event } := by
      simp only [step] at hstep
      cases event <;> cases hstep <;> exact ⟨rfl, rfl⟩
    obtain ⟨hevent, rfl⟩ := hquiet
    exact h.broadcast event h.distinct h.minted h.current (grown_of_subset (.refl _))
      fun _ _ _ _ _ _ hl => hl.hear hevent
  | finish =>
    cases hstep
    exact { h with }
  | attach =>
    simp only [step] at hstep
    split at hstep
    next resume htask =>
      cases hstep
      exact inv_attach h htask
    next => cases hstep
  | recv =>
    obtain ⟨task, hrecv, rfl⟩ := map_eq_some_iff.mp hstep
    exact inv_recv h hrecv
  | send =>
    obtain ⟨⟨frame, task⟩, hsend, rfl⟩ := map_eq_some_iff.mp hstep
    exact inv_send h hsend
  | handle =>
    simp only [step] at hstep
    split at hstep
    next frame queue hqueue =>
      cases hstep
      exact inv_handle h hqueue
    next => cases hstep
  | disconnect =>
    simp only [step] at hstep
    split at hstep <;> cases hstep
    exact ⟨h.distinct, h.minted, h.current, h.follows.tracks, trivial, fun _ => ⟨rfl, rfl⟩⟩
  | reconnect =>
    simp only [step] at hstep
    obtain ⟨hoff, hstep⟩ := of_exit hstep
    cases hstep
    exact inv_reconnect h (Bool.not_eq_true _ ▸ hoff)

/-- **No byte is lost, doubled or taken from another stream.** For every interleaving
of the tap's operations with attaches, losses of the socket and re-attaches of a
client, whatever its ids start from: if the ids minted are pairwise distinct and no
output is published while the client takes it for that of an older stream, then at
every moment the client shows exactly what was published. -/
theorem applied_exact (idBase nextId : ℕ) (as : List (TapAction A))
    (h : Meets (step windowSnapshot) Orderly (new idBase nextId) as) :
    Always (step windowSnapshot) Exact (new idBase nextId) as :=
  always_of_meets Inv.exact (inv_step windowSnapshot) (inv_new idBase nextId) h

/-- A run with a lost socket: the client gets the window and one of two chunks, loses
the other on the way, and is sent it when it attaches again. -/
def lostFrameRun : List (TapAction Unit) :=
  [.publishSnapshot ⟨"w", 80, 24⟩ none, .reconnect, .attach, .send, .handle,
    .publishOutput [1, 2], .publishOutput [3], .recv, .send, .recv, .send, .handle, .disconnect,
    .reconnect, .attach, .send, .send, .handle, .handle]

theorem applied_exact_lostFrameRun :
    Meets (step fun vt _ => (vt, [])) Orderly (new 100 1) lostFrameRun ∧
      Always (step fun vt _ => (vt, [])) Exact (new 100 1) lostFrameRun :=
  ⟨by decide, applied_exact _ 100 1 lostFrameRun (by decide)⟩

/-- **Output on an invalidated stream**: a client that was attached before takes it for
output of the stream it knows. -/
theorem output_after_invalidation_misplaced :
    Meets (step fun vt _ => (vt, [])) FreshIds (new 100 1 : WindowedStream Unit)
        [.publishSnapshot ⟨"w", 80, 24⟩ none, .reconnect, .attach, .send, .handle,
          .invalidateStream, .publishOutput [7], .recv, .send, .handle] ∧
      ¬ Always (step fun vt _ => (vt, [])) Exact (new 100 1 : WindowedStream Unit)
        [.publishSnapshot ⟨"w", 80, 24⟩ none, .reconnect, .attach, .send, .handle,
          .invalidateStream, .publishOutput [7], .recv, .send, .handle] := by
  refine ⟨by decide, fun h => ?_⟩
  have hrun : (run (step fun vt _ => (vt, [])) (new 100 1 : WindowedStream Unit)
      [.publishSnapshot ⟨"w", 80, 24⟩ none, .reconnect, .attach, .send, .handle,
        .invalidateStream, .publishOutput [7], .recv, .send, .handle]).map
        (fun w => (w.client, w.generations)) =
      some (⟨some ⟨103, 1⟩, some ⟨103, 0⟩, [7]⟩, [⟨104, 0, [7]⟩, ⟨103, 0, []⟩, ⟨101, 0, []⟩]) := by
    decide
  obtain ⟨w, hw, hstate⟩ := map_eq_some_iff.mp hrun
  obtain ⟨hclient, hgenerations⟩ := Prod.mk.inj hstate
  obtain ⟨base, -, -, g, hg, hid, -, -, hend, -⟩ := (h.last hw).applied ⟨103, 1⟩ (by rw [hclient])
  rw [hgenerations] at hg
  -- the stream the client knows has no output
  rcases mem_cons.mp hg with rfl | hg
  · cases hid
  · rcases mem_cons.mp hg with rfl | hg
    · exact absurd hend (by decide)
    · cases mem_singleton.mp hg
      cases hid

end WindowedStream

/-! ## The driver of the tap

`run_terminal_tap` publishes output only on a daemon connection whose snapshot it has
published, and invalidates the stream when it leaves the connection. So a tap with a
base has told every client of it. -/

namespace TapTask

variable {task : TapTask A} {current : ℕ}

theorem behind_hear (h : (task.hear event).behind current = true) : task.behind current = true := by
  cases task with
  | streaming streamId unsent events =>
    rw [hear, behind, Bool.and_eq_true, Bool.and_eq_true, Bool.not_eq_true', Bool.not_eq_true'] at h
    obtain ⟨⟨hlagged, hno⟩, hother⟩ := h
    obtain ⟨hl, hpending⟩ := TapReceiver.hear_not_lagged hlagged
    rw [hpending, contains_eq_mem, decide_eq_false_iff_not, mem_append, not_or] at hno
    rw [behind, hl, hother]
    simp [hno.1]
  | attaching | waiting | closing | done => cases h

theorem behind_hear_snapshot (task : TapTask A) (current : ℕ) :
    (task.hear .snapshot).behind current = false := by
  cases task with
  | streaming streamId unsent events =>
    rw [hear, behind]
    rcases hl : (events.hear .snapshot).lagged with _ | _
    · simp [(TapReceiver.hear_not_lagged hl).2]
    · rfl
  | attaching | waiting | closing | done => rfl

theorem behind_recv {task' : TapTask A} (hrecv : task.recv = some task')
    (h : task'.behind current = true) : task.behind current = true := by
  unfold recv at hrecv
  split at hrecv
  next events =>
    split at hrecv
    next =>
      cases hrecv
      cases h
    next =>
      obtain ⟨event, -, rfl⟩ := map_eq_some_iff.mp hrecv
      cases event <;> cases h
  next streamId events =>
    split at hrecv
    next =>
      cases hrecv
      cases h
    next hlagged =>
      obtain ⟨event, hevent, rfl⟩ := map_eq_some_iff.mp hrecv
      obtain ⟨rest, hpending⟩ := head?_eq_some_iff.mp hevent
      have hdrop : events.drop.pending = rest := by
        rw [TapReceiver.drop, hpending]
        rfl
      cases event with
      | output | status =>
        rw [serve, behind, hdrop] at h
        rw [behind, hpending]
        simpa [TapReceiver.drop] using h
      | snapshot | exit | failed => cases h
  next => cases hrecv

theorem behind_send {task' : TapTask A} {frame : ServerFrame A}
    (hsend : task.send = some (frame, task')) (h : task'.behind current = true) :
    task.behind current = true := by
  unfold send at hsend
  split at hsend
  next =>
    cases hsend
    exact h
  next =>
    cases hsend
    cases h
  next => cases hsend

theorem behind_ofAttach (shared : TapShared A) (resume : Option TermResumePosition) :
    (ofAttach (shared.attach resume)).behind shared.streamId = false := by
  have hoffers := shared.offers_attach resume
  generalize shared.attach resume = offer at hoffers
  cases offer with
  | notReady | needsRestart => rfl
  | fresh =>
    obtain ⟨-, rfl, -⟩ := hoffers
    simp [ofAttach, behind]
  | resumed =>
    obtain ⟨position, -, -, rfl, -⟩ := hoffers
    simp [ofAttach, behind]

end TapTask

/-- The driver and what it drives. -/
structure DrivenStream (A : Type u) : Type u where
  /-- a snapshot was published on the present daemon connection -/
  attached : Bool
  stream : WindowedStream A

namespace DrivenStream

/-- What `run_terminal_tap` may do, and whether it is attached afterwards. -/
def drives (attached : Bool) : TapAction A → Option Bool
  -- the reply to the attach, or a later snapshot
  | .publishSnapshot .. => some true
  | .publishOutput _ | .publishStatus _ => if attached then some true else none
  -- a restart was asked for, or the daemon is lost
  | .invalidateStream => some false
  | .announce .snapshot => if attached then none else some false
  | _ => some attached

variable (windowSnapshot : String → UInt16 → String × List String)

/-- The interleaving semantics of the driver with everything else. -/
def step (d : DrivenStream A) (a : TapAction A) : Option (DrivenStream A) :=
  (drives d.attached a).bind fun attached =>
    (d.stream.step windowSnapshot a).map fun stream => ⟨attached, stream⟩

/-- A new tap. -/
def new (idBase nextId : ℕ) : DrivenStream A := ⟨false, .new idBase nextId⟩

/-- An attached driver has published a base, and every client knows of it. -/
structure Told (d : DrivenStream A) : Prop where
  /-- output is published only on top of a snapshot -/
  base : d.attached = true → d.stream.shared.base.isSome = true
  /-- no client takes it for output of an older stream -/
  told : d.stream.shared.base.isSome = true → d.stream.stale = false

variable {windowSnapshot}

variable {a : TapAction A}

/-- Only an invalidation takes the base away, and then the driver is not attached; and while a
tap has a base, no client gets behind. -/
theorem Told.step {attached attached' : Bool} {w w' : WindowedStream A}
    (h : Told ⟨attached, w⟩)
    (hdrives : drives attached a = some attached') (hstep : w.step windowSnapshot a = some w') :
    Told ⟨attached', w'⟩ := by
  obtain ⟨hbase, htold⟩ := h
  have hkept : ∀ {task : TapTask A},
      (task.behind w.shared.streamId = true → w.task.behind w.shared.streamId = true) →
      w.shared.base.isSome = true → task.behind w.shared.streamId = false := by
    intro task himp hsome
    by_contra hbehind
    have hstale := himp (Bool.not_eq_false _ ▸ hbehind)
    rw [← WindowedStream.stale, htold hsome] at hstale
    cases hstale
  cases a <;> simp only [WindowedStream.step] at hstep
  case mint | finish =>
    cases hstep
    cases hdrives
    exact ⟨hbase, htold⟩
  case publishSnapshot snapshot agentProvider =>
    cases hstep
    exact ⟨fun _ => rfl, fun _ => behind_hear_snapshot _ _⟩
  case publishOutput | publishStatus =>
    cases hstep
    rw [drives] at hdrives
    obtain ⟨hattached, hdrives⟩ := of_check hdrives
    exact ⟨fun _ => hbase hattached, hkept behind_hear⟩
  case invalidateStream =>
    cases hstep
    cases hdrives
    exact ⟨nofun, nofun⟩
  case announce event =>
    cases event with
    | output | status => cases hstep
    | snapshot =>
      cases hstep
      rw [drives] at hdrives
      split at hdrives <;> cases hdrives
      exact ⟨nofun, hkept behind_hear⟩
    | exit | failed =>
      cases hstep
      cases hdrives
      exact ⟨hbase, hkept behind_hear⟩
  case attach =>
    split at hstep <;> cases hstep
    cases hdrives
    refine ⟨hbase, fun _ => ?_⟩
    rw [WindowedStream.stale]
    split
    · rfl
    · exact behind_ofAttach _ _
  case recv =>
    obtain ⟨task, hrecv, rfl⟩ := map_eq_some_iff.mp hstep
    cases hdrives
    exact ⟨hbase, hkept (behind_recv hrecv)⟩
  case send =>
    obtain ⟨⟨frame, task⟩, hsend, rfl⟩ := map_eq_some_iff.mp hstep
    cases hdrives
    exact ⟨hbase, hkept (behind_send hsend)⟩
  case handle =>
    split at hstep <;> cases hstep
    cases hdrives
    exact ⟨hbase, htold⟩
  case disconnect | reconnect =>
    split at hstep <;> cases hstep
    cases hdrives
    exact ⟨hbase, fun _ => rfl⟩

variable {d d' : DrivenStream A}

/-- The driver does not publish output while a client takes it for that of an older stream. -/
theorem Told.noStaleOutput (h : d.Told) {attached : Bool}
    (hdrives : drives d.attached a = some attached) : d.stream.NoStaleOutput a := by
  cases a with
  | publishOutput data =>
    rw [drives] at hdrives
    obtain ⟨hattached, hdrives⟩ := of_check hdrives
    exact .inr (h.told (h.base hattached))
  | _ => trivial

/-- One step of the driver and what it drives. -/
theorem Told.step_driven (h : d.Told) (hstep : d.step windowSnapshot a = some d') :
    d'.Told ∧ d.stream.NoStaleOutput a ∧ d.stream.step windowSnapshot a = some d'.stream := by
  obtain ⟨attached, hdrives, hmap⟩ := bind_eq_some_iff.mp hstep
  obtain ⟨stream, hstream, rfl⟩ := map_eq_some_iff.mp hmap
  exact ⟨h.step hdrives hstream, h.noStaleOutput hdrives, hstream⟩

theorem told_new (idBase nextId : ℕ) : (new idBase nextId : DrivenStream A).Told := ⟨nofun, nofun⟩

/-- In every run, the driver publishes output only when no client takes it for that of an older
stream. -/
theorem driven_noStaleOutput (idBase nextId : ℕ) (as : List (TapAction A)) :
    Always (step windowSnapshot) (fun d => ∀ a attached, drives d.attached a = some attached →
      d.stream.NoStaleOutput a) (new idBase nextId) as :=
  (always_of_invariant (fun h hstep => (Told.step_driven h hstep).1) as
    (told_new idBase nextId)).mono fun h _ _ => h.noStaleOutput

/-- **As the tap is driven**, the client shows exactly what was published, as long as
the ids minted are pairwise distinct. -/
theorem driven_exact (idBase nextId : ℕ) (as : List (TapAction A))
    (h : Meets (step windowSnapshot) (fun d a => d.stream.FreshIds a) (new idBase nextId) as) :
    Always (step windowSnapshot) (fun d => d.stream.Exact) (new idBase nextId) as :=
  always_of_meets (I := fun d => d.stream.Inv ∧ d.Told) (fun hd => hd.1.exact)
    (fun hd hfresh hstep => by
      obtain ⟨htold, houtput, hstream⟩ := hd.2.step_driven hstep
      exact ⟨WindowedStream.inv_step windowSnapshot hd.1 ⟨hfresh, houtput⟩ hstream, htold⟩)
    ⟨WindowedStream.inv_new idBase nextId, told_new idBase nextId⟩ h

theorem driven_exact_lostFrameRun :
    Meets (step fun vt _ => (vt, [])) (fun d a => d.stream.FreshIds a) (new 100 1)
        WindowedStream.lostFrameRun ∧
      Always (step fun vt _ => (vt, [])) (fun d => d.stream.Exact) (new 100 1)
        WindowedStream.lostFrameRun :=
  ⟨by decide, driven_exact 100 1 _ (by decide)⟩

end DrivenStream

end Kanna
