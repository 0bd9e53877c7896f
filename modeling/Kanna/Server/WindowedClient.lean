import Kanna.Server.TapStream

/-!
# A client in a stream

The client counts bytes, the tap replays from a count; both are right only together.
This module follows the frames and events on their way to a client: one after the
other, they are the output of one stream from the base window on.

* `TermClient.At` — the client is in a stream, with some bytes still to come.
* `TermClient.Follows` — it stays right whichever of the frames on their way it still
  gets.
* `Live` — what comes after those frames is on its way as events.
-/

namespace Kanna

universe u

variable {A : Type u}

/-! ## Frames -/

open List TapEvent

/-- **The client counts right**: the length it reads off a frame is that of the chunk. -/
theorem base64ByteLength_b64 (data : List UInt8) : base64ByteLength (b64 data) = data.length := by
  rw [base64ByteLength, b64, String.toList_ofList]
  split
  next hnil =>
    have hlen := Base64.length_encode data
    rw [hnil, length_nil] at hlen
    omega
  next => exact Base64.byteLength_encode data

namespace TermClient

theorem handleAll_append (client : TermClient) (fs gs : List (ServerFrame A)) :
    client.handleAll (fs ++ gs) = (client.handleAll fs).handleAll gs :=
  foldl_append

/-- The client shows the beginning of a stream, and `rest` is what it lacks. -/
structure At (client : TermClient) (g : Generation) (rest : List UInt8) : Prop where
  /-- `rest` is what the client has not got yet -/
  bytes : g.bytes = client.applied ++ rest
  base : client.base = some ⟨g.id, g.start⟩
  resume : client.resume = some ⟨g.id, g.start + client.applied.length⟩

variable {client : TermClient} {g : Generation} {rest : List UInt8}

theorem At.output {data : List UInt8} (h : client.At g (data ++ rest)) :
    (client.handleFrame (A := A) (.termOutput (b64 data))).At g rest := by
  rw [handleFrame, base64ByteLength_b64, b64, String.toList_ofList, Base64.decode_encode]
  refine ⟨h.bytes.trans (append_assoc ..).symm, h.base, ?_⟩
  simp [h.resume, Nat.add_assoc]

/-- A client that is nowhere has shown nothing; otherwise it is in a known stream. -/
def Tracks (generations : List Generation) (client : TermClient) : Prop :=
  client = new ∨ ∃ g ∈ generations, ∃ rest, client.At g rest

variable {generations : List Generation}

theorem At.tracks (h : client.At g rest) (hg : g ∈ generations) : client.Tracks generations :=
  .inr ⟨g, hg, rest, h⟩

/-- The client is right now, and after each of the frames. -/
def Follows (generations : List Generation) : TermClient → List (ServerFrame A) → Prop
  | client, [] => client.Tracks generations
  | client, frame :: frames =>
    client.Tracks generations ∧ Follows generations (client.handleFrame frame) frames

theorem Follows.tracks {frames : List (ServerFrame A)} (h : Follows generations client frames) :
    client.Tracks generations := by
  cases frames with
  | nil => exact h
  | cons => exact h.1

theorem follows_append {fs gs : List (ServerFrame A)} :
    Follows generations client (fs ++ gs) ↔
      Follows generations client fs ∧ Follows generations (client.handleAll fs) gs := by
  induction fs generalizing client with
  | nil => exact ⟨fun h => ⟨h.tracks, h⟩, fun h => h.2⟩
  | cons frame fs ih =>
    rw [cons_append, Follows, Follows, ih, and_assoc]
    rfl

/-- Chunk after chunk the client moves on in its stream. -/
theorem At.outputs (hg : g ∈ generations) (chunks : List (List UInt8))
    (h : client.At g (chunks.flatten ++ rest)) :
    Follows generations client (chunks.map fun chunk => (.termOutput (b64 chunk) : ServerFrame A)) ∧
      (client.handleAll
        (chunks.map fun chunk => (.termOutput (b64 chunk) : ServerFrame A))).At g rest := by
  induction chunks generalizing client with
  | nil => exact ⟨h.tracks hg, h⟩
  | cons chunk chunks ih =>
    rw [flatten_cons, append_assoc] at h
    obtain ⟨hfollows, hat⟩ := ih (h.output (A := A))
    exact ⟨⟨h.tracks hg, hfollows⟩, hat⟩

/-- The frames after the first bring the client to the end of its stream. -/
theorem At.catchUp
    (hg : g ∈ generations) {replay : List (List UInt8)} (h : client.At g replay.flatten)
    (status : Option SessionStatus) :
    Follows (A := A) generations client (TapTask.catchUp status replay) ∧
      (client.handleAll (A := A) (TapTask.catchUp status replay)).At g [] := by
  have hrest : client.At g (replay.flatten ++ []) := by rwa [append_nil]
  obtain ⟨houtput, hat⟩ := hrest.outputs (A := A) hg replay
  rw [TapTask.catchUp, follows_append, handleAll_append]
  -- a status carries no terminal data
  cases status with
  | none => exact ⟨⟨h.tracks hg, houtput⟩, hat⟩
  | some status => exact ⟨⟨⟨h.tracks hg, h.tracks hg⟩, houtput⟩, hat⟩

end TermClient

/-! ## Streams only grow -/

/-- Every stream is still there, perhaps with more output. -/
def Grown (generations generations' : List Generation) : Prop :=
  ∀ g ∈ generations, ∃ g' ∈ generations', g'.id = g.id ∧ g'.start = g.start ∧
    ∃ more, g'.bytes = g.bytes ++ more

theorem grown_of_subset {generations generations' : List Generation}
    (h : generations ⊆ generations') : Grown generations generations' :=
  fun g hg => ⟨g, h hg, rfl, rfl, [], (append_nil _).symm⟩

theorem grown_record (data : List UInt8) (generations : List Generation) :
    Grown generations (WindowedStream.record data generations) := by
  intro g hg
  rcases generations with _ | ⟨current, older⟩
  · cases hg
  · rcases mem_cons.mp hg with heq | hold
    · exact ⟨_, mem_cons_self, by rw [heq], by rw [heq], data, by rw [heq]⟩
    · exact ⟨g, mem_cons_of_mem _ hold, rfl, rfl, [], (append_nil _).symm⟩

variable {client : TermClient} {g : Generation}

theorem TermClient.At.grown {g' : Generation} {rest more : List UInt8}
    (h : client.At g rest) (hid : g'.id = g.id) (hstart : g'.start = g.start)
    (hbytes : g'.bytes = g.bytes ++ more) : client.At g' (rest ++ more) := by
  refine ⟨?_, ?_, ?_⟩
  · rw [hbytes, h.bytes, append_assoc]
  · rw [hid, hstart]
    exact h.base
  · rw [hid, hstart]
    exact h.resume

variable {generations generations' : List Generation}

theorem TermClient.Tracks.grown
    (h : client.Tracks generations) (hgrown : Grown generations generations') :
    client.Tracks generations' := by
  rcases h with hnew | ⟨g, hg, rest, hat⟩
  · exact .inl hnew
  · obtain ⟨g', hg', hid, hstart, more, hbytes⟩ := hgrown g hg
    exact (hat.grown hid hstart hbytes).tracks hg'

theorem TermClient.Follows.grown (hgrown : Grown generations generations')
    {frames : List (ServerFrame A)} (h : Follows generations client frames) :
    Follows generations' client frames := by
  induction frames generalizing client with
  | nil => exact h.tracks.grown hgrown
  | cons frame frames ih => exact ⟨h.1.grown hgrown, ih h.2⟩

/-! ## Events -/

/-- The output among some events, up to the one that ends the subscription. -/
def outputs : List TapEvent → List UInt8
  | [] => []
  | .output data :: events => data ++ outputs events
  | .snapshot :: _ => []
  | .status _ :: events | .exit _ :: events | .failed .. :: events => outputs events

variable {events : List TapEvent}

/-- After a snapshot event nothing more is received. -/
theorem outputs_append_of_mem (h : TapEvent.snapshot ∈ events) (more : List TapEvent) :
    outputs (events ++ more) = outputs events := by
  induction events with
  | nil => cases h
  | cons event events ih =>
    cases event with
    | snapshot => rfl
    | output data =>
      have hmem := (mem_cons.mp h).resolve_left TapEvent.noConfusion
      rw [cons_append, outputs, outputs, ih hmem]
    | status | exit | failed =>
      have hmem := (mem_cons.mp h).resolve_left TapEvent.noConfusion
      rw [cons_append, outputs, outputs, ih hmem]

theorem outputs_append_of_not_mem (h : snapshot ∉ events) (more : List TapEvent) :
    outputs (events ++ more) = outputs events ++ outputs more := by
  induction events with
  | nil => rfl
  | cons event events ih =>
    have hmem : snapshot ∉ events := fun hm => h (mem_cons_of_mem _ hm)
    cases event with
    | snapshot => exact absurd mem_cons_self h
    | output data => rw [cons_append, outputs, outputs, ih hmem, append_assoc]
    | status | exit | failed => rw [cons_append, outputs, outputs, ih hmem]

/-- The events on their way are the rest of the stream: all of it, unless an event
tells that there is a newer one. -/
def Live (generations : List Generation) (client : TermClient) (streamId : ℕ)
    (pending : List TapEvent) : Prop :=
  ∃ g ∈ generations, g.id = streamId ∧ ∃ rest, client.At g (outputs pending ++ rest) ∧
    (TapEvent.snapshot ∉ pending → rest = [])

variable {streamId : ℕ} {pending : List TapEvent}

theorem Live.mono (h : Live generations client streamId pending)
    (hkept : ∀ g ∈ generations, g ∈ generations') : Live generations' client streamId pending := by
  obtain ⟨g, hg, hrest⟩ := h
  exact ⟨g, hkept g hg, hrest⟩

/-- An event without output. -/
theorem Live.hear (h : Live generations client streamId pending) {event : TapEvent}
    (hevent : outputs [event] = []) : Live generations client streamId (pending ++ [event]) := by
  obtain ⟨g, hg, hid, rest, hat, hlast⟩ := h
  refine ⟨g, hg, hid, rest, ?_, fun hno => ?_⟩
  · by_cases hmem : snapshot ∈ pending
    · rwa [outputs_append_of_mem hmem]
    · rwa [outputs_append_of_not_mem hmem, hevent, append_nil]
  · exact hlast fun hmem => hno (mem_append_left _ hmem)

variable {older : List Generation}

/-- Output of the stream the client is served. -/
theorem Live.output_current (h : Live (g :: older) client g.id pending)
    (hdistinct : ((g :: older).map Generation.id).Nodup) (data : List UInt8) :
    Live (WindowedStream.record data (g :: older)) client g.id (pending ++ [.output data]) := by
  obtain ⟨g', hg', hid, rest, hat, hlast⟩ := h
  -- only one stream has this id
  have heq : g' = g := by
    rcases mem_cons.mp hg' with heq | hold
    · exact heq
    · rw [map_cons, nodup_cons] at hdistinct
      exact absurd (hid ▸ mem_map_of_mem hold) hdistinct.1
  subst heq
  refine ⟨{ g' with bytes := g'.bytes ++ data }, mem_cons_self, rfl, ?_⟩
  have hgrown : client.At { g' with bytes := g'.bytes ++ data } (outputs pending ++ rest ++ data) :=
    hat.grown rfl rfl rfl
  by_cases hmem : snapshot ∈ pending
  · refine ⟨rest ++ data, ?_, fun hno => absurd (mem_append_left _ hmem) hno⟩
    rwa [outputs_append_of_mem hmem, ← append_assoc]
  · refine ⟨[], ?_, fun _ => rfl⟩
    rw [hlast hmem, append_nil] at hgrown
    rw [outputs_append_of_not_mem hmem, append_nil]
    simpa [outputs] using hgrown

/-- Output of another stream, which the client is told about, or none at all. -/
theorem Live.output_other (h : Live (g :: older) client streamId pending) (hother : streamId ≠ g.id)
    {data : List UInt8} (htold : data = [] ∨ snapshot ∈ pending) :
    Live (WindowedStream.record data (g :: older)) client streamId (pending ++ [.output data]) := by
  obtain ⟨g', hg', hid, rest, hat, hlast⟩ := h
  have hold : g' ∈ older := (mem_cons.mp hg').resolve_left fun heq => by
    rw [heq] at hid
    exact hother hid.symm
  refine ⟨g', mem_cons_of_mem _ hold, hid, rest, ?_, fun hno => ?_⟩
  · by_cases hmem : snapshot ∈ pending
    · rwa [outputs_append_of_mem hmem]
    · obtain rfl := htold.resolve_right hmem
      rw [outputs_append_of_not_mem hmem]
      simpa [outputs] using hat
  · exact hlast fun hmem => hno (mem_append_left _ hmem)

end Kanna
