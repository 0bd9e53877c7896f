import Kanna.Daemon.FanoutDelivery

/-!
# Segments of a terminal stream

What a viewer of a session has to receive: a sequence of segments, each a
snapshot of the terminal followed by consecutive output chunks. The terminal is a
state `T` with `write : T → C → T`; a snapshot carries the state it was taken in.
Output carries the number of its chunk and a snapshot the number of chunks it
contains; the source has no such numbers, they say here which chunk a line is
about.

* `Segmented` — a sequence of segments. Replaying one gives the session's screen
  (`replay_segmented`).
* `Bare` — what comes before the first snapshot: consecutive output chunks.
* `Tracks` — what the fanout offered to one registration, dropped chunks included,
  and where that leaves the stream. What was queued is bare up to the first snapshot
  and segmented from there on (`Tracks.segments`), and after a dropped chunk the next
  terminal line is a snapshot that contains it (`Tracks.after_dropped`).
-/

namespace Kanna

universe u v

/-- `SessionStatus` of the protocol. -/
inductive SessionStatus where
  /-- the agent works -/
  | busy
  /-- the agent waits for an answer -/
  | waiting
  /-- the agent is idle -/
  | idle
  deriving DecidableEq

/-- The events that go through a session's fanout. -/
inductive SessionEvent (T : Type u) (C : Type v) : Type (max u v) where
  /-- chunk number `index` of the PTY's output -/
  | output (index : ℕ) (data : C)
  /-- the terminal after the first `upTo` chunks -/
  | snapshot (upTo : ℕ) (screen : T)
  /-- the stand-in for a snapshot that could not be taken -/
  | blankSnapshot
  /-- the session's status -/
  | statusChanged (status : SessionStatus)
  /-- the session is over -/
  | exit (code : ℤ)
  deriving DecidableEq

variable {T : Type u} {C : Type v}

/-- Lines that change what a viewer sees. -/
def SessionEvent.isTerminal : SessionEvent T C → Bool
  | .output .. | .snapshot .. | .blankSnapshot => true
  | .statusChanged _ | .exit _ => false

/-- The terminal lines among some lines. -/
def terminalEvents (lines : List (EventLine (SessionEvent T C))) : List (SessionEvent T C) :=
  (lines.map EventLine.event).filter SessionEvent.isTerminal

@[simp] theorem terminalEvents_append (ls ms : List (EventLine (SessionEvent T C))) :
    terminalEvents (ls ++ ms) = terminalEvents ls ++ terminalEvents ms := by
  simp [terminalEvents]

/-! ## Segments and their replay -/

open List

section Replay

variable (write : T → C → T) (init : T)

/-- The session's terminal after its first `n` chunks. -/
def screenAt (chunks : List C) (n : ℕ) : T := (chunks.take n).foldl write init

/-- What a viewer shows after some lines; `none` before the first snapshot. -/
def replay (events : List (SessionEvent T C)) : Option T :=
  events.foldl (fun screen event =>
    match event with
    | .snapshot _ shot => some shot
    | .output _ data => screen.map (write · data)
    | _ => screen) none

/-- Segments of the session with the given chunks, ending after chunk `n`: each
starts with a snapshot of the terminal and goes on with consecutive chunks. -/
inductive Segmented (chunks : List C) : List (SessionEvent T C) → ℕ → Prop where
  /-- the first segment starts -/
  | first {n : ℕ} (hn : n ≤ chunks.length) :
      Segmented chunks [.snapshot n (screenAt write init chunks n)] n
  /-- the segment goes on with the next chunk -/
  | next {events : List (SessionEvent T C)} {n : ℕ} {data : C}
      (h : Segmented chunks events n) (hdata : chunks[n]? = some data) :
      Segmented chunks (events ++ [.output n data]) (n + 1)
  /-- a new segment starts, at the same point or later -/
  | again {events : List (SessionEvent T C)} {m n : ℕ} (h : Segmented chunks events m)
      (hmn : m ≤ n) (hn : n ≤ chunks.length) :
      Segmented chunks (events ++ [.snapshot n (screenAt write init chunks n)]) n

variable {write init}

variable {n : ℕ} {chunks : List C}

theorem screenAt_succ {data : C} (h : chunks[n]? = some data) :
    screenAt write init chunks (n + 1) = write (screenAt write init chunks n) data := by
  rw [screenAt, screenAt, take_add_one, h, foldl_append]
  rfl

/-- The past of the terminal does not change. -/
theorem screenAt_append (hn : n ≤ chunks.length) (more : List C) :
    screenAt write init (chunks ++ more) n = screenAt write init chunks n := by
  rw [screenAt, screenAt, take_append_of_le_length hn]

variable {events : List (SessionEvent T C)}

variable (h : Segmented write init chunks events n)

include h

/-- **Replaying segments reproduces the session's terminal**. -/
theorem replay_segmented : replay write events = some (screenAt write init chunks n) := by
  induction h with
  | first _ => rfl
  | next _ hdata ih =>
    rw [replay] at ih
    rw [replay, foldl_append, ih, screenAt_succ hdata]
    rfl
  | again _ _ _ _ =>
    rw [replay, foldl_append]
    rfl

/-- Segments end at a chunk the session has seen. -/
theorem Segmented.le_length : n ≤ chunks.length := by
  cases h with
  | first hn => exact hn
  | next _ hdata =>
    obtain ⟨hlt, -⟩ := List.getElem?_eq_some_iff.mp hdata
    exact hlt
  | again _ _ hn => exact hn

/-- Every nonempty beginning of segments is made of segments. -/
theorem Segmented.of_prefix {pre : List (SessionEvent T C)} (hpre : pre <+: events)
    (hne : pre ≠ []) : ∃ m, Segmented write init chunks pre m := by
  induction h with
  | @first n hn =>
    obtain hlt | heq := Nat.lt_or_eq_of_le hpre.length_le
    · exact absurd (length_eq_zero_iff.mp (by simpa using hlt)) hne
    · rw [hpre.eq_of_length heq]
      exact ⟨n, .first hn⟩
  | next h' hdata ih =>
    obtain heq | hpre := prefix_concat_iff.mp hpre
    · rw [heq]
      exact ⟨_, .next h' hdata⟩
    · exact ih hpre
  | again h' hmn hn ih =>
    obtain heq | hpre := prefix_concat_iff.mp hpre
    · rw [heq]
      exact ⟨_, .again h' hmn hn⟩
    · exact ih hpre

end Replay

/-- Output without an authoritative snapshot before it: consecutive chunks that end
before chunk `n`. The stand-in for a snapshot may come first. -/
inductive Bare (chunks : List C) : List (SessionEvent T C) → ℕ → Prop where
  /-- nothing yet -/
  | nil {n : ℕ} : Bare chunks [] n
  /-- a snapshot could not be taken -/
  | blank {n : ℕ} : Bare chunks [.blankSnapshot] n
  /-- the next chunk -/
  | next {events : List (SessionEvent T C)} {n : ℕ} {data : C} (h : Bare chunks events n)
      (hdata : chunks[n]? = some data) : Bare chunks (events ++ [.output n data]) (n + 1)

/-- Every beginning of bare output is bare output. -/
theorem Bare.of_prefix {chunks : List C} {pre events : List (SessionEvent T C)} {n : ℕ}
    (h : Bare chunks events n) (hpre : pre <+: events) : ∃ m, Bare chunks pre m := by
  induction h with
  | nil =>
    rw [prefix_nil.mp hpre]
    exact ⟨0, .nil⟩
  | blank =>
    obtain rfl | hpre := prefix_concat_iff.mp (show pre <+: [] ++ [_] from hpre)
    · exact ⟨0, .blank⟩
    · rw [prefix_nil.mp hpre]
      exact ⟨0, .nil⟩
  | next h hdata ih =>
    obtain rfl | hpre := prefix_concat_iff.mp hpre
    · exact ⟨_, .next h hdata⟩
    · exact ih hpre

/-! ## What one registration was offered -/

/-- Where a registration's stream stands. -/
inductive Sync where
  /-- no authoritative snapshot yet, and no chunk missed since it registered; the
  next is number `n` -/
  | bare (n : ℕ)
  /-- in step after `n` chunks -/
  | inStep (n : ℕ)
  /-- chunks were dropped, the last of them number `n - 1` -/
  | missed (n : ℕ)

/-- The chunks a stream has been offered so far. -/
def Sync.position : Sync → ℕ
  | .bare n => n
  | .inStep n => n
  | .missed n => n

section Tracking

variable (write : T → C → T) (init : T)

/-- The offers to a registration, and where they leave it. After a dropped chunk
only a snapshot that contains it puts the stream back in step. A registration that is
hydrated gets no chunk before its first snapshot. -/
inductive Tracks (hydrated : Bool) (chunks : List C) :
    List (Offer (SessionEvent T C)) → Sync → Prop where
  /-- nothing was offered -/
  | nil {n : ℕ} (hn : n ≤ chunks.length) : Tracks hydrated chunks [] (.bare n)
  /-- the stand-in for a snapshot is queued -/
  | blank {n bytes : ℕ} (hbare : hydrated = false) (hn : n ≤ chunks.length) :
      Tracks hydrated chunks [.queued ⟨.blankSnapshot, bytes⟩] (.bare n)
  /-- a status or exit line is queued -/
  | other {os : List (Offer (SessionEvent T C))} {σ : Sync} {line : EventLine (SessionEvent T C)}
      (h : Tracks hydrated chunks os σ) (hline : line.event.isTerminal = false) :
      Tracks hydrated chunks (os ++ [.queued line]) σ
  /-- the next chunk is queued without a snapshot before it -/
  | lead {os : List (Offer (SessionEvent T C))} {n bytes : ℕ} {data : C}
      (h : Tracks hydrated chunks os (.bare n)) (hbare : hydrated = false)
      (hdata : chunks[n]? = some data) :
      Tracks hydrated chunks (os ++ [.queued ⟨.output n data, bytes⟩]) (.bare (n + 1))
  /-- a snapshot is queued -/
  | snapshot {os : List (Offer (SessionEvent T C))} {σ : Sync} {n bytes : ℕ}
      (h : Tracks hydrated chunks os σ) (hpos : σ.position ≤ n) (hn : n ≤ chunks.length) :
      Tracks hydrated chunks (os ++ [.queued ⟨.snapshot n (screenAt write init chunks n), bytes⟩])
        (.inStep n)
  /-- the next chunk is queued -/
  | output {os : List (Offer (SessionEvent T C))} {n bytes : ℕ} {data : C}
      (h : Tracks hydrated chunks os (.inStep n)) (hdata : chunks[n]? = some data) :
      Tracks hydrated chunks (os ++ [.queued ⟨.output n data, bytes⟩]) (.inStep (n + 1))
  /-- a chunk is dropped -/
  | missed {os : List (Offer (SessionEvent T C))} {σ : Sync} {n bytes : ℕ} {data : C}
      (h : Tracks hydrated chunks os σ) (hpos : σ.position ≤ n) (hn : n < chunks.length) :
      Tracks hydrated chunks (os ++ [.dropped ⟨.output n data, bytes⟩]) (.missed (n + 1))
  /-- another line is dropped -/
  | skipped {os : List (Offer (SessionEvent T C))} {σ : Sync}
      {line : EventLine (SessionEvent T C)} (h : Tracks hydrated chunks os σ)
      (hline : ∀ n data, line.event ≠ .output n data) :
      Tracks hydrated chunks (os ++ [.dropped line]) σ

variable {write init} {hydrated : Bool} {chunks : List C} {os : List (Offer (SessionEvent T C))}
  {σ : Sync}

theorem Tracks.position_le (h : Tracks write init hydrated chunks os σ) :
    σ.position ≤ chunks.length := by
  induction h with
  | nil hn | blank _ hn => exact hn
  | other _ _ ih | snapshot _ _ ih | missed _ _ ih | skipped _ _ ih => exact ih
  | lead _ _ hdata _ | output _ hdata _ =>
    obtain ⟨hlt, -⟩ := List.getElem?_eq_some_iff.mp hdata
    exact hlt

/-- Offers of the past stay what they were while the session goes on. -/
theorem Tracks.append (h : Tracks write init hydrated chunks os σ) (more : List C) :
    Tracks write init hydrated (chunks ++ more) os σ := by
  have hle : chunks.length ≤ (chunks ++ more).length := by
    rw [length_append]
    exact Nat.le_add_right _ _
  have hget : ∀ {n : ℕ} {data : C}, chunks[n]? = some data → (chunks ++ more)[n]? = some data := by
    intro n data hdata
    obtain ⟨hlt, -⟩ := List.getElem?_eq_some_iff.mp hdata
    rw [getElem?_append_left hlt, hdata]
  induction h with
  | nil hn => exact .nil (hn.trans hle)
  | blank hbare hn => exact .blank hbare (hn.trans hle)
  | other _ hline ih => exact .other ih hline
  | lead _ hbare hdata ih => exact .lead ih hbare (hget hdata)
  | snapshot _ hpos hn ih =>
    rw [← screenAt_append hn more]
    exact .snapshot ih hpos (hn.trans hle)
  | output _ hdata ih => exact .output ih (hget hdata)
  | missed _ hpos hn ih => exact .missed ih hpos (Nat.lt_of_lt_of_le hn hle)
  | skipped _ hline ih => exact .skipped ih hline

/-- Several lines, each of which leaves the stream where it is. -/
theorem Tracks.lines {P : EventLine (SessionEvent T C) → Prop}
    (hline : ∀ {os line}, P line → Tracks write init hydrated chunks os σ →
      Tracks write init hydrated chunks (os ++ [.queued line]) σ)
    (h : Tracks write init hydrated chunks os σ)
    {lines : List (EventLine (SessionEvent T C))} (hlines : ∀ line ∈ lines, P line) :
    Tracks write init hydrated chunks (os ++ lines.map .queued) σ := by
  induction lines generalizing os with
  | nil => rwa [map_nil, append_nil]
  | cons line lines ih =>
    obtain ⟨hfirst, hlines⟩ := forall_mem_cons.mp hlines
    rw [map_cons, append_cons]
    exact ih (hline hfirst h) hlines

/-- The lead and the segments behind it, as far as the stream has come. -/
def Sync.Fits (write : T → C → T) (init : T) (chunks : List C)
    (lead rest : List (SessionEvent T C)) : Sync → Prop
  | .bare n => rest = [] ∧ Bare chunks lead n
  | .inStep n => Segmented write init chunks rest n
  | .missed n => rest = [] ∨ ∃ m, m ≤ n ∧ Segmented write init chunks rest m

/-- A snapshot starts a segment wherever the stream stands. -/
theorem Sync.Fits.snapshot {lead rest : List (SessionEvent T C)} {n : ℕ}
    (h : σ.Fits write init chunks lead rest) (hpos : σ.position ≤ n) (hn : n ≤ chunks.length) :
    Segmented write init chunks (rest ++ [.snapshot n (screenAt write init chunks n)]) n := by
  cases σ with
  | bare m =>
    obtain ⟨rfl, -⟩ := h
    exact .first hn
  | inStep m => exact .again h hpos hn
  | missed m =>
    obtain rfl | ⟨k, hk, hseg⟩ := h
    · exact .first hn
    · exact .again hseg (hk.trans hpos) hn

open Offer

/-- **What is queued for a registration is segmented** from its first snapshot
on, and consecutive before it. -/
theorem Tracks.segments (h : Tracks write init hydrated chunks os σ) :
    ∃ lead rest, terminalEvents (queuedLines os) = lead ++ rest ∧ (∃ n, Bare chunks lead n) ∧
      (hydrated = true → lead = []) ∧ σ.Fits write init chunks lead rest := by
  induction h with
  | nil => exact ⟨[], [], rfl, ⟨0, .nil⟩, fun _ => rfl, rfl, .nil⟩
  | blank hbare _ =>
    exact ⟨[.blankSnapshot], [], rfl, ⟨0, .blank⟩,
      fun hyes => absurd (hyes.symm.trans hbare) nofun, rfl, .blank⟩
  | @other os σ line _ hline ih =>
    obtain ⟨lead, rest, heq, hrest⟩ := ih
    refine ⟨lead, rest, ?_, hrest⟩
    rw [queuedLines_append, terminalEvents_append, heq]
    simp [terminalEvents, queuedLines, hline]
  | @lead os n bytes data _ hbare hdata ih =>
    obtain ⟨lead, rest, heq, -, -, rfl, hlead⟩ := ih
    refine ⟨lead ++ [.output n data], [], ?_, ⟨_, .next hlead hdata⟩,
      fun hyes => absurd (hyes.symm.trans hbare) nofun, rfl, .next hlead hdata⟩
    rw [queuedLines_append, terminalEvents_append, heq]
    simp [terminalEvents, queuedLines, SessionEvent.isTerminal]
  | @snapshot os σ n bytes _ hpos hn ih =>
    obtain ⟨lead, rest, heq, hlead, hnone, hfits⟩ := ih
    refine ⟨lead, rest ++ [SessionEvent.snapshot n (screenAt write init chunks n)], ?_, hlead,
      hnone, hfits.snapshot hpos hn⟩
    rw [queuedLines_append, terminalEvents_append, heq, append_assoc]
    rfl
  | @output os n bytes data _ hdata ih =>
    obtain ⟨lead, rest, heq, hlead, hnone, hfits⟩ := ih
    refine ⟨lead, rest ++ [SessionEvent.output n data], ?_, hlead, hnone,
      Segmented.next hfits hdata⟩
    rw [queuedLines_append, terminalEvents_append, heq, append_assoc]
    rfl
  | @missed os σ n bytes data _ hpos hn ih =>
    obtain ⟨lead, rest, heq, hlead, hnone, hfits⟩ := ih
    refine ⟨lead, rest, ?_, hlead, hnone, ?_⟩
    · rw [queuedLines_append, terminalEvents_append, heq]
      exact append_nil _
    · cases σ with
      | bare m => exact .inl hfits.1
      | inStep m => exact .inr ⟨m, hpos.trans (Nat.le_succ n), hfits⟩
      | missed m =>
        obtain hnil | ⟨k, hk, hseg⟩ := hfits
        · exact .inl hnil
        · exact .inr ⟨k, (hk.trans hpos).trans (Nat.le_succ n), hseg⟩
  | skipped _ _ ih =>
    obtain ⟨lead, rest, heq, hrest⟩ := ih
    refine ⟨lead, rest, ?_, hrest⟩
    rw [queuedLines_append, terminalEvents_append, heq]
    exact append_nil _

/-- Splitting a list that grows at its end. -/
theorem append_singleton_eq_append_cons {α : Type u} {as pre post : List α} {a d : α}
    (h : as ++ [a] = pre ++ d :: post) :
    (post = [] ∧ as = pre ∧ a = d) ∨ ∃ post', post = post' ++ [a] ∧ as = pre ++ d :: post' := by
  obtain rfl | ⟨post', x, rfl⟩ := eq_nil_or_concat post
  · obtain ⟨h₁, h₂⟩ := append_inj' h rfl
    exact .inl ⟨rfl, h₁, singleton_inj.mp h₂⟩
  · rw [concat_eq_append, ← cons_append, ← append_assoc] at h
    obtain ⟨h₁, h₂⟩ := append_inj' h rfl
    obtain rfl := singleton_inj.mp h₂
    exact .inr ⟨post', concat_eq_append, h₁⟩

/-- **After a dropped chunk comes a snapshot that contains it**, before any other
terminal line is queued; until then the stream is out of step. -/
theorem Tracks.after_dropped (h : Tracks write init hydrated chunks os σ)
    {pre post : List (Offer (SessionEvent T C))} {i bytes : ℕ} {data : C}
    (hos : os = pre ++ .dropped ⟨.output i data, bytes⟩ :: post) :
    (terminalEvents (queuedLines post) = [] ∧ ∃ k, σ = .missed k ∧ i < k) ∨
      ∃ n screen es, terminalEvents (queuedLines post) = .snapshot n screen :: es ∧ i < n := by
  -- more offers do not change what came first
  have hmore : ∀ (post' : List (Offer (SessionEvent T C))) (o : Offer (SessionEvent T C)),
      (∃ n screen es, terminalEvents (queuedLines post') = .snapshot n screen :: es ∧ i < n) →
      ∃ n screen es, terminalEvents (queuedLines (post' ++ [o])) = .snapshot n screen :: es ∧
        i < n := by
    rintro post' o ⟨n, screen, es, heq, hlt⟩
    refine ⟨n, screen, es ++ terminalEvents (queuedLines [o]), ?_, hlt⟩
    rw [queuedLines_append, terminalEvents_append, heq]
    rfl
  induction h generalizing post with
  | nil => exact absurd hos (by simp)
  | blank => exact absurd hos (by simp [singleton_eq_append_iff])
  | @other os σ line _ hline ih =>
    obtain ⟨-, -, ho⟩ | ⟨post', rfl, hos'⟩ := append_singleton_eq_append_cons hos
    · cases ho
    · refine (ih hos').imp (fun ⟨hnil, hk⟩ => ⟨?_, hk⟩) (hmore post' _)
      rw [queuedLines_append, terminalEvents_append, hnil]
      simp [terminalEvents, queuedLines, hline]
  | lead _ _ _ ih | output _ _ ih =>
    obtain ⟨-, -, ho⟩ | ⟨post', rfl, hos'⟩ := append_singleton_eq_append_cons hos
    · cases ho
    · obtain ⟨-, k, hk, -⟩ | hsnap := ih hos'
      · cases hk
      · exact .inr (hmore post' _ hsnap)
  | @snapshot os σ n b _ hpos hn ih =>
    obtain ⟨-, -, ho⟩ | ⟨post', rfl, hos'⟩ := append_singleton_eq_append_cons hos
    · cases ho
    · obtain ⟨hnil, k, rfl, hk⟩ | hsnap := ih hos'
      · refine .inr ⟨n, screenAt write init chunks n, [], ?_, Nat.lt_of_lt_of_le hk hpos⟩
        rw [queuedLines_append, terminalEvents_append, hnil]
        rfl
      · exact .inr (hmore post' _ hsnap)
  | @missed os σ n b d _ hpos hn ih =>
    obtain ⟨rfl, -, ho⟩ | ⟨post', rfl, hos'⟩ := append_singleton_eq_append_cons hos
    · cases ho
      exact .inl ⟨rfl, i + 1, rfl, Nat.lt_succ_self i⟩
    · obtain ⟨hnil, k, rfl, hk⟩ | hsnap := ih hos'
      · refine .inl ⟨?_, n + 1, rfl, Nat.lt_succ_of_le (Nat.le_of_lt hk |>.trans hpos)⟩
        rw [queuedLines_append, terminalEvents_append, hnil]
        rfl
      · exact .inr (hmore post' _ hsnap)
  | @skipped os σ line _ hline ih =>
    obtain ⟨-, -, ho⟩ | ⟨post', rfl, hos'⟩ := append_singleton_eq_append_cons hos
    · cases ho
      exact absurd rfl (hline i data)
    · refine (ih hos').imp (fun ⟨hnil, hk⟩ => ⟨?_, hk⟩) (hmore post' _)
      rw [queuedLines_append, terminalEvents_append, hnil]
      rfl

end Tracking

end Kanna
