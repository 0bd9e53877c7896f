import Kanna.Lib.Run
import Kanna.Recovery.Service

/-!
# Requests of the recovery worker

`recovery_worker` in `crates/daemon/src/recovery.rs` and the sidecar at the other end
of its pipes. The worker writes commands to the sidecar's standard input; after a
request it takes the next line of the sidecar's standard output as the reply.
Nothing on the wire says which command a line answers.

* `RecoveryLink` — worker, pipes and sidecar; commands are numbered as they are sent,
  and a line remembers the command it answers.
* `Correlated` — every reply the worker returned answers its own request.
* `replies_correlated_iff` — that is so exactly as long as no mirrored command has
  gone wrong before a reply is read. One that has leaves a line nobody asked for, and
  from then on every reply is another command's.
-/

namespace Kanna

universe u v w

/-- A line on the sidecar's standard input. -/
structure CommandLine where
  /-- how many commands were sent before -/
  number : ℕ
  command : RecoveryCommand
  deriving DecidableEq

/-- A line on the sidecar's standard output, with the command it answers. -/
structure ResponseLine where
  answered : CommandLine
  response : RecoveryResponse
  deriving DecidableEq

/-- What the worker is doing. -/
inductive WorkerPhase where
  /-- waits for a message -/
  | idle
  /-- waits for the reply to a request -/
  | awaiting (request : CommandLine)
  /-- the worker is over -/
  | stopped

/-- A reply handed to whoever made the request. -/
structure Reply where
  request : CommandLine
  line : ResponseLine
  deriving DecidableEq

/-- The worker, the pipes and the sidecar. The last two fields are history. -/
structure RecoveryLink (T : Type u) (F : Type v) : Type (max u v) where
  /-- number of commands sent -/
  sent : ℕ
  phase : WorkerPhase
  /-- commands the sidecar has not read yet -/
  stdin : List CommandLine
  /-- lines the worker has not read yet -/
  stdout : List ResponseLine
  service : RecoveryService T F
  /-- the sidecar runs -/
  alive : Bool
  /-- the replies returned, oldest first -/
  replies : List Reply
  /-- mirrored commands that were handled without what they need -/
  strays : ℕ

/-- The moves of the two processes. -/
inductive LinkAction where
  /-- the worker forwards a mirrored command -/
  | fireAndForget (command : RecoveryCommand)
  /-- the worker sends a request -/
  | request (command : RecoveryCommand)
  /-- the worker takes a line as the reply -/
  | readReply
  /-- the worker stops: cancelled, timed out, or a pipe failed -/
  | giveUp
  /-- the sidecar handles a command -/
  | handle (now : ℕ) (times flushTimes : Readings)
  /-- the sidecar persists what is due -/
  | flush (times : Readings)
  /-- the sidecar ends, or crashes -/
  | quit

namespace RecoveryLink

variable {T : Type u} {F : Type v} {C : Type w} (term : TerminalOps T) (ops : FileOps F C)

/-- A new sidecar, with the state its service starts in. -/
def spawn (service : RecoveryService T F) : RecoveryLink T F where
  sent := 0
  phase := .idle
  stdin := []
  stdout := []
  service := service
  alive := true
  replies := []
  strays := 0

variable (w : RecoveryLink T F)

/-- `send_command`. -/
def send (command : RecoveryCommand) : RecoveryLink T F :=
  { w with sent := w.sent + 1, stdin := w.stdin ++ [⟨w.sent, command⟩] }

/-- A pass of the sidecar's loop over the next command. -/
def handled (line : CommandLine) (rest : List CommandLine) (now : ℕ)
    (times flushTimes : Readings) : RecoveryLink T F :=
  let result := w.service.handleLine term ops now times flushTimes line.command
  { w with
    stdin := rest
    stdout := w.stdout ++ (result.2.map (ResponseLine.mk line)).toList
    service := result.1
    alive := !result.1.stopping
    strays := if w.service.quiet term ops times line.command then w.strays else w.strays + 1 }

/-- The reply to a request is read; after a shutdown the worker is over. -/
def replied (request : CommandLine) (line : ResponseLine)
    (rest : List ResponseLine) : RecoveryLink T F :=
  { w with
    phase := if request.command = .flushAndShutdown then .stopped else .idle
    stdout := rest
    replies := w.replies ++ [⟨request, line⟩] }

/-- The interleaving semantics. -/
def step : LinkAction → Option (RecoveryLink T F)
  | .fireAndForget command =>
    match w.phase with
    | .idle => if command.expectsResponse then none else some (w.send command)
    | _ => none
  | .request command =>
    match w.phase with
    | .idle =>
      if command.expectsResponse then
        some { w.send command with phase := .awaiting ⟨w.sent, command⟩ }
      else none
    | _ => none
  | .readReply =>
    match w.phase, w.stdout with
    | .awaiting request, line :: rest => some (w.replied request line rest)
    | _, _ => none
  | .giveUp =>
    match w.phase with
    | .stopped => none
    | _ => some { w with phase := .stopped, alive := false }
  | .handle now times flushTimes =>
    if w.alive then
      match w.stdin with
      | line :: rest => some (w.handled term ops line rest now times flushTimes)
      | [] => none
    else none
  | .flush times =>
    if w.alive then some { w with service := w.service.flushDueSessions term ops times } else none
  | .quit => if w.alive then some { w with alive := false } else none

/-- **Every reply answers its own request.** -/
def Correlated : Prop :=
  ∀ reply ∈ w.replies, reply.line.answered = reply.request

/-- The worker can read a reply. -/
def readable : Bool :=
  match w.phase, w.stdout with
  | .awaiting _, _ :: _ => true
  | _, _ => false

/-- When a reply is read, every mirrored command the sidecar has handled was `quiet`:
its session was tracked, the terminal took the size, the file system the file. -/
def Undisturbed : LinkAction → Prop
  | .readReply => w.readable = true → w.strays = 0
  | _ => True

/-! ## The lines on their way -/

/-- The commands the unread lines answer and those not handled yet, in order. -/
def inFlight : List CommandLine :=
  w.stdout.map ResponseLine.answered ++ w.stdin

/-- The requests among the commands not handled yet. -/
def requests : ℕ := w.stdin.countP (·.command.expectsResponse)

/-- One reply is expected while the worker waits. -/
def WorkerPhase.expected : WorkerPhase → ℕ
  | .awaiting _ => 1
  | _ => 0

/-- What holds between the two processes. -/
structure Inv (w : RecoveryLink T F) : Prop where
  /-- commands are handled, and lines read, in the order of sending -/
  ordered : w.inFlight.Pairwise fun a b => a.number < b.number
  /-- and only what was sent -/
  fresh : ∀ line ∈ w.inFlight, line.number < w.sent
  /-- the request waited for was the last command sent, and is on its way -/
  awaited : ∀ request, w.phase = .awaiting request →
    request.command.expectsResponse = true ∧ w.sent = request.number + 1 ∧ request ∈ w.inFlight
  /-- unread lines and those still to come: the strays, and the reply expected -/
  balance : w.phase ≠ .stopped →
    w.stdout.length + w.requests = w.strays + WorkerPhase.expected w.phase
  /-- no reply went astray so far -/
  correlated : w.Correlated

theorem inv_spawn (service : RecoveryService T F) : (spawn service).Inv :=
  ⟨List.Pairwise.nil, nofun, nofun, fun _ => rfl, nofun⟩

open List RecoveryService

/-- A command that was sent is the last in flight. -/
theorem inFlight_send (command : RecoveryCommand) :
    (w.send command).inFlight = w.inFlight ++ [⟨w.sent, command⟩] := by
  rw [inFlight, inFlight, send, append_assoc]

variable {w : RecoveryLink T F}

theorem ordered_send (h : w.Inv) (command : RecoveryCommand) :
    ((w.send command).inFlight.Pairwise fun a b => a.number < b.number) ∧
      ∀ line ∈ (w.send command).inFlight, line.number < w.sent + 1 := by
  rw [inFlight_send]
  exact ⟨pairwise_append.mpr ⟨h.ordered, pairwise_singleton ..,
      fun a ha => forall_mem_singleton.mpr (h.fresh a ha)⟩,
    forall_mem_append.mpr ⟨fun line hold => Nat.lt_succ_of_lt (h.fresh line hold),
      forall_mem_singleton.mpr (Nat.lt_succ_self w.sent)⟩⟩

theorem requests_send (w : RecoveryLink T F) (command : RecoveryCommand) :
    (w.send command).requests = w.requests + if command.expectsResponse then 1 else 0 := by
  simp [requests, send, countP_append, countP_cons]

variable {command : RecoveryCommand}

/-- A request is sent. -/
theorem inv_request (h : w.Inv) (hidle : w.phase = .idle)
    (hrequest : command.expectsResponse = true) :
    ({ w.send command with phase := .awaiting ⟨w.sent, command⟩ }).Inv := by
  obtain ⟨hordered, hfresh⟩ := ordered_send h command
  refine ⟨hordered, hfresh, fun request hr => ?_, fun _ => ?_, h.correlated⟩
  · cases hr
    refine ⟨hrequest, rfl, ?_⟩
    change _ ∈ (w.send command).inFlight
    rw [inFlight_send]
    exact mem_append_right _ (mem_singleton.mpr rfl)
  · have hbal := h.balance (by rw [hidle]; exact WorkerPhase.noConfusion)
    change w.stdout.length + (w.send command).requests = w.strays + 1
    rw [requests_send, hrequest, if_pos rfl, ← Nat.add_assoc, hbal, hidle]
    rfl

/-! ## The sidecar's side -/

section Handled

variable {line : CommandLine} {rest : List CommandLine} (hstdin : w.stdin = line :: rest) (now : ℕ)
  (times flushTimes : Readings)

include hstdin

/-- What the sidecar leaves in flight: a command that is answered keeps its place. -/
theorem inFlight_handled :
    (w.handled term ops line rest now times flushTimes).inFlight =
      if line.command.expectsResponse || !w.service.quiet term ops times line.command then
        w.inFlight
      else w.stdout.map ResponseLine.answered ++ rest := by
  rw [inFlight, inFlight, handled, hstdin]
  simp only [handleLine_line, map_append, append_assoc]
  split <;> rfl

theorem balance_handled {expected : ℕ} (h : w.stdout.length + w.requests = w.strays + expected) :
    (w.handled term ops line rest now times flushTimes).stdout.length +
        (w.handled term ops line rest now times flushTimes).requests =
      (w.handled term ops line rest now times flushTimes).strays + expected := by
  rw [requests, hstdin, countP_cons] at h
  rw [requests, handled]
  simp only [handleLine_line, length_append]
  by_cases he : line.command.expectsResponse = true
  · have hquiet := w.service.quiet_of_expectsResponse term ops times he
    simp only [he, hquiet, Bool.true_or, if_true, Option.map_some, Option.toList_some,
      length_singleton] at h ⊢
    omega
  · rw [Bool.not_eq_true] at he
    rw [he] at h ⊢
    cases hquiet : w.service.quiet term ops times line.command <;>
    · simp at h ⊢
      omega

theorem inv_handled (h : w.Inv) : (w.handled term ops line rest now times flushTimes).Inv := by
  have hflight := inFlight_handled term ops hstdin now times flushTimes
  have hsub : (w.handled term ops line rest now times flushTimes).inFlight.Sublist w.inFlight := by
    rw [hflight]
    split
    · exact .refl _
    · rw [inFlight, hstdin]
      exact List.Sublist.append_left (sublist_cons_self line rest) _
  refine ⟨h.ordered.sublist hsub, fun l hl => h.fresh l (hsub.subset hl), fun request hr => ?_,
    fun hp => balance_handled term ops hstdin now times flushTimes (h.balance hp), h.correlated⟩
  obtain ⟨hexp, hsent, hin⟩ := h.awaited request hr
  refine ⟨hexp, hsent, ?_⟩
  rw [hflight]
  split
  next => exact hin
  next hquiet =>
    -- the command that disappeared was not a request
    rw [inFlight, hstdin] at hin
    rcases mem_append.mp hin with hout | hcons
    · exact mem_append_left _ hout
    · rcases mem_cons.mp hcons with heq | hrest
      · rw [← heq, hexp, Bool.true_or] at hquiet
        exact absurd rfl hquiet
      · exact mem_append_right _ hrest

end Handled

/-! ## Reading a reply -/

section Reply

variable {request : CommandLine} {line : ResponseLine} {rest : List ResponseLine} (h : w.Inv)
  (hphase : w.phase = .awaiting request) (hstdout : w.stdout = line :: rest)

include h hphase hstdout

/-- Without strays the only line there is answers the request. -/
theorem inv_replied (hstrays : w.strays = 0) : (w.replied request line rest).Inv := by
  obtain ⟨hexp, hsent, hin⟩ := h.awaited request hphase
  have hbal := h.balance (by rw [hphase]; exact WorkerPhase.noConfusion)
  rw [hstrays, hphase, hstdout, length_cons] at hbal
  have hone : rest.length + 1 + w.requests = 0 + 1 := hbal
  have hrest : rest = [] := eq_nil_of_length_eq_zero (by omega)
  have hreq : w.requests = 0 := by omega
  subst hrest
  have hanswer : line.answered = request := by
    rw [inFlight, hstdout] at hin
    rcases mem_append.mp hin with hout | hlate
    · exact (mem_singleton.mp hout).symm
    · exact absurd hexp (countP_eq_zero.mp hreq request hlate)
  have hsub : (w.replied request line []).inFlight.Sublist w.inFlight := by
    rw [inFlight, inFlight, hstdout]
    exact sublist_append_right _ _
  refine ⟨h.ordered.sublist hsub, fun l hl => h.fresh l (hsub.subset hl), fun r hr => ?_,
    fun _ => ?_, forall_mem_append.mpr ⟨h.correlated, forall_mem_singleton.mpr hanswer⟩⟩
  · rw [replied] at hr
    split at hr <;> cases hr
  · change 0 + w.requests = w.strays + WorkerPhase.expected (ite _ _ _)
    rw [hreq, hstrays]
    split <;> rfl

/-- A stray line comes first: the request was sent last, so its own line is the
last of at least two. -/
theorem stray_ne_request (hstrays : w.strays ≠ 0) : line.answered ≠ request := by
  intro heq
  obtain ⟨-, hsent, -⟩ := h.awaited request hphase
  have hflight : w.inFlight = request :: (rest.map ResponseLine.answered ++ w.stdin) := by
    rw [inFlight, hstdout, map_cons, heq, cons_append]
  have hnil : rest.map ResponseLine.answered ++ w.stdin = [] := by
    rcases hlater : rest.map ResponseLine.answered ++ w.stdin with _ | ⟨later, tail⟩
    · rfl
    · rw [hlater] at hflight
      have hord := h.ordered
      rw [hflight] at hord
      have hlt : request.number < later.number := rel_of_pairwise_cons hord mem_cons_self
      have hbound : later.number < w.sent :=
        h.fresh later (by rw [hflight]; exact mem_cons_of_mem _ mem_cons_self)
      omega
  obtain ⟨hrest, hstdin⟩ := append_eq_nil_iff.mp hnil
  have hbal := h.balance (by rw [hphase]; exact WorkerPhase.noConfusion)
  rw [hstdout, requests, hstdin, map_eq_nil_iff.mp hrest, hphase] at hbal
  have hone : 1 + 0 = w.strays + 1 := hbal
  omega

end Reply

variable {a : LinkAction} {w' : RecoveryLink T F}

theorem inv_step (h : w.Inv) (hG : w.Undisturbed a) (hstep : w.step term ops a = some w') :
    w'.Inv := by
  cases a <;> simp only [step] at hstep
  case fireAndForget command =>
    split at hstep
    next hidle =>
      obtain ⟨hmirrored, hstep⟩ := of_exit hstep
      cases hstep
      obtain ⟨hordered, hfresh⟩ := ordered_send h command
      refine ⟨hordered, hfresh, fun request hr => ?_, fun hp => ?_, h.correlated⟩
      · cases hidle.symm.trans hr
      · rw [requests_send, Bool.eq_false_iff.mpr hmirrored]
        exact h.balance hp
    next => cases hstep
  case request command =>
    split at hstep
    next hidle =>
      obtain ⟨hrequest, rfl⟩ := guard_eq_some hstep
      exact inv_request h hidle hrequest
    next => cases hstep
  case readReply =>
    split at hstep
    next request line rest hphase hstdout =>
      cases hstep
      refine inv_replied h hphase hstdout (hG ?_)
      rw [readable, hphase, hstdout]
    next => cases hstep
  case giveUp =>
    split at hstep
    next => cases hstep
    next =>
      cases hstep
      exact { h with awaited := nofun, balance := fun hp => absurd rfl hp }
  case handle now times flushTimes =>
    obtain ⟨-, hstep⟩ := of_check hstep
    split at hstep
    next line rest hstdin =>
      cases hstep
      exact inv_handled term ops hstdin now times flushTimes h
    next => cases hstep
  all_goals
    obtain ⟨-, rfl⟩ := guard_eq_some hstep
    exact { h with }

/-- A reply that is read after a stray is another command's. -/
theorem not_correlated_of_disturbed (h : w.Inv)
    (hG : ¬ w.Undisturbed a) : ∃ w', w.step term ops a = some w' ∧ ¬ w'.Correlated := by
  cases a with
  | readReply =>
    obtain ⟨hread, hstrays⟩ := Classical.not_imp.mp hG
    rw [readable] at hread
    split at hread
    next request line rest hphase hstdout =>
      refine ⟨w.replied request line rest, ?_, fun hcorr => ?_⟩
      · rw [step, hphase, hstdout]
      · exact stray_ne_request h hphase hstdout hstrays
          (hcorr ⟨request, line⟩ (mem_append_right _ (mem_singleton.mpr rfl)))
    next => cases hread
  | fireAndForget | request | giveUp | handle | flush | quit => exact absurd trivial hG

/-- **Replies are positional.** For every terminal library, file system, service state
and interleaving of the worker and the sidecar: all replies answer their own requests
exactly if, whenever one is read, every mirrored command handled so far was `quiet`. -/
theorem replies_correlated_iff (service : RecoveryService T F) (as : List LinkAction) :
    Always (step term ops) Correlated (spawn service) as ↔
      Meets (step term ops) Undisturbed (spawn service) as :=
  always_iff_meets Inv.correlated (inv_step term ops) (not_correlated_of_disturbed term ops)
    (inv_spawn service)

/-- A terminal library that accepts everything. -/
def blankTerminal : TerminalOps Unit where
  new _ _ _ := .ok ()
  vtWrite _ _ := ()
  resize _ _ _ := ((), none)
  reset _ := ()
  serialize _ := .ok ⟨"", 0, 0⟩
  isCursorVisible _ := .ok true

/-- A disk without files that accepts everything. -/
def blankDisk : FileOps Unit Unit where
  pid := 1
  debug text := text
  createDirAll _ _ := ((), none)
  write _ _ _ := ((), none)
  rename _ _ _ := ((), none)
  removeFile _ _ := ((), none)
  readToString _ _ := .error ⟨true, "not found"⟩
  pathExists _ _ := false
  encode _ := .ok ()
  decode _ := none

/-- The clock stands still. -/
def atZero : Readings := ⟨0, 0, fun _ => 0, fun _ => 0⟩

/-- **Late output answers the next request.** A session is started and ended; a chunk
of its output comes after that. The sidecar's complaint about it is returned as the
snapshot of another session. -/
theorem late_output_answers_next_request :
    ¬ Always (step blankTerminal blankDisk) Correlated
      (spawn (RecoveryService.new ⟨"/snapshots"⟩ () 300000))
      [.request (.startSession "a" 80 24 false), .handle 0 atZero atZero, .readReply,
        .fireAndForget (.endSession "a"), .fireAndForget (.writeOutput "a" [104, 105] 1),
        .handle 0 atZero atZero, .handle 0 atZero atZero,
        .request (.getSnapshot "b"), .readReply] := by
  intro h
  have hrun : (run (step blankTerminal blankDisk) (spawn (new ⟨"/snapshots"⟩ () 300000))
      [.request (.startSession "a" 80 24 false), .handle 0 atZero atZero, .readReply,
        .fireAndForget (.endSession "a"), .fireAndForget (.writeOutput "a" [104, 105] 1),
        .handle 0 atZero atZero, .handle 0 atZero atZero,
        .request (.getSnapshot "b"), .readReply]).map replies =
      some [⟨⟨0, .startSession "a" 80 24 false⟩, ⟨⟨0, .startSession "a" 80 24 false⟩, .ok⟩⟩,
        ⟨⟨3, .getSnapshot "b"⟩,
          ⟨⟨2, .writeOutput "a" [104, 105] 1⟩, .error "Unknown session: a"⟩⟩] := by
    decide
  obtain ⟨w, hw, hreplies⟩ := Option.map_eq_some_iff.mp hrun
  have hcorr := h.last hw _ (by rw [hreplies]; exact mem_cons_of_mem _ mem_cons_self)
  cases hcorr

end RecoveryLink

end Kanna
