import Mathlib.Data.List.AList
import Kanna.Lib.Utf8
import Kanna.Recovery.SnapshotStore

/-!
# The recovery sidecar

`packages/terminal-recovery`: a process that mirrors the terminals of the daemon's
sessions and persists them. It reads one command a line and answers on its standard
output.

* `SessionMirror` — the terminal of one session, over the operations of the terminal
  library (`TerminalOps`).
* `RecoveryCommand`, `RecoveryResponse` — the protocol.
* `RecoveryService` — the sessions and the handler of each command, with the
  messages of the source; `handleLine` is one pass of `run`'s loop.

Three of the commands are mirrored: the daemon sends them and does not wait. Even so
the sidecar answers one of them when it fails. `isError_handleCommand` says exactly
when that is, with `quiet` for the commands that do not fail.
-/

namespace Kanna

universe u v w

/-- What `serialize_terminal` returns. -/
structure SerializedTerminal where
  candidate : String
  cursorX : UInt16
  cursorY : UInt16

/-- The terminal library. Errors are given as they are displayed; `resize` works in
place. -/
structure TerminalOps (T : Type u) : Type u where
  /-- columns, rows, scrollback bytes -/
  new : UInt16 → UInt16 → ℕ → Except String T
  vtWrite : T → List UInt8 → T
  resize : T → UInt16 → UInt16 → T × Option String
  reset : T → T
  serialize : T → Except String SerializedTerminal
  isCursorVisible : T → Except String Bool

/-- The mirrored terminal of a session. -/
structure SessionMirror (T : Type u) : Type u where
  sessionId : String
  terminal : T
  cols : UInt16
  rows : UInt16
  /-- number of the last output chunk written to it -/
  sequence : UInt64

/-! ## One session -/

/-- `usize::MAX`. -/
def usizeMax : ℕ := 18446744073709551615

/-- `usize::saturating_mul`. -/
def saturatingMul (a b : ℕ) : ℕ := min (a * b) usizeMax

/-- `scrollback_byte_limit`. -/
def scrollbackByteLimit (cols rows : UInt16) (scrollbackRows : ℕ) : ℕ :=
  saturatingMul (saturatingMul cols.toNat (min (rows.toNat + scrollbackRows) usizeMax)) 20

namespace SessionMirror

variable {T : Type u} (term : TerminalOps T)

/-- `SessionMirror::new`. -/
def new (sessionId : String) (cols rows : UInt16) : Except String (SessionMirror T) :=
  match term.new cols rows (scrollbackByteLimit cols rows 10000) with
  | .error e => .error ("failed to create terminal mirror: " ++ e)
  | .ok terminal => .ok ⟨sessionId, terminal, cols, rows, 0⟩

/-- `SessionMirror::write_output`. -/
def writeOutput (mirror : SessionMirror T) (data : List UInt8) (sequence : UInt64) :
    SessionMirror T :=
  { mirror with terminal := term.vtWrite mirror.terminal data, sequence := sequence }

/-- `SessionMirror::resize`: a refused size leaves the recorded one. -/
def resize (mirror : SessionMirror T) (cols rows : UInt16) : SessionMirror T × Option String :=
  match term.resize mirror.terminal cols rows with
  | (terminal, some e) =>
    ({ mirror with terminal := terminal }, some ("failed to resize terminal mirror: " ++ e))
  | (terminal, none) => ({ mirror with terminal := terminal, cols := cols, rows := rows }, none)

/-- The cursor is moved only where the snapshot knows it. -/
def restoreCursor (terminal : T) (snapshot : RecoverySnapshot) : T :=
  let terminal :=
    match snapshot.cursorRow, snapshot.cursorCol with
    | some row, some col =>
      term.vtWrite terminal
        (utf8 ("\x1b[" ++ toString (row + 1).toNat ++ ";" ++ toString (col + 1).toNat ++ "H"))
    | _, _ => terminal
  match snapshot.cursorVisible with
  | some true => term.vtWrite terminal (utf8 "\x1b[?25h")
  | some false => term.vtWrite terminal (utf8 "\x1b[?25l")
  | none => terminal

/-- `SessionMirror::restore`; a mirror that could not be restored is given up. -/
def restore (mirror : SessionMirror T) (snapshot : RecoverySnapshot) :
    Except String (SessionMirror T) :=
  match term.resize (term.reset mirror.terminal) snapshot.cols snapshot.rows with
  | (_, some e) => .error ("failed to resize terminal mirror: " ++ e)
  | (terminal, none) =>
    .ok { mirror with
      terminal := restoreCursor term (term.vtWrite terminal (utf8 snapshot.serialized)) snapshot
      cols := snapshot.cols
      rows := snapshot.rows
      sequence := snapshot.sequence }

/-- `SessionMirror::snapshot`. -/
def snapshot (mirror : SessionMirror T) (now : ℕ) : Except String RecoverySnapshot :=
  match term.serialize mirror.terminal with
  | .error e => .error ("failed to serialize terminal mirror: " ++ e)
  | .ok serialized =>
    match term.isCursorVisible mirror.terminal with
    | .error e => .error ("failed to inspect cursor visibility: " ++ e)
    | .ok visible =>
      .ok {
        sessionId := mirror.sessionId
        serialized := serialized.candidate
        cols := mirror.cols
        rows := mirror.rows
        cursorRow := some serialized.cursorY
        cursorCol := some serialized.cursorX
        cursorVisible := some visible
        savedAt := now
        sequence := mirror.sequence }

end SessionMirror

/-! ## The protocol -/

/-- A command of the daemon. -/
inductive RecoveryCommand where
  | startSession (sessionId : String) (cols rows : UInt16) (resumeFromDisk : Bool)
  | writeOutput (sessionId : String) (data : List UInt8) (sequence : UInt64)
  | resizeSession (sessionId : String) (cols rows : UInt16)
  | endSession (sessionId : String)
  | getSnapshot (sessionId : String)
  | flushAndShutdown
  deriving DecidableEq

/-- `expects_response`; the others are mirrored commands. -/
def RecoveryCommand.expectsResponse : RecoveryCommand → Bool
  | .startSession .. | .getSnapshot .. | .flushAndShutdown => true
  | _ => false

/-- An answer of the sidecar. -/
inductive RecoveryResponse where
  | ok
  | error (message : String)
  | snapshot (sessionId serialized : String) (cols rows cursorRow cursorCol : UInt16)
      (cursorVisible : Bool) (savedAt : ℕ) (sequence : UInt64)
  | notFound
  deriving DecidableEq

namespace RecoveryResponse

/-- `from_snapshot`. -/
def fromSnapshot (snap : RecoverySnapshot) : RecoveryResponse :=
  .snapshot snap.sessionId snap.serialized snap.cols snap.rows (snap.cursorRow.getD 0)
    (snap.cursorCol.getD 0) (snap.cursorVisible.getD true) snap.savedAt snap.sequence

/-- The answer to an operation without a value. -/
def ofResult : Except String Unit → RecoveryResponse
  | .ok _ => .ok
  | .error message => .error message

/-- `matches!(response, RecoveryResponse::Error { .. })` -/
def isError : RecoveryResponse → Bool
  | .error _ => true
  | _ => false

end RecoveryResponse

/-! ## The service -/

/-- A session the sidecar mirrors. -/
structure TrackedSession (T : Type u) : Type u where
  mirror : SessionMirror T
  /-- since when it has changes that are not persisted -/
  dirtySince : Option ℕ

/-- The readings of the clock while one command is handled, or one flush made. -/
structure Readings where
  /-- when a session is marked dirty -/
  dirtied : ℕ
  /-- when it is asked whether a session is due -/
  checked : ℕ
  /-- when a session's snapshot is taken -/
  saved : String → ℕ
  /-- when the temporary file of a session is named -/
  named : String → ℕ

/-- The service, with the file system its store works on. -/
structure RecoveryService (T : Type u) (F : Type v) : Type (max u v) where
  store : SnapshotStore
  fs : F
  sessions : AList (fun _ : String => TrackedSession T)
  persistDebounceMs : ℕ
  stopping : Bool

namespace RecoveryService

variable {T : Type u} {F : Type v} {C : Type w} (term : TerminalOps T) (ops : FileOps F C)

/-- `RecoveryService::new_with_persist_debounce_ms`. -/
def new (store : SnapshotStore) (fs : F) (persistDebounceMs : ℕ) : RecoveryService T F where
  store := store
  fs := fs
  sessions := ∅
  persistDebounceMs := persistDebounceMs
  stopping := false

/-- The answer to a command for a session that is not tracked. -/
def unknownSession (sessionId : String) : RecoveryResponse :=
  .error ("Unknown session: " ++ sessionId)

variable (svc : RecoveryService T F)

/-- Replaces the record of a session. -/
def track (sessionId : String) (session : TrackedSession T) : RecoveryService T F :=
  { svc with sessions := svc.sessions.insert sessionId session }

/-- `start_session`. -/
def startSession (sessionId : String) (cols rows : UInt16)
    (resumeFromDisk : Bool) : RecoveryService T F × RecoveryResponse :=
  if (svc.sessions.lookup sessionId).isSome then
    (svc, .error ("Session already exists: " ++ sessionId))
  else
    match SessionMirror.new term sessionId cols rows with
    | .error message => (svc, .error message)
    | .ok mirror =>
      if resumeFromDisk then
        match svc.store.require ops svc.fs sessionId with
        | .error message => (svc, .error message)
        | .ok snapshot =>
          match mirror.restore term snapshot with
          | .error message => (svc, .error message)
          | .ok mirror => (svc.track sessionId ⟨mirror, none⟩, .ok)
      else
        match svc.store.remove ops svc.fs sessionId with
        | (fs, .error message) => ({ svc with fs := fs }, .error message)
        | (fs, .ok _) => (({ svc with fs := fs }).track sessionId ⟨mirror, none⟩, .ok)

/-- `persist_session`: nothing to do unless the session is dirty. -/
def persistSession (times : Readings) (sessionId : String) :
    RecoveryService T F × RecoveryResponse :=
  match svc.sessions.lookup sessionId with
  | none => (svc, unknownSession sessionId)
  | some session =>
    if session.dirtySince.isNone then (svc, .ok)
    else
      match session.mirror.snapshot term (times.saved sessionId) with
      | .error message => (svc, .error message)
      | .ok snapshot =>
        match svc.store.write ops svc.fs (times.named sessionId) snapshot with
        | (fs, .ok _) =>
          (({ svc with fs := fs }).track sessionId { session with dirtySince := none }, .ok)
        | (fs, .error message) => ({ svc with fs := fs }, .error message)

/-- `should_persist_now`. -/
def shouldPersistNow (times : Readings) (dirtySince : Option ℕ) : Bool :=
  if svc.persistDebounceMs = 0 then true
  else
    match dirtySince with
    | none => false
    | some savedAt => decide (svc.persistDebounceMs ≤ times.checked - savedAt)

/-- The end of `write_output` and `resize_session`: the changed session is dirty, and
persisted at once if it is due. -/
def touch (times : Readings) (sessionId : String)
    (mirror : SessionMirror T) : RecoveryService T F × RecoveryResponse :=
  let svc := svc.track sessionId ⟨mirror, some times.dirtied⟩
  if svc.shouldPersistNow times (some times.dirtied) then
    svc.persistSession term ops times sessionId
  else (svc, .ok)

/-- `write_output`. -/
def writeOutput (times : Readings) (sessionId : String)
    (data : List UInt8) (sequence : UInt64) : RecoveryService T F × RecoveryResponse :=
  match svc.sessions.lookup sessionId with
  | none => (svc, unknownSession sessionId)
  | some session =>
    svc.touch term ops times sessionId (session.mirror.writeOutput term data sequence)

/-- `resize_session`: a terminal that refuses the size is not marked dirty. -/
def resizeSession (times : Readings) (sessionId : String)
    (cols rows : UInt16) : RecoveryService T F × RecoveryResponse :=
  match svc.sessions.lookup sessionId with
  | none => (svc, unknownSession sessionId)
  | some session =>
    match session.mirror.resize term cols rows with
    | (mirror, some message) =>
      (svc.track sessionId { session with mirror := mirror }, .error message)
    | (mirror, none) => svc.touch term ops times sessionId mirror

/-- `end_session`: the session is forgotten even if its file stays. -/
def endSession (sessionId : String) : RecoveryService T F × RecoveryResponse :=
  let removed := svc.store.remove ops svc.fs sessionId
  ({ svc with fs := removed.1, sessions := svc.sessions.erase sessionId }, .ofResult removed.2)

/-- `get_snapshot`: of a session that is not tracked, what is on disk. -/
def getSnapshot (times : Readings) (sessionId : String) : RecoveryResponse :=
  match svc.sessions.lookup sessionId with
  | some session =>
    match session.mirror.snapshot term (times.saved sessionId) with
    | .ok snapshot => .fromSnapshot snapshot
    | .error message => .error message
  | none =>
    match svc.store.read ops svc.fs sessionId with
    | .ok (some snapshot) => .fromSnapshot snapshot
    | .ok none => .notFound
    | .error message => .error message

/-- The loop of `flush_and_shutdown`: the first failure ends it. -/
def flushAll (svc : RecoveryService T F) (times : Readings) :
    List String → RecoveryService T F × RecoveryResponse
  | [] => ({ svc with stopping := true }, .ok)
  | sessionId :: rest =>
    match svc.persistSession term ops times sessionId with
    | (svc, .error message) => (svc, .error message)
    | (svc, _) => flushAll svc times rest

/-- `flush_and_shutdown`. -/
def flushAndShutdown (times : Readings) : RecoveryService T F × RecoveryResponse :=
  svc.flushAll term ops times svc.sessions.keys

/-- `handle_command`. -/
def handleCommand (times : Readings) :
    RecoveryCommand → RecoveryService T F × RecoveryResponse
  | .startSession sessionId cols rows resume =>
    svc.startSession term ops sessionId cols rows resume
  | .writeOutput sessionId data sequence => svc.writeOutput term ops times sessionId data sequence
  | .resizeSession sessionId cols rows => svc.resizeSession term ops times sessionId cols rows
  | .endSession sessionId => svc.endSession ops sessionId
  | .getSnapshot sessionId => (svc, svc.getSnapshot term ops times sessionId)
  | .flushAndShutdown => svc.flushAndShutdown term ops times

/-- `next_flush_delay`: when the first dirty session is due. -/
def nextFlushDelay (now : ℕ) : Option ℕ :=
  if svc.persistDebounceMs = 0 then some 0
  else
    (svc.sessions.entries.filterMap fun entry =>
      entry.2.dirtySince.map fun dirtySince => svc.persistDebounceMs - (now - dirtySince)).min?

/-- Persists some sessions, whatever comes of it. -/
def persistAll (times : Readings) (sessionIds : List String) : RecoveryService T F :=
  sessionIds.foldl (fun svc sessionId => (svc.persistSession term ops times sessionId).1) svc

/-- `flush_due_sessions`. -/
def flushDueSessions (times : Readings) : RecoveryService T F :=
  svc.persistAll term ops times <| svc.sessions.entries.filterMap fun entry =>
    entry.2.dirtySince.bind fun dirtySince =>
      if svc.persistDebounceMs ≤ times.checked - dirtySince then some entry.1 else none

/-- A pass of `run`'s loop over a command: the service afterwards, and the line it
writes. Only a request is answered, and every error. -/
def handleLine (now : ℕ) (times flushTimes : Readings)
    (command : RecoveryCommand) : RecoveryService T F × Option RecoveryResponse :=
  let result := svc.handleCommand term ops times command
  let line := if command.expectsResponse || result.2.isError then some result.2 else none
  if result.1.stopping then (result.1, line)
  else if (svc.nextFlushDelay now).isSome then
    (result.1.flushDueSessions term ops flushTimes, line)
  else (result.1, line)

/-! ## When a mirrored command is answered -/

/-- The mirror can be serialized and its file written. -/
def storable (times : Readings) (sessionId : String) (mirror : SessionMirror T) : Bool :=
  match mirror.snapshot term (times.saved sessionId) with
  | .error _ => false
  | .ok snapshot => (svc.store.write ops svc.fs (times.named sessionId) snapshot).2.isOk

/-- A mirrored command finds what it needs: the session is tracked, the terminal
accepts the size, the file system the file. -/
def quiet (times : Readings) : RecoveryCommand → Bool
  | .writeOutput sessionId data sequence =>
    match svc.sessions.lookup sessionId with
    | none => false
    | some session =>
      !svc.shouldPersistNow times (some times.dirtied) ||
        svc.storable term ops times sessionId (session.mirror.writeOutput term data sequence)
  | .resizeSession sessionId cols rows =>
    match svc.sessions.lookup sessionId with
    | none => false
    | some session =>
      (session.mirror.resize term cols rows).2.isNone &&
        (!svc.shouldPersistNow times (some times.dirtied) ||
          svc.storable term ops times sessionId (session.mirror.resize term cols rows).1)
  | .endSession sessionId => (svc.store.remove ops svc.fs sessionId).2.isOk
  | _ => true

variable {command : RecoveryCommand}

theorem quiet_of_expectsResponse (times : Readings)
    (h : command.expectsResponse = true) : svc.quiet term ops times command = true := by
  cases command with
  | startSession | getSnapshot | flushAndShutdown => rfl
  | writeOutput | resizeSession | endSession => cases h

variable {svc : RecoveryService T F} {sessionId : String}

/-- Persisting a dirty session fails where its mirror cannot be stored. -/
theorem isError_persistSession {times : Readings} {session : TrackedSession T}
    (h : svc.sessions.lookup sessionId = some session)
    (hdirty : session.dirtySince.isNone = false) :
    (svc.persistSession term ops times sessionId).2.isError =
      !svc.storable term ops times sessionId session.mirror := by
  rw [persistSession, h, storable]
  simp only [hdirty, Bool.false_eq_true, if_false]
  rcases session.mirror.snapshot term (times.saved sessionId) with message | snapshot
  · rfl
  · dsimp only
    rcases svc.store.write ops svc.fs (times.named sessionId) snapshot with ⟨fs, message | ok⟩
    · rfl
    · rfl

theorem isError_touch (svc : RecoveryService T F) (times : Readings) (sessionId : String)
    (mirror : SessionMirror T) :
    (svc.touch term ops times sessionId mirror).2.isError =
      !(!svc.shouldPersistNow times (some times.dirtied) ||
        svc.storable term ops times sessionId mirror) := by
  have hlookup : (svc.track sessionId ⟨mirror, some times.dirtied⟩).sessions.lookup sessionId =
      some ⟨mirror, some times.dirtied⟩ := AList.lookup_insert _
  have hpersist := @isError_persistSession _ _ _ term ops _ _ times _ hlookup rfl
  rw [touch]
  split
  next hdue =>
    rw [show svc.shouldPersistNow times (some times.dirtied) = true from hdue]
    exact hpersist
  next hdue =>
    rw [show svc.shouldPersistNow times (some times.dirtied) = false from
      Bool.not_eq_true _ ▸ hdue]
    rfl

/-- **When a mirrored command fails**: exactly where it is not `quiet`. -/
theorem isError_handleCommand (svc : RecoveryService T F) (times : Readings)
    (h : command.expectsResponse = false) :
    (svc.handleCommand term ops times command).2.isError = !svc.quiet term ops times command := by
  cases command with
  | startSession | getSnapshot | flushAndShutdown => cases h
  | writeOutput sessionId data sequence =>
    simp only [handleCommand, writeOutput, quiet]
    rcases svc.sessions.lookup sessionId with _ | session
    · rfl
    · exact isError_touch term ops svc times sessionId _
  | resizeSession sessionId cols rows =>
    simp only [handleCommand, resizeSession, quiet]
    rcases svc.sessions.lookup sessionId with _ | session
    · rfl
    · dsimp only
      rcases session.mirror.resize term cols rows with ⟨mirror, _ | message⟩
      · exact isError_touch term ops svc times sessionId _
      · rfl
  | endSession sessionId =>
    rw [handleCommand, endSession, quiet]
    rcases (svc.store.remove ops svc.fs sessionId).2 with message | ok
    · rfl
    · rfl

/-- **When a line is written**: for every request, and for a mirrored command that
is not `quiet`. -/
theorem handleLine_line (svc : RecoveryService T F) (now : ℕ) (times flushTimes : Readings)
    (command : RecoveryCommand) :
    (svc.handleLine term ops now times flushTimes command).2 =
      if command.expectsResponse || !svc.quiet term ops times command then
        some (svc.handleCommand term ops times command).2
      else none := by
  have hline : (svc.handleLine term ops now times flushTimes command).2 =
      if command.expectsResponse || (svc.handleCommand term ops times command).2.isError then
        some (svc.handleCommand term ops times command).2 else none := by
    rw [handleLine]
    split
    · rfl
    · split <;> rfl
  rw [hline]
  by_cases he : command.expectsResponse = true
  · simp [he]
  · rw [isError_handleCommand term ops svc times (Bool.not_eq_true _ ▸ he)]

end RecoveryService

end Kanna
