import Mathlib.Data.List.Basic

/-!
# The snapshot store of the recovery sidecar

`packages/terminal-recovery/src/snapshot_store.rs`, with the session id check of
`crates/runtime-defaults/src/session_id.rs`. Every session has one file under the
store's root; it is replaced by writing a temporary file and renaming it.

* `FileOps` — the file system and the snapshot codec, as the store uses them.
* `SnapshotStore` — `filePath`, `write`, `read`, `require` and `remove`, with the
  messages of the source.

An unsafe id gets no path, so no operation touches a file for it.
-/

namespace Kanna

universe v w

/-- `session_id::is_safe`. An id without separators is a single path component, and
a normal one unless it is one of the two dot names. -/
def isSafe (sessionId : String) : Bool :=
  let chars := sessionId.toList
  !chars.isEmpty && !chars.contains '\x00' && !chars.contains '/' && !chars.contains '\\' &&
    chars.all (fun c => c.toNat < 128) && !chars.any Char.isUpper &&
    chars != ['.'] && chars != ['.', '.']

-- unfolding the operations below must not start to decode an unknown id
attribute [local irreducible] isSafe

/-- The terminal of a session, as it is stored and as it crosses the wire. The
cursor is unknown in files of old releases. -/
structure RecoverySnapshot where
  sessionId : String
  /-- escape sequences that redraw the terminal -/
  serialized : String
  cols : UInt16
  rows : UInt16
  cursorRow : Option UInt16
  cursorCol : Option UInt16
  cursorVisible : Option Bool
  /-- when it was taken -/
  savedAt : ℕ
  /-- number of the last output chunk it contains -/
  sequence : UInt64

/-- A failed file operation. -/
structure IoError where
  /-- `ErrorKind::NotFound` -/
  notFound : Bool
  /-- how it is displayed -/
  message : String

/-- The file system `F` with files of type `C`, the process, and the codec. -/
structure FileOps (F : Type v) (C : Type w) : Type (max v w) where
  /-- `std::process::id` -/
  pid : ℕ
  /-- the debug form of a path or an id -/
  debug : String → String
  createDirAll : F → String → F × Option IoError
  write : F → String → C → F × Option IoError
  rename : F → String → String → F × Option IoError
  removeFile : F → String → F × Option IoError
  readToString : F → String → Except IoError C
  pathExists : F → String → Bool
  encode : RecoverySnapshot → Except String C
  decode : C → Option RecoverySnapshot

/-- The store; all its files are in one directory. -/
structure SnapshotStore where
  root : String

namespace SnapshotStore

variable {F : Type v} {C : Type w} (ops : FileOps F C) (store : SnapshotStore)

/-- What an unsafe id is answered with. -/
def refusal (sessionId : String) : String :=
  "refusing to derive a snapshot path from unsafe session id " ++ ops.debug sessionId

/-- `file_path`: an unsafe id is refused. -/
def filePath (sessionId : String) : Except String String :=
  if isSafe sessionId then .ok (store.root ++ "/" ++ sessionId ++ ".json")
  else .error (refusal ops sessionId)

/-- `with_extension` on the path of a snapshot. -/
def tempPath (sessionId : String) (now : ℕ) : String :=
  store.root ++ "/" ++ sessionId ++ ".json.tmp-" ++ toString ops.pid ++ "-" ++ toString now

/-- `SnapshotStore::write`: a temporary file, then a rename; a failed one leaves no
temporary file behind, if it can be helped. -/
def write (fs : F) (now : ℕ) (snapshot : RecoverySnapshot) : F × Except String Unit :=
  match store.filePath ops snapshot.sessionId with
  | .error message => (fs, .error message)
  | .ok path =>
    let temp := store.tempPath ops snapshot.sessionId now
    match ops.createDirAll fs store.root with
    | (fs, some e) =>
      (fs, .error ("failed to create snapshot dir " ++ ops.debug store.root ++ ": " ++ e.message))
    | (fs, none) =>
      match ops.encode snapshot with
      | .error e =>
        (fs, .error ("failed to serialize snapshot " ++ snapshot.sessionId ++ ": " ++ e))
      | .ok payload =>
        match ops.write fs temp payload with
        | (fs, some e) =>
          ((ops.removeFile fs temp).1,
            .error ("failed to write snapshot " ++ ops.debug temp ++ ": " ++ e.message))
        | (fs, none) =>
          match ops.rename fs temp path with
          | (fs, some e) =>
            ((ops.removeFile fs temp).1,
              .error ("failed to publish snapshot " ++ ops.debug path ++ ": " ++ e.message))
          | (fs, none) => (fs, .ok ())

/-- `SnapshotStore::require`: the file has to be there, readable and the session's
own. -/
def require (fs : F) (sessionId : String) : Except String RecoverySnapshot :=
  match store.filePath ops sessionId with
  | .error message => .error message
  | .ok path =>
    match ops.readToString fs path with
    | .error e =>
      if e.notFound then
        .error ("missing persisted snapshot for resumed session: " ++ sessionId)
      else .error ("invalid persisted snapshot for resumed session: " ++ sessionId)
    | .ok contents =>
      match ops.decode contents with
      | none => .error ("invalid persisted snapshot for resumed session: " ++ sessionId)
      | some snapshot =>
        if snapshot.sessionId = sessionId then .ok snapshot
        else
          .error ("snapshot file " ++ ops.debug path ++ " contained mismatched session id " ++
            snapshot.sessionId)

/-- `SnapshotStore::read`: no file, no snapshot. -/
def read (fs : F) (sessionId : String) : Except String (Option RecoverySnapshot) :=
  match store.filePath ops sessionId with
  | .error message => .error message
  | .ok path =>
    if ops.pathExists fs path then (store.require ops fs sessionId).map some else .ok none

/-- `SnapshotStore::remove`: a file that is not there counts as removed. -/
def remove (fs : F) (sessionId : String) : F × Except String Unit :=
  match store.filePath ops sessionId with
  | .error message => (fs, .error message)
  | .ok path =>
    match ops.removeFile fs path with
    | (fs, none) => (fs, .ok ())
    | (fs, some e) =>
      if e.notFound then (fs, .ok ())
      else (fs, .error ("failed to remove snapshot " ++ ops.debug path ++ ": " ++ e.message))

end SnapshotStore

end Kanna
