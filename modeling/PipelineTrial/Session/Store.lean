import PipelineTrial.Files.Tree
import PipelineTrial.Session.Snapshot
import PipelineTrial.Suite.Error

/-! Stores of environment snapshots by session, in memory and in a file tree. -/

namespace PipelineTrial

/-- A store in memory. -/
structure MemoryStore where
  snapshots : Dictionary Environment
  deriving DecidableEq

namespace MemoryStore

/-- The store without snapshots. -/
def empty : MemoryStore := ⟨Dictionary.empty⟩

/-- The store with a snapshot for a session, in place of an earlier one. -/
def save (store : MemoryStore) (session : String) (snapshot : Environment) : MemoryStore :=
  -- Any text can name a session here.
  ⟨store.snapshots.insert session snapshot⟩

/-- The snapshot of a session. -/
def load (store : MemoryStore) (session : String) : Except SuiteError Environment :=
  -- There may be none.
  match store.snapshots.get? session with
  | none => .error (.unknownSession session)
  | some snapshot => .ok snapshot

/-- The store without the snapshot of a session. -/
def remove (store : MemoryStore) (session : String) : MemoryStore :=
  -- Removing what is not there changes nothing.
  ⟨store.snapshots.erase session⟩

end MemoryStore

/-- A store in a file tree, with one directory for each session under a root. -/
structure FileStore where
  files : FileTree
  root : FilePath

namespace FileStore

/-- The name of the file that holds a snapshot. -/
def snapshotName : String := "environment.json"

/-- Whether a character may occur in the identifier of a session. -/
def isIdChar (char : Char) : Bool :=
  -- Only ASCII letters and digits count.
  char.isAlphanum || char == '-' || char == '_'

/-- The directory of a session; most texts name none. -/
def directory (store : FileStore) (session : String) : Except SuiteError FilePath :=
  -- No identifier leads out of the root.
  if session ≠ "" ∧ session.toList.all isIdChar = true then .ok (store.root ++ [session])
  else .error (.unknownSession session)

/-- The path of a session's snapshot. -/
def snapshotPath (store : FileStore) (session : String) : Except SuiteError FilePath :=
  -- It stands in the directory of the session.
  (store.directory session).map (· ++ [snapshotName])

/-- The store over changed files, or the failure to change them. -/
def update (store : FileStore) : Except FileError FileTree → Except SuiteError FileStore
  | .ok files => .ok { store with files := files }
  | .error error => .error (.file error.message)

/-- The store with a snapshot for a session, in place of an earlier one. -/
def save (store : FileStore) (session : String) (snapshot : Environment) :
    Except SuiteError FileStore :=
  -- Missing directories are made.
  match store.snapshotPath session with
  | .error error => .error error
  | .ok path => store.update (store.files.writeThrough snapshot.stored.toUTF8 path)

/-- The store after an attempt to save, which leaves the directories it made when it fails. -/
def afterSave (store : FileStore) (session : String) (snapshot : Environment) : FileStore :=
  -- A text that names no directory has none made for it.
  match store.directory session, store.save session snapshot with
  | _, .ok saved => saved
  | .error _, .error _ => store
  | .ok path, .error _ => { store with files := store.files.withDirectories path }

/-- The snapshot of a session. -/
def load (store : FileStore) (session : String) : Except SuiteError Environment :=
  -- Without a file there is no session.
  match store.snapshotPath session with
  | .error error => .error error
  | .ok path =>
    if store.files.isFile path then
      match store.files.readBytes path with
      | .error error => .error (.file error.message)
      | .ok content =>
        match (String.fromUTF8? content).bind Environment.ofStored? with
        | none => .error (.json "not an object of texts")
        | some snapshot => .ok snapshot
    else .error (.unknownSession session)

/-- The store without the directory of a session. -/
def remove (store : FileStore) (session : String) : Except SuiteError FileStore :=
  -- Removing what is not there changes nothing.
  match store.directory session with
  | .error error => .error error
  | .ok path =>
    if store.files.contains path then store.update (store.files.removeDirectory path)
    else .ok store

/-- The store after an attempt to remove, which changes nothing when it fails. -/
def afterRemove (store : FileStore) (session : String) : FileStore :=
  -- What is no directory is refused before anything is taken away.
  match store.remove session with
  | .ok left => left
  | .error _ => store

end FileStore

end PipelineTrial
