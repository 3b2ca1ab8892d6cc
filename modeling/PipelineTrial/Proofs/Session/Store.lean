import PipelineTrial.Proofs.Files.Tree
import PipelineTrial.Proofs.Session.History
import PipelineTrial.Proofs.Session.Snapshot

/-! A store in files answers as one in memory does, over every history and for each session by itself. -/

namespace PipelineTrial

open FileTree (Beside Changed)

namespace FileStore

/-- The identifier of a session: ASCII letters, digits, hyphens and underscores, at least one. -/
def IsId (session : String) : Prop :=
  -- No other character can lead out of a directory.
  session ≠ "" ∧ ∀ char ∈ session.toList, char.isAlphanum = true ∨ char = '-' ∨ char = '_'

section Paths

variable {store : FileStore} {session : String}

/-- The directory of a session stands directly under the root. -/
theorem directory_of_isId (isId : IsId session) :
    store.directory session = .ok (store.root ++ [session]) := by
  -- All of its characters are allowed.
  have allowed : session.toList.all isIdChar = true := by
    simpa [isIdChar, or_assoc] using isId.2
  simp [directory, isId.1, allowed]

/-- A text that is no identifier has no directory. -/
theorem directory_of_not_isId (notId : ¬IsId session) :
    store.directory session = .error (.unknownSession session) := by
  -- Some character is not allowed, or there is none.
  unfold directory
  split
  · next valid => exact absurd ⟨valid.1, by simpa [isIdChar, or_assoc] using valid.2⟩ notId
  · rfl

/-- The snapshot of a session stands in its directory. -/
theorem snapshotPath_of_isId (isId : IsId session) :
    store.snapshotPath session = .ok (store.root ++ [session] ++ [snapshotName]) := by
  rw [snapshotPath, directory_of_isId isId]
  rfl

/-- Saving writes the snapshot through to its path. -/
theorem save_of_isId (isId : IsId session) (snapshot : Environment) :
    store.save session snapshot = store.update
      (store.files.writeThrough snapshot.stored.toUTF8 (store.root ++ [session] ++ [snapshotName])) := by
  rw [save, snapshotPath_of_isId isId]

/-- Removing takes the directory of the session away when it stands there. -/
theorem remove_of_isId (isId : IsId session) :
    store.remove session =
      if store.files.contains (store.root ++ [session]) then
        store.update (store.files.removeDirectory (store.root ++ [session]))
      else .ok store := by
  rw [remove, directory_of_isId isId]

/-- A text that is no identifier has no snapshot. -/
private theorem snapshotPath_of_not_isId (notId : ¬IsId session) :
    store.snapshotPath session = .error (.unknownSession session) := by
  rw [snapshotPath, directory_of_not_isId notId]
  rfl

/-- Nothing is saved for a text that is no identifier. -/
theorem save_of_not_isId (notId : ¬IsId session) (snapshot : Environment) :
    store.save session snapshot = .error (.unknownSession session) := by
  rw [save, snapshotPath_of_not_isId notId]

/-- Nothing is loaded for a text that is no identifier, whatever the files. -/
theorem load_of_not_isId (notId : ¬IsId session) :
    store.load session = .error (.unknownSession session) := by
  rw [load, snapshotPath_of_not_isId notId]

/-- Nothing is removed for a text that is no identifier. -/
theorem remove_of_not_isId (notId : ¬IsId session) :
    store.remove session = .error (.unknownSession session) := by
  rw [remove, directory_of_not_isId notId]

/-- An attempt to save for a text that is no identifier makes no directories. -/
private theorem afterSave_of_not_isId (notId : ¬IsId session) (snapshot : Environment) :
    store.afterSave session snapshot = store := by
  simp only [afterSave, save_of_not_isId notId, directory_of_not_isId notId]

/-- An attempt to remove a text that is no identifier takes nothing away. -/
private theorem afterRemove_of_not_isId (notId : ¬IsId session) : store.afterRemove session = store := by
  simp only [afterRemove, remove_of_not_isId notId]

/-- A text that is no identifier is unknown to every operation, which changes nothing. -/
theorem perform_of_not_isId (store : FileStore) {operation : StoreOperation}
    (notId : ¬IsId operation.session) :
    store.perform operation = (store, .failed (.unknownSession operation.session)) := by
  cases operation with
  | save session snapshot =>
    have refused := @save_of_not_isId store session notId snapshot
    exact Prod.ext (afterSave_of_not_isId notId snapshot) (congrArg StoreAnswer.ofChange refused)
  | load session =>
    exact congrArg (fun loaded => (store, StoreAnswer.ofLoad loaded)) (load_of_not_isId notId)
  | remove session =>
    have refused := @remove_of_not_isId store session notId
    exact Prod.ext (afterRemove_of_not_isId notId) (congrArg StoreAnswer.ofChange refused)

/-- Neither slashes nor points occur in an identifier. -/
private theorem ne_of_mem_isId {char : Char} (isId : IsId session) (member : char ∈ session.toList) :
    char ≠ '/' ∧ char ≠ '.' := by
  -- They are no letters and no digits.
  rcases isId.2 char member with letter | rfl | rfl
  · constructor <;> (rintro rfl; exact absurd letter (by decide))
  · decide
  · decide

end Paths

section Isolation

/-- Two stores hold the same for a session. -/
def SameAt (session : String) (left right : FileStore) : Prop :=
  -- The directory of the session counts, with all that stands in it.
  left.root = right.root ∧ ∀ further,
    left.files.find? (right.root ++ session :: further) =
      right.files.find? (right.root ++ session :: further)

/-- Paths of different sessions lie beside each other. -/
private theorem beside_of_ne {session other : String} (different : other ≠ session)
    (root lower further : FilePath) : Beside (root ++ session :: lower) (root ++ other :: further) := by
  constructor <;> simp [different, Ne.symm different]

/-- What is loaded depends on the files of the session alone. -/
theorem SameAt.load {session : String} {left right : FileStore} (same : SameAt session left right) :
    left.load session = right.load session := by
  -- Only the file at the path of the snapshot is read, if there is such a path.
  obtain ⟨root, files⟩ := same
  by_cases isId : IsId session
  · have content : left.files.find? (right.root ++ [session] ++ [snapshotName]) =
        right.files.find? (right.root ++ [session] ++ [snapshotName]) := by
      simpa using files [snapshotName]
    have stands : left.files.isFile (right.root ++ [session] ++ [snapshotName]) =
        right.files.isFile (right.root ++ [session] ++ [snapshotName]) := by
      rw [FileTree.isFile, FileTree.isFile, content]
    have bytes : left.files.readBytes (right.root ++ [session] ++ [snapshotName]) =
        right.files.readBytes (right.root ++ [session] ++ [snapshotName]) := by
      rw [FileTree.readBytes, FileTree.readBytes, content]
    simp only [FileStore.load, snapshotPath_of_isId isId, root, stands, bytes]
  · rw [load_of_not_isId isId, load_of_not_isId isId]

/-- A store whose files change at one session is the same at all others. -/
private theorem sameAt_of_changed {store : FileStore} {session other : String} (different : other ≠ session)
    {lower : FilePath} {node : Option FileTree} {files : FileTree}
    (changed : Changed (store.root ++ session :: lower) node (some store.files) files) :
    SameAt other { store with files := files } store :=
  ⟨rfl, fun _ => changed.beside (beside_of_ne different _ _ _)⟩

/-- An attempt to save for one session leaves all others as they were, whether it fails or not. -/
private theorem sameAt_afterSave (store : FileStore) {session other : String} (different : other ≠ session)
    (snapshot : Environment) : SameAt other (store.afterSave session snapshot) store := by
  by_cases isId : IsId session
  · cases attempt : store.files.writeThrough snapshot.stored.toUTF8 (store.root ++ [session] ++ [snapshotName]) with
    | ok files =>
      have after : store.afterSave session snapshot = { store with files := files } := by
        simp only [afterSave, save_of_isId isId, attempt, update]
      rw [after]
      have changed := FileTree.changed_of_writeThrough attempt
      rw [List.append_assoc] at changed
      exact sameAt_of_changed different changed
    | error error =>
      -- The directories that were made lie beside those of the other session.
      have after : store.afterSave session snapshot =
          { store with files := store.files.withDirectories (store.root ++ [session]) } := by
        simp only [afterSave, save_of_isId isId, attempt, update, directory_of_isId isId]
      rw [after]
      exact ⟨rfl, fun further => FileTree.find?_withDirectories (beside_of_ne different _ [] further)⟩
  · rw [afterSave_of_not_isId isId]
    exact ⟨rfl, fun _ => rfl⟩

/-- An attempt to remove one session leaves all others as they were. -/
private theorem sameAt_afterRemove (store : FileStore) {session other : String} (different : other ≠ session) :
    SameAt other (store.afterRemove session) store := by
  -- Only a directory of an identifier is removed, and nothing else is touched.
  have kept : SameAt other store store := ⟨rfl, fun _ => rfl⟩
  by_cases isId : IsId session
  · rw [afterRemove, remove_of_isId isId]
    split
    · next stands left removed =>
      split at removed
      · cases attempt : store.files.removeDirectory (store.root ++ [session]) with
        | error error =>
          rw [attempt] at removed
          cases removed
        | ok files =>
          rw [attempt] at removed
          cases removed
          exact sameAt_of_changed different (FileTree.changed_of_removeDirectory (by simp) attempt)
      · cases removed
        exact kept
    · exact kept
  · rw [afterRemove_of_not_isId isId]
    exact kept

/-- An operation on one session leaves all other sessions as they were. -/
theorem sameAt_perform (store : FileStore) (operation : StoreOperation) {other : String}
    (different : other ≠ operation.session) : SameAt other (store.perform operation).1 store := by
  -- What changes lies at the directory of the operation's own session.
  cases operation with
  | save session snapshot => exact sameAt_afterSave store different snapshot
  | load => exact ⟨rfl, fun _ => rfl⟩
  | remove session => exact sameAt_afterRemove store different

end Isolation

section Mirroring

/-- The directories down to the root of a store stand or can be made. -/
def Rooted (store : FileStore) : Prop := ∃ made, store.files.makeDirectories store.root = .ok made

/-- A store in files holds a snapshot for a session, or nothing at all. -/
def Holds (store : FileStore) (session : String) : Option Environment → Prop
  | none => store.files.find? (store.root ++ [session]) = none
  | some snapshot => store.files.find? (store.root ++ [session] ++ [snapshotName]) =
      some (.file snapshot.stored.toUTF8)

/-- Stores with the same files for a session hold the same snapshot for it. -/
theorem SameAt.holds {session : String} {left right : FileStore} (same : SameAt session left right)
    {held : Option Environment} (holds : right.Holds session held) : left.Holds session held := by
  obtain ⟨root, files⟩ := same
  cases held with
  | none => simpa [Holds, root, files []] using holds
  | some snapshot => simpa [Holds, root, files [snapshotName]] using holds

/-- A store in files holds for each session what a store in memory holds. -/
structure Mirrors (store : FileStore) (memory : MemoryStore) : Prop where
  rooted : store.Rooted
  held : ∀ {session}, IsId session → store.Holds session (memory.snapshots.get? session)

/-- The file of a session stands there exactly when a snapshot is held. -/
private theorem Holds.find? {store : FileStore} {session : String} {held : Option Environment}
    (holds : store.Holds session held) :
    store.files.find? (store.root ++ [session] ++ [snapshotName]) =
      held.map fun snapshot => .file snapshot.stored.toUTF8 := by
  -- Nothing stands in a directory that is not there.
  cases held with
  | none =>
    rw [FileTree.find?_append, show store.files.find? (store.root ++ [session]) = none from holds]
    rfl
  | some snapshot => exact holds

/-- What a store holds for a session is loaded. -/
theorem load_of_holds {store : FileStore} {session : String} {held : Option Environment}
    (isId : IsId session) (holds : store.Holds session held) :
    store.load session = held.elim (.error (.unknownSession session)) .ok := by
  -- The bytes of a snapshot are read back as that snapshot.
  rw [load, snapshotPath_of_isId isId]
  simp only [FileTree.isFile, FileTree.readBytes, holds.find?]
  cases held with
  | none => rfl
  | some snapshot =>
    simp only [Option.map_some, Environment.ofStored?_toUTF8]
    rfl

/-- A snapshot is saved where one or nothing is held, and is held then. -/
theorem save_of_holds {store : FileStore} {session : String} {held : Option Environment}
    (rooted : store.Rooted) (isId : IsId session)
    (accepted : acceptsName session = true) (holds : store.Holds session held)
    (snapshot : Environment) :
    ∃ saved, store.save session snapshot = .ok saved ∧ saved.Holds session (some snapshot) ∧
      saved.Rooted := by
  -- No file stands in place of the directory, and no directory in place of the file.
  obtain ⟨made, rootMade⟩ := rooted
  have noFile : store.files.isFile (store.root ++ [session]) = false := by
    cases held with
    | none => simp [FileTree.isFile, show store.files.find? (store.root ++ [session]) = none from holds]
    | some old =>
      obtain ⟨entries, found⟩ := FileTree.directory_of_find? (List.cons_ne_nil _ _) holds
      simp [FileTree.isFile, found]
  have noDirectory (entries : List (String × FileTree)) :
      store.files.find? (store.root ++ [session] ++ [snapshotName]) ≠ some (.directory entries) := by
    rw [holds.find?]
    cases held <;> simp
  obtain ⟨deeper, making⟩ := FileTree.makeDirectories_concat rootMade accepted noFile
  have nameAccepted : acceptsName snapshotName = true := by decide
  obtain ⟨written, writing⟩ :=
    FileTree.writeThrough_concat snapshot.stored.toUTF8 making nameAccepted noDirectory
  have changed := FileTree.changed_of_writeThrough writing
  refine ⟨{ store with files := written }, ?_, changed.node, ?_⟩
  · rw [save_of_isId isId, writing]
    rfl
  · obtain ⟨entries, found⟩ :=
      changed.above (List.append_assoc _ _ _) (List.cons_ne_nil session [snapshotName])
    exact FileTree.makeDirectories_of_directory (FileTree.accepted_of_makeDirectories rootMade) found

/-- What is held is removed, and nothing is held then. -/
theorem remove_of_holds {store : FileStore} {session : String} {held : Option Environment}
    (rooted : store.Rooted) (isId : IsId session)
    (holds : store.Holds session held) :
    ∃ left, store.remove session = .ok left ∧ left.Holds session none ∧ left.Rooted := by
  -- A directory that is not there need not be removed.
  obtain ⟨made, rootMade⟩ := rooted
  rw [remove_of_isId isId]
  cases held with
  | none =>
    have missing : store.files.find? (store.root ++ [session]) = none := holds
    exact ⟨store, by simp [FileTree.contains, missing], holds, made, rootMade⟩
  | some old =>
    obtain ⟨entries, found⟩ := FileTree.directory_of_find? (List.cons_ne_nil _ _) holds
    obtain ⟨left, removing⟩ := FileTree.removeDirectory_of_directory found
    have changed := FileTree.changed_of_removeDirectory (by simp) removing
    refine ⟨{ store with files := left }, ?_, changed.node, ?_⟩
    · simp only [FileTree.contains, found, removing]
      rfl
    · obtain ⟨entries, found⟩ := changed.above rfl (List.cons_ne_nil session [])
      exact FileTree.makeDirectories_of_directory (FileTree.accepted_of_makeDirectories rootMade) found

/-- An operation answers alike in both stores, and they mirror each other afterwards. -/
theorem Mirrors.perform {store : FileStore} {memory : MemoryStore} (mirrors : store.Mirrors memory)
    {operation : StoreOperation} (isId : IsId operation.session)
    (accepted : acceptsName operation.session = true) :
    (store.perform operation).2 = (memory.perform operation).2 ∧
      (store.perform operation).1.Mirrors (memory.perform operation).1 := by
  -- The other sessions stay as they were on both sides.
  have apart {other : String} (otherId : IsId other) (different : other ≠ operation.session) :
      (store.perform operation).1.Holds other ((memory.perform operation).1.snapshots.get? other) := by
    rw [MemoryStore.get?_perform_of_ne memory operation different]
    exact (sameAt_perform store operation different).holds (mirrors.held otherId)
  cases operation with
  | save session snapshot =>
    simp only [StoreOperation.session] at isId accepted apart
    obtain ⟨saved, succeeded, holds, rooted⟩ :=
      save_of_holds mirrors.rooted isId accepted (mirrors.held isId) snapshot
    have performed : store.perform (.save session snapshot) = (saved, .done) := by
      simp only [FileStore.perform, afterSave, succeeded]
      rfl
    rw [performed] at apart ⊢
    refine ⟨rfl, rooted, fun {other} otherId => ?_⟩
    by_cases same : other = session
    · subst same
      simpa [MemoryStore.perform, MemoryStore.save, Dictionary.get?_insert] using holds
    · exact apart otherId same
  | load session =>
    simp only [StoreOperation.session] at isId
    have loaded : store.load session = memory.load session := by
      rw [load_of_holds isId (mirrors.held isId), MemoryStore.load]
      cases memory.snapshots.get? session <;> rfl
    exact ⟨congrArg StoreAnswer.ofLoad loaded, mirrors⟩
  | remove session =>
    simp only [StoreOperation.session] at isId apart
    obtain ⟨left, succeeded, holds, rooted⟩ :=
      remove_of_holds mirrors.rooted isId (mirrors.held isId)
    have performed : store.perform (.remove session) = (left, .done) := by
      simp only [FileStore.perform, afterRemove, succeeded]
      rfl
    rw [performed] at apart ⊢
    refine ⟨rfl, rooted, fun {other} otherId => ?_⟩
    by_cases same : other = session
    · subst same
      simpa [MemoryStore.perform, MemoryStore.remove, Dictionary.get?_erase] using holds
    · exact apart otherId same

end Mirroring

section Histories

/-- A store without a session: its root can be made, and nothing stands where a session would. -/
structure Vacant (store : FileStore) : Prop where
  rooted : store.Rooted
  free : ∀ {session}, IsId session → store.files.find? (store.root ++ [session]) = none

/-- Stores that mirror each other answer alike, by the snapshots last saved. -/
private theorem Mirrors.history {store : FileStore} {memory : MemoryStore} {past : List StoreOperation}
    (mirrors : store.Mirrors memory) (represents : memory.Represents past)
    {operations : List StoreOperation}
    (named : ∀ operation ∈ operations, IsId operation.session ∧ acceptsName operation.session = true) :
    answersInTurn FileStore.perform store operations =
        answersInTurn MemoryStore.perform memory operations ∧
      ∀ {place operation}, operations[place]? = some operation →
        ∃ answer, (answersInTurn FileStore.perform store operations)[place]? = some answer ∧
          Answered (past ++ operations.take place) operation answer := by
  -- By induction on the operations that are left, with the past growing by one each time.
  induction operations generalizing store memory past with
  | nil => exact ⟨rfl, fun found => by simp at found⟩
  | cons first rest ih =>
    obtain ⟨⟨isId, accepted⟩, others⟩ := List.forall_mem_cons.1 named
    obtain ⟨same, mirrored⟩ := mirrors.perform isId accepted
    obtain ⟨restSame, restAnswered⟩ := ih mirrored (represents.perform first) others
    refine ⟨by simp only [answersInTurn, same, restSame], fun {place operation} found => ?_⟩
    cases place with
    | zero =>
      obtain rfl : first = operation := by simpa using found
      exact ⟨_, rfl, by simpa [same] using represents.answered first⟩
    | succ place =>
      obtain ⟨answer, given, answered⟩ := restAnswered (by simpa using found)
      exact ⟨answer, by simpa [answersInTurn] using given, by simpa using answered⟩

/-- What a store in files does over a history of operations, and what it leaves alone. -/
structure Faithful (store : FileStore) (operations : List StoreOperation) : Prop where
  alike : answersInTurn perform store operations =
    answersInTurn MemoryStore.perform .empty operations
  answered : ∀ {place operation}, operations[place]? = some operation →
    ∃ answer, (answersInTurn perform store operations)[place]? = some answer ∧
      Answered (operations.take place) operation answer
  /-- Operations on one session never change what is loaded for another, whatever a store holds. -/
  isolated : ∀ {operation : StoreOperation} {other}, other ≠ operation.session →
    (∀ memory : MemoryStore, (memory.perform operation).1.load other = memory.load other) ∧
      ∀ current : FileStore, (current.perform operation).1.load other = current.load other
  /-- Each session has a directory of its own directly under the root. -/
  placed : ∀ {session}, IsId session →
    store.directory session = .ok (store.root ++ [session]) ∧
      store.snapshotPath session = .ok (store.root ++ [session] ++ [snapshotName]) ∧
      '/' ∉ session.toList ∧ session ≠ "." ∧ session ≠ ".." ∧
      ∀ {other}, IsId other → other ≠ session → store.directory other ≠ store.directory session
  /-- A text that is no identifier is unknown to every operation, whatever the files, and they stay. -/
  refused : ∀ {session}, ¬IsId session → ∀ current : FileStore,
    (∀ snapshot, current.save session snapshot = .error (.unknownSession session)) ∧
      current.load session = .error (.unknownSession session) ∧
      current.remove session = .error (.unknownSession session) ∧
      ∀ {operation : StoreOperation}, operation.session = session →
        current.perform operation = (current, .failed (.unknownSession session))

/-- A store in files is as good as one in memory over every history that starts without a session. -/
theorem faithful {store : FileStore} (vacant : store.Vacant) {operations : List StoreOperation}
    (named : ∀ operation ∈ operations, IsId operation.session ∧ acceptsName operation.session = true) :
    store.Faithful operations := by
  -- Both start without snapshots and go on in step.
  have mirrors : store.Mirrors .empty := ⟨vacant.rooted, fun isId => vacant.free isId⟩
  obtain ⟨alike, answered⟩ := mirrors.history MemoryStore.represents_nil named
  refine ⟨alike, answered, fun {operation other} different => ⟨fun memory => ?_, fun current => ?_⟩,
    fun {session} isId => ?_, fun {session} notId current => ?_⟩
  · rw [MemoryStore.load, MemoryStore.get?_perform_of_ne memory operation different, MemoryStore.load]
  · exact (sameAt_perform current operation different).load
  · refine ⟨directory_of_isId isId, snapshotPath_of_isId isId,
      fun slash => (ne_of_mem_isId isId slash).1 rfl, ?_, ?_, fun {other} otherId different => ?_⟩
    · rintro rfl
      exact (ne_of_mem_isId isId (by decide : '.' ∈ ".".toList)).2 rfl
    · rintro rfl
      exact (ne_of_mem_isId isId (by decide : '.' ∈ "..".toList)).2 rfl
    · rw [directory_of_isId otherId, directory_of_isId isId]
      simpa using different
  · refine ⟨save_of_not_isId notId, load_of_not_isId notId, remove_of_not_isId notId, ?_⟩
    rintro operation rfl
    exact perform_of_not_isId current notId

/-- Two sessions saved, one of them removed. -/
def twoSessions (first second : Environment) : List StoreOperation :=
  [.save "a" first, .save "b" second, .load "a", .remove "a", .load "a", .load "b"]

/-- The session that was removed is unknown, and the other one is still there. -/
theorem faithful_twoSessions :
    let first : Environment := Dictionary.empty.insert "TOKEN" "alpha"
    let second : Environment := Dictionary.empty.insert "TOKEN" "beta"
    answersInTurn perform ⟨FileTree.empty, ["sessions"]⟩ (twoSessions first second) =
      [.done, .done, .found first, .done, .failed (.unknownSession "a"), .found second] := by
  intro first second
  have vacant : (⟨FileTree.empty, ["sessions"]⟩ : FileStore).Vacant := ⟨⟨_, rfl⟩, fun _ => rfl⟩
  -- Both sessions have identifiers that are accepted as names.
  have named : ∀ operation ∈ twoSessions first second,
      IsId operation.session ∧ acceptsName operation.session = true := by
    have isA : IsId "a" ∧ acceptsName "a" = true := ⟨⟨by decide, by simp⟩, by decide⟩
    have isB : IsId "b" ∧ acceptsName "b" = true := ⟨⟨by decide, by simp⟩, by decide⟩
    simp [twoSessions, StoreOperation.session, isA, isB]
  rw [(faithful vacant named).alike]
  rfl

end Histories

end FileStore

end PipelineTrial
