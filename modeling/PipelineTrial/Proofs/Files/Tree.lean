import PipelineTrial.Files.Tree
import PipelineTrial.Proofs.Dictionary

/-! What an operation on a path does to a file tree: the path changes, all beside it stays. -/

namespace PipelineTrial

namespace FileTree

/-- A path leads on from another one. -/
theorem find?_append (path further : FilePath) (tree : FileTree) :
    find? (path ++ further) tree = (find? path tree).bind (find? further) := by
  -- Each name leads one directory down.
  induction path generalizing tree with
  | nil => rfl
  | cons name path ih =>
    cases tree with
    | file | unreadable => rfl
    | directory entries =>
      simp only [List.cons_append, find?]
      cases Entries.get? name entries with
      | none => rfl
      | some child => exact ih child

/-- Nothing stands below an empty directory. -/
theorem find?_empty {path : FilePath} (below : path ≠ []) : find? path empty = none := by
  cases path with
  | nil => exact absurd rfl below
  | cons name path => rfl

/-- A path with something below it leads to a directory. -/
theorem directory_of_find? {path further : FilePath} {tree node : FileTree} (below : further ≠ [])
    (found : find? (path ++ further) tree = some node) :
    ∃ entries, find? path tree = some (.directory entries) := by
  -- Nothing stands below a file.
  rw [find?_append] at found
  obtain ⟨middle, atPath, beyond⟩ := Option.bind_eq_some_iff.1 found
  obtain ⟨name, rest, rfl⟩ := List.exists_cons_of_ne_nil below
  cases middle with
  | file | unreadable => cases beyond
  | directory entries => exact ⟨entries, atPath⟩

/-- What stands at a path is a directory, unless it is a file or missing. -/
theorem directory_of_not_isFile {path : FilePath} {tree node : FileTree} (stands : find? path tree = some node)
    (noFile : isFile path tree = false) : ∃ entries, node = .directory entries := by
  cases node with
  | file | unreadable => simp [isFile, stands] at noFile
  | directory entries => exact ⟨entries, rfl⟩

/-- Neither of two paths leads on from the other. -/
def Beside (path other : FilePath) : Prop := ¬path <+: other ∧ ¬other <+: path

/-- A tree has a given node at a path, or none, directories above it, and the rest as it was before. -/
structure Changed (path : FilePath) (node before : Option FileTree) (after : FileTree) : Prop where
  node : find? path after = node
  above : ∀ {upper lower}, path = upper ++ lower → lower ≠ [] →
    ∃ entries, find? upper after = some (.directory entries)
  beside : ∀ {other}, Beside path other → find? other after = before.bind (find? other)

namespace Changed

variable {path : FilePath} {node before : Option FileTree} {after : FileTree}

/-- The whole tree can be changed. -/
theorem whole (before : Option FileTree) (after : FileTree) : Changed [] (some after) before after where
  node := rfl
  above := by
    intro upper lower split below
    exact absurd (List.append_eq_nil_iff.1 split.symm).2 below
  beside := fun beside => absurd List.nil_prefix beside.1

/-- What changes an empty directory could as well change nothing. -/
theorem of_empty (changed : Changed path node (some empty) after) : Changed path node none after where
  node := changed.node
  above := changed.above
  beside := by
    -- A path beside another one is not empty.
    intro other beside
    have below : other ≠ [] := fun none => beside.2 (none ▸ List.nil_prefix)
    simpa [find?_empty below] using changed.beside beside

/-- A change below an entry of a directory is a change below the directory. -/
theorem under {name : String} {entries : List (String × FileTree)}
    (changed : Changed path node (Entries.get? name entries) after) :
    Changed (name :: path) node (some (.directory entries))
      (.directory (Entries.insert name after entries)) where
  node := by
    simp [find?, Entries.get?_insert, changed.node]
  above := by
    intro upper lower split below
    cases upper with
    | nil => exact ⟨_, rfl⟩
    | cons first upper =>
      obtain ⟨rfl, rest⟩ := List.cons.inj split
      simpa [find?, Entries.get?_insert] using changed.above rest below
  beside := by
    -- A path that starts with the same name goes on beside the rest of the changed one.
    intro other beside
    cases other with
    | nil => exact absurd List.nil_prefix beside.2
    | cons first rest =>
      by_cases same : first = name
      · subst same
        have inside : Beside path rest :=
          ⟨fun on => beside.1 (List.cons_prefix_cons.2 ⟨rfl, on⟩),
            fun on => beside.2 (List.cons_prefix_cons.2 ⟨rfl, on⟩)⟩
        simp only [find?, Entries.get?_insert, if_true, changed.beside inside, Option.bind_some]
        cases Entries.get? first entries <;> rfl
      · simp [find?, Entries.get?_insert, same]

/-- Erasing an entry of a directory is a change at its name. -/
theorem erased (name : String) (entries : List (String × FileTree)) :
    Changed [name] none (some (.directory entries)) (.directory (Entries.erase name entries)) where
  node := by
    simp [find?, Entries.get?_erase]
  above := by
    intro upper lower split below
    -- Only the directory itself stands above its entry.
    cases upper with
    | nil => exact ⟨_, rfl⟩
    | cons first upper =>
      have rest := (List.cons.inj split).2
      exact absurd (List.append_eq_nil_iff.1 rest.symm).2 below
  beside := by
    intro other beside
    -- A path beside the entry begins with another name.
    cases other with
    | nil => exact absurd List.nil_prefix beside.2
    | cons first rest =>
      have different : first ≠ name := by
        rintro rfl
        exact beside.1 (List.cons_prefix_cons.2 ⟨rfl, List.nil_prefix⟩)
      simp [find?, Entries.get?_erase, different]

end Changed

section Directories

variable {name : String} {path : FilePath} {tree made : FileTree}

/-- At the place where a path ends, a directory has to stand already. -/
theorem makeDirectories_nil_eq_ok :
    makeDirectories [] tree = .ok made ↔ (∃ entries, tree = .directory entries) ∧ made = tree := by
  cases tree <;> simp [makeDirectories, obstacle?, withDirectories, eq_comm]

/-- Directories are made below an accepted name, in what stands under it or in an empty directory. -/
theorem makeDirectories_cons_eq_ok : makeDirectories (name :: path) tree = .ok made ↔
    acceptsName name = true ∧ ∃ entries child, tree = .directory entries ∧
      makeDirectories path ((Entries.get? name entries).getD empty) = .ok child ∧
      made = .directory (Entries.insert name child entries) := by
  -- Making directories fails in a file, at a name that is not accepted, and when it fails below.
  cases tree with
  | file | unreadable => simp [makeDirectories, obstacle?]
  | directory entries =>
    cases accepted : acceptsName name with
    | false => simp [makeDirectories, obstacle?, accepted]
    | true =>
      cases met : obstacle? path ((Entries.get? name entries).getD empty) <;>
        simp [makeDirectories, obstacle?, withDirectories, accepted, met, eq_comm]

/-- Making directories leaves what stands at the path, or an empty directory. -/
theorem changed_of_makeDirectories (succeeded : makeDirectories path tree = .ok made) :
    Changed path (some ((find? path tree).getD empty)) (some tree) made := by
  -- Each name leads into a directory that stands there, or into an empty one.
  induction path generalizing tree made with
  | nil =>
    obtain ⟨-, rfl⟩ := makeDirectories_nil_eq_ok.1 succeeded
    exact .whole _ _
  | cons name path ih =>
    obtain ⟨-, entries, child, rfl, inside, rfl⟩ := makeDirectories_cons_eq_ok.1 succeeded
    refine Changed.under ?_
    cases stands : Entries.get? name entries with
    | some old => simpa [find?, stands] using ih (by simpa [stands] using inside)
    | none =>
      have fresh : (find? path empty).getD empty = empty := by cases path <;> rfl
      simpa [find?, stands, fresh] using (ih (by simpa [stands] using inside)).of_empty

/-- Directories made on a path, all of them or some, leave what lies beside the path as it was. -/
theorem find?_withDirectories {other : FilePath} (beside : Beside path other) :
    find? other (withDirectories path tree) = find? other tree := by
  -- A path that starts with the same name goes on beside the rest of the one that is made.
  induction path generalizing other tree with
  | nil => exact absurd List.nil_prefix beside.1
  | cons name path ih =>
    cases other with
    | nil => exact absurd List.nil_prefix beside.2
    | cons first rest =>
      cases tree with
      | file | unreadable => rfl
      | directory entries =>
        unfold withDirectories
        split
        · rfl
        · by_cases same : first = name
          · subst same
            have inside : Beside path rest :=
              ⟨fun on => beside.1 (List.cons_prefix_cons.2 ⟨rfl, on⟩),
                fun on => beside.2 (List.cons_prefix_cons.2 ⟨rfl, on⟩)⟩
            have below : rest ≠ [] := fun none => inside.2 (none ▸ List.nil_prefix)
            cases stands : Entries.get? first entries with
            | none => simp [find?, Entries.get?_insert, stands, ih inside, find?_empty below]
            | some child => simp [find?, Entries.get?_insert, stands, ih inside]
          · simp [find?, Entries.get?_insert, same]

/-- Nothing new stands below a path at which directories are made. -/
theorem find?_of_makeDirectories (succeeded : makeDirectories path tree = .ok made)
    {further : FilePath} (below : further ≠ []) :
    find? (path ++ further) made = find? (path ++ further) tree := by
  -- The node at the path is the old one or an empty directory.
  rw [find?_append, find?_append, (changed_of_makeDirectories succeeded).node]
  cases find? path tree with
  | none => exact find?_empty below
  | some => rfl

/-- A path at which directories are made leads to a directory. -/
theorem directory_of_makeDirectories (succeeded : makeDirectories path tree = .ok made) :
    ∃ entries, find? path made = some (.directory entries) := by
  -- The last directory on the path is made or stands there.
  induction path generalizing tree made with
  | nil =>
    obtain ⟨⟨entries, rfl⟩, rfl⟩ := makeDirectories_nil_eq_ok.1 succeeded
    exact ⟨entries, rfl⟩
  | cons name path ih =>
    obtain ⟨-, entries, child, rfl, inside, rfl⟩ := makeDirectories_cons_eq_ok.1 succeeded
    simpa [find?, Entries.get?_insert] using ih inside

/-- The names of a path at which directories are made are accepted. -/
theorem accepted_of_makeDirectories (succeeded : makeDirectories path tree = .ok made) :
    ∀ name ∈ path, acceptsName name = true := by
  -- Each name is looked at on the way.
  induction path generalizing tree made with
  | nil => simp
  | cons name path ih =>
    obtain ⟨accepted, entries, child, rfl, inside, rfl⟩ := makeDirectories_cons_eq_ok.1 succeeded
    exact List.forall_mem_cons.2 ⟨accepted, ih inside⟩

/-- Directories are made on a path of accepted names that leads to a directory already. -/
theorem makeDirectories_of_directory {entries : List (String × FileTree)}
    (accepted : ∀ name ∈ path, acceptsName name = true)
    (found : find? path tree = some (.directory entries)) :
    ∃ made, makeDirectories path tree = .ok made := by
  -- Nothing but directories is met on the way.
  induction path generalizing tree with
  | nil =>
    obtain rfl : tree = .directory entries := by simpa [find?] using found
    exact ⟨_, makeDirectories_nil_eq_ok.2 ⟨⟨entries, rfl⟩, rfl⟩⟩
  | cons name path ih =>
    obtain ⟨allowed, others⟩ := List.forall_mem_cons.1 accepted
    cases tree with
    | file | unreadable => cases found
    | directory entries =>
      simp only [find?] at found
      split at found
      · cases found
      · next child stands =>
        obtain ⟨made, inside⟩ := ih others found
        exact ⟨_, makeDirectories_cons_eq_ok.2
          ⟨allowed, entries, made, rfl, by simpa [stands] using inside, rfl⟩⟩

/-- One more directory is made where no file stands in its place. -/
theorem makeDirectories_concat (succeeded : makeDirectories path tree = .ok made)
    (accepted : acceptsName name = true) (free : isFile (path ++ [name]) tree = false) :
    ∃ made, makeDirectories (path ++ [name]) tree = .ok made := by
  -- The way down to the last name is the same, and behind it stands a directory or nothing.
  induction path generalizing tree made with
  | nil =>
    obtain ⟨⟨entries, rfl⟩, rfl⟩ := makeDirectories_nil_eq_ok.1 succeeded
    obtain ⟨inner, stands⟩ : ∃ inner, (Entries.get? name entries).getD empty = .directory inner := by
      cases stands : Entries.get? name entries with
      | none => exact ⟨[], rfl⟩
      | some old => exact @directory_of_not_isFile [name] _ _ (by simp [find?, stands]) free
    exact ⟨_, makeDirectories_cons_eq_ok.2 ⟨accepted, entries, .directory inner, rfl,
      makeDirectories_nil_eq_ok.2 ⟨⟨inner, stands⟩, stands.symm⟩, rfl⟩⟩
  | cons first path ih =>
    obtain ⟨allowed, entries, child, rfl, inside, rfl⟩ := makeDirectories_cons_eq_ok.1 succeeded
    have freeInside : isFile (path ++ [name]) ((Entries.get? first entries).getD empty) = false := by
      cases stands : Entries.get? first entries with
      | none => simp [isFile, find?_empty]
      | some old => simpa [isFile, find?, stands] using free
    obtain ⟨deeper, further⟩ := ih inside freeInside
    exact ⟨_, makeDirectories_cons_eq_ok.2 ⟨allowed, entries, deeper, rfl, further, rfl⟩⟩

end Directories

section Files

variable {name : String} {path : FilePath} {content : ByteArray} {tree written : FileTree}

/-- A file is written below an accepted name, in what stands under it or as a new entry. -/
theorem write_cons_eq_ok : write content (name :: path) tree = .ok written ↔
    acceptsName name = true ∧ ∃ entries child changed, tree = .directory entries ∧
      (Entries.get? name entries = some child ∨
        Entries.get? name entries = none ∧ path = [] ∧ child = .file content) ∧
      write content path child = .ok changed ∧
      written = .directory (Entries.insert name changed entries) := by
  -- Writing fails in a file, at a name that is not accepted, where nothing stands on the way, and when it fails below.
  cases tree with
  | file | unreadable => simp [write]
  | directory entries =>
    simp only [write, FileTree.directory.injEq, exists_and_left, exists_eq_left']
    cases acceptsName name with
    | false => simp
    | true =>
      cases Entries.get? name entries with
      | some child =>
        cases result : write content path child with
        | error => simp [result]
        | ok changed => simp [result, eq_comm]
      | none =>
        by_cases last : path = []
        · simp [last, write, eq_comm]
        · simp [last]

/-- Writing leaves the file at the path. -/
theorem changed_of_write (succeeded : write content path tree = .ok written) :
    Changed path (some (.file content)) (some tree) written := by
  -- Each name leads into what stands there, and only the last one may be new.
  induction path generalizing tree written with
  | nil =>
    cases tree with
    | file | unreadable =>
      cases succeeded
      exact .whole _ _
    | directory => cases succeeded
  | cons name path ih =>
    obtain ⟨-, entries, child, changed, rfl, start, inside, rfl⟩ := write_cons_eq_ok.1 succeeded
    refine Changed.under ?_
    rcases start with stands | ⟨none, rfl, rfl⟩
    · rw [stands]
      exact ih inside
    · cases inside
      exact .whole _ _

/-- A file is written in a directory where no directory stands in its place. -/
theorem write_concat {entries : List (String × FileTree)}
    (accepted : ∀ name ∈ path, acceptsName name = true) (allowed : acceptsName name = true)
    (found : find? path tree = some (.directory entries))
    (free : ∀ entries, find? (path ++ [name]) tree ≠ some (.directory entries)) :
    ∃ written, write content (path ++ [name]) tree = .ok written := by
  -- In the directory the file replaces another one or is new.
  induction path generalizing tree with
  | nil =>
    obtain rfl : tree = .directory entries := by simpa [find?] using found
    cases stands : Entries.get? name entries with
    | none =>
      exact ⟨_, write_cons_eq_ok.2 ⟨allowed, entries, .file content, .file content, rfl,
        .inr ⟨stands, rfl, rfl⟩, rfl, rfl⟩⟩
    | some old =>
      cases old with
      | file | unreadable =>
        exact ⟨_, write_cons_eq_ok.2 ⟨allowed, entries, _, .file content, rfl, .inl stands, rfl, rfl⟩⟩
      | directory inner => exact absurd (by simp [find?, stands]) (free inner)
  | cons first path ih =>
    obtain ⟨first, others⟩ := List.forall_mem_cons.1 accepted
    cases tree with
    | file | unreadable => cases found
    | directory entries =>
      simp only [find?] at found
      split at found
      · cases found
      · next child stands =>
        obtain ⟨changed, inside⟩ := ih others found fun entries => by
          simpa [find?, stands] using free entries
        exact ⟨_, write_cons_eq_ok.2
          ⟨first, entries, child, changed, rfl, .inl stands, inside, rfl⟩⟩

/-- Writing with directories on the way means making these and then writing. -/
private theorem writeThrough_concat_eq_ok :
    writeThrough content (path ++ [name]) tree = .ok written ↔
      ∃ made, makeDirectories path tree = .ok made ∧
        write content (path ++ [name]) made = .ok written := by
  rw [writeThrough, List.dropLast_concat]
  cases makeDirectories path tree with
  | error => simp
  | ok made => simp

/-- Writing with directories on the way leaves the file at the path and changes nothing else. -/
theorem changed_of_writeThrough (succeeded : writeThrough content (path ++ [name]) tree = .ok written) :
    Changed (path ++ [name]) (some (.file content)) (some tree) written := by
  -- What lies beside the file is beside its directory or below it.
  obtain ⟨made, making, writing⟩ := writeThrough_concat_eq_ok.1 succeeded
  have last := changed_of_write writing
  refine ⟨last.node, last.above, fun {other} beside => ?_⟩
  rw [last.beside beside, Option.bind_some, Option.bind_some]
  by_cases below : path <+: other
  · obtain ⟨further, rfl⟩ := below
    refine find?_of_makeDirectories making ?_
    rintro rfl
    exact beside.2 (by simp)
  · have apart : Beside path other :=
      ⟨below, fun on => beside.2 (on.trans (List.prefix_append path [name]))⟩
    exact (changed_of_makeDirectories making).beside apart

/-- A file is written with its directories where these can be made and no directory stands in its place. -/
theorem writeThrough_concat (content : ByteArray) {made : FileTree}
    (making : makeDirectories path tree = .ok made) (allowed : acceptsName name = true)
    (free : ∀ entries, find? (path ++ [name]) tree ≠ some (.directory entries)) :
    ∃ written, writeThrough content (path ++ [name]) tree = .ok written := by
  -- Making the directories puts nothing in place of the file.
  obtain ⟨entries, found⟩ := directory_of_makeDirectories making
  obtain ⟨written, writing⟩ : ∃ written, write content (path ++ [name]) made = .ok written := by
    refine write_concat (accepted_of_makeDirectories making) allowed found fun entries => ?_
    rw [find?_of_makeDirectories making (List.cons_ne_nil name [])]
    exact free entries
  exact ⟨written, writeThrough_concat_eq_ok.2 ⟨made, making, writing⟩⟩

end Files

section Removal

variable {path : FilePath} {tree left : FileTree}

/-- Removing a directory leaves nothing at the path. -/
theorem changed_of_removeDirectory (below : path ≠ [])
    (succeeded : removeDirectory path tree = .ok left) : Changed path none (some tree) left := by
  -- Each name but the last leads into a directory that stands there.
  induction path generalizing tree left with
  | nil => exact absurd rfl below
  | cons name path ih =>
    cases tree with
    | file | unreadable => cases succeeded
    | directory entries =>
      simp only [removeDirectory] at succeeded
      split at succeeded
      · cases succeeded
      · next inner stands =>
        split at succeeded
        · next last =>
          cases succeeded
          subst last
          exact .erased name entries
        · next more =>
          split at succeeded
          · cases succeeded
          · next child found =>
            cases succeeded
            exact Changed.under (stands ▸ ih more found)
      · cases succeeded

/-- A directory that stands in the tree can be removed. -/
theorem removeDirectory_of_directory {entries : List (String × FileTree)}
    (found : find? path tree = some (.directory entries)) :
    ∃ left, removeDirectory path tree = .ok left := by
  -- Nothing but directories is met on the way.
  induction path generalizing tree with
  | nil =>
    obtain rfl : tree = .directory entries := by simpa [find?] using found
    exact ⟨_, rfl⟩
  | cons name path ih =>
    cases tree with
    | file | unreadable => cases found
    | directory others =>
      simp only [find?] at found
      split at found
      · cases found
      · next child stands =>
        cases child with
        | file | unreadable => cases path <;> cases found
        | directory inner =>
          by_cases last : path = []
          · simp [removeDirectory, stands, last]
          · obtain ⟨left, inside⟩ := ih found
            simp [removeDirectory, stands, last, inside]

end Removal

end FileTree

end PipelineTrial
