import Mathlib.Data.List.Forall2
import PipelineTrial.Suite.Case

/-! The cases loaded from a directory do not depend on the order in which it lists its entries. -/

namespace PipelineTrial

namespace TestCase

/-- A name of a stem, a point and an extension is split there, as the extension has no point of its own. -/
theorem splitName_append {stem extension : String} (visible : stem ≠ "")
    (whole : '.' ∉ extension.toList) : splitName (stem ++ "." ++ extension) = (stem, some extension) := by
  -- Read backwards, the name begins with the extension up to the first point.
  have reversed : (stem ++ "." ++ extension).toList.reverse =
      extension.toList.reverse ++ '.' :: stem.toList.reverse := by
    simp
  have upTo : ∀ char ∈ extension.toList.reverse, (char != '.') = true := by
    intro char member
    have inside := List.mem_reverse.1 member
    exact bne_iff_ne.2 fun point => whole (point ▸ inside)
  have before : (extension.toList.reverse ++ '.' :: stem.toList.reverse).takeWhile (· != '.') =
      extension.toList.reverse := by
    simp [List.takeWhile_append_of_pos upTo]
  have behind : (extension.toList.reverse ++ '.' :: stem.toList.reverse).dropWhile (· != '.') =
      '.' :: stem.toList.reverse := by
    simp [List.dropWhile_append_of_pos upTo]
  cases chars : stem.toList.reverse with
  | nil => exact absurd (by simpa using chars) visible
  | cons char rest =>
    have turned : (char :: rest).reverse = stem.toList := by rw [← chars, List.reverse_reverse]
    rw [splitName, reversed, behind, before, chars]
    simp only [turned, List.reverse_reverse, String.ofList_toList]

/-- A name with an extension is its stem, a point and the extension, and its stem is not empty. -/
theorem eq_append_of_splitName {name stem extension : String}
    (split : splitName name = (stem, some extension)) :
    name = stem ++ "." ++ extension ∧ stem ≠ "" := by
  -- The characters up to the last point and those behind it make up the name.
  have parts := List.takeWhile_append_dropWhile (p := (· != '.')) (l := name.toList.reverse)
  unfold splitName at split
  simp only at split
  split at split
  · next char rest behind =>
    rw [behind] at parts
    cases split
    refine ⟨String.toList_injective ?_, by simp⟩
    have turned := congrArg List.reverse parts
    simpa using turned.symm
  · cases split

/-- What there is to read in a file: its text, or why it has none. -/
inductive Contents : FileTree → Except FileError String → Prop where
  | text {content : ByteArray} {text : String} (decoded : String.fromUTF8? content = some text) :
    Contents (.file content) (.ok text)
  | notText {content : ByteArray} (decoded : String.fromUTF8? content = none) :
    Contents (.file content) (.error .notText)
  /-- A file that cannot be read fails in a way of its own. -/
  | unreadable (error : FileError) : Contents (.unreadable error) (.error error)

/-- An entry of a directory is a regular file whose name is a stem with an extension of test cases. -/
structure HoldsCase (stem : String) (entry : String × FileTree) : Prop where
  named : entry.1 = stem ++ ".yaml" ∨ entry.1 = stem ++ ".yml"
  /-- A name that begins with its only point has no extension. -/
  visible : stem ≠ ""
  /-- A directory is no file, while one that cannot be read is. -/
  regular : ∀ entries, entry.2 ≠ .directory entries

variable {entry : String × FileTree} {stem : String}

/-- A file that holds a test case has its stem as its name up to the last point. -/
theorem HoldsCase.splitName_eq (holds : HoldsCase stem entry) :
    ∃ extension, splitName entry.1 = (stem, some extension) ∧ (extension = "yaml" ∨ extension = "yml") := by
  -- Neither extension has a point.
  obtain named | named := holds.named
  · refine ⟨"yaml", ?_, .inl rfl⟩
    rw [named, show stem ++ ".yaml" = stem ++ "." ++ "yaml" by rw [String.append_assoc]; rfl]
    exact splitName_append holds.visible (by decide)
  · refine ⟨"yml", ?_, .inr rfl⟩
    rw [named, show stem ++ ".yml" = stem ++ "." ++ "yml" by rw [String.append_assoc]; rfl]
    exact splitName_append holds.visible (by decide)

/-- What stands in a directory is a file when it is no directory itself. -/
private theorem isFile_nil_iff {tree : FileTree} :
    tree.isFile [] = true ↔ ∀ entries, tree ≠ .directory entries := by
  cases tree <;> simp [FileTree.isFile, FileTree.find?]

/-- Exactly the regular files named by a stem and one of the extensions are chosen. -/
theorem isCaseFile_iff : isCaseFile entry = true ↔ ∃ stem, HoldsCase stem entry := by
  -- The extension is compared as it is written.
  obtain ⟨name, tree⟩ := entry
  obtain ⟨⟨stem, extension⟩, parts⟩ : ∃ split, splitName name = split := ⟨_, rfl⟩
  simp only [isCaseFile, parts, Bool.and_eq_true, isFile_nil_iff, Bool.or_eq_true, beq_iff_eq]
  constructor
  · rintro ⟨regular, rfl | rfl⟩
    · obtain ⟨named, visible⟩ := eq_append_of_splitName parts
      exact ⟨stem, .inl (by rw [named, String.append_assoc]; rfl), visible, regular⟩
    · obtain ⟨named, visible⟩ := eq_append_of_splitName parts
      exact ⟨stem, .inr (by rw [named, String.append_assoc]; rfl), visible, regular⟩
  · rintro ⟨other, holds⟩
    obtain ⟨chosen, split, either⟩ := holds.splitName_eq
    obtain ⟨-, rfl⟩ := Prod.mk.inj (parts.symm.trans split)
    exact ⟨holds.regular, by simpa using either⟩

/-- A file is read as the test case with its stem as name and its text as document. -/
def Reads (entry : String × FileTree) (case : TestCase) : Prop :=
  -- Nothing else of the file goes into the case.
  ∃ stem text, HoldsCase stem entry ∧ Contents entry.2 (.ok text) ∧ case = ofDocument stem text

/-- What files are read as, one after the other: their cases, or the failure of the first that cannot be read. -/
inductive ReadAs : List (String × FileTree) → Except SuiteError (List TestCase) → Prop where
  | all {files : List (String × FileTree)} {cases : List TestCase} (read : List.Forall₂ Reads files cases) :
    ReadAs files (.ok cases)
  /-- The failure is that of the file itself, and no other file is asked for it. -/
  | stopped {before after : List (String × FileTree)} {bad : String × FileTree} {error : FileError}
    (read : ∀ entry ∈ before, ∃ case, Reads entry case) (fails : Contents bad.2 (.error error)) :
    ReadAs (before ++ bad :: after) (.error (.file error.message))

/-- A file that holds a test case is read, or fails as its contents do. -/
theorem HoldsCase.ofEntry_cases (holds : HoldsCase stem entry) :
    (∃ case, Reads entry case ∧ ofEntry entry = .ok case) ∨
      ∃ error, Contents entry.2 (.error error) ∧ ofEntry entry = .error (.file error.message) := by
  -- What stands there decides, and behind that its bytes.
  obtain ⟨extension, parts, _⟩ := holds.splitName_eq
  obtain ⟨name, tree⟩ := entry
  cases tree with
  | directory entries => exact absurd rfl (holds.regular entries)
  | unreadable error => exact .inr ⟨error, .unreadable error, rfl⟩
  | file content =>
    cases decoded : String.fromUTF8? content with
    | none =>
      refine .inr ⟨_, .notText decoded, ?_⟩
      simp [ofEntry, FileTree.readText, FileTree.readBytes, FileTree.find?, decoded]
    | some text =>
      refine .inl ⟨_, ⟨stem, text, holds, .text decoded, rfl⟩, ?_⟩
      simp [ofEntry, FileTree.readText, FileTree.readBytes, FileTree.find?, decoded, parts]

/-- Files that hold test cases are read one after the other. -/
theorem readAs_ofEntries {files : List (String × FileTree)}
    (chosen : ∀ entry ∈ files, ∃ stem, HoldsCase stem entry) : ReadAs files (ofEntries files) := by
  -- The first file is read or stops the reading; behind it the same holds of the rest.
  induction files with
  | nil => exact .all .nil
  | cons entry rest ih =>
    obtain ⟨stem, holds⟩ := chosen entry List.mem_cons_self
    have later := ih fun other member => chosen other (List.mem_cons_of_mem _ member)
    obtain ⟨case, reads, told⟩ | ⟨error, fails, told⟩ := holds.ofEntry_cases
    · simp only [ofEntries, told]
      generalize ofEntries rest = outcome at later
      cases later with
      | all read => exact .all (.cons reads read)
      | @stopped before after bad error read fails =>
        refine @ReadAs.stopped (entry :: before) after bad error (fun other member => ?_) fails
        obtain rfl | inside := List.mem_cons.1 member
        · exact ⟨case, reads⟩
        · exact read other inside
    · simp only [ofEntries, told]
      exact @ReadAs.stopped [] rest entry error (fun _ member => nomatch member) fails

/-- The entries of a directory that hold test cases, each once, in ascending order of file name. -/
structure Chosen (entries chosen : List (String × FileTree)) : Prop where
  ascending : chosen.Pairwise fun left right => left.1 < right.1
  mem_iff : ∀ entry, entry ∈ chosen ↔ entry ∈ entries ∧ ∃ stem, HoldsCase stem entry

variable {entries others : List (String × FileTree)}

/-- There is only one way to choose files in order from the same entries. -/
theorem Chosen.unique {chosen other : List (String × FileTree)} (left : Chosen entries chosen)
    (right : Chosen others other) (same : entries.Perm others) : chosen = other := by
  -- Ascending lists with the same members are equal.
  have distinct {files : List (String × FileTree)}
      (ascending : files.Pairwise fun left right => left.1 < right.1) : files.Nodup := by
    refine List.Pairwise.imp ?_ ascending
    rintro first _ below rfl
    exact String.lt_irrefl _ below
  refine List.Perm.eq_of_pairwise ?_ left.ascending right.ascending
    ((List.perm_ext_iff_of_nodup (distinct left.ascending) (distinct right.ascending)).2 fun entry => ?_)
  · exact fun first second _ _ below above => absurd (String.lt_trans below above) (String.lt_irrefl _)
  · rw [left.mem_iff, right.mem_iff, same.mem_iff]

/-- Sorting the files of a directory by name chooses them in order. -/
theorem chosen_caseFiles (distinct : (entries.map (·.1)).Nodup) : Chosen entries (caseFiles entries) := by
  -- No two entries have one name, so what is sorted ascends strictly.
  have rearranged := List.mergeSort_perm (entries.filter isCaseFile) fun left right => decide (left.1 ≤ right.1)
  have apart : ((caseFiles entries).map (·.1)).Nodup :=
    ((rearranged.map _).nodup_iff).2 ((List.filter_sublist.map _).nodup distinct)
  have sorted : (caseFiles entries).Pairwise fun left right => left.1 ≤ right.1 := by
    have ordered := @List.pairwise_mergeSort _ (fun left right : String × FileTree => decide (left.1 ≤ right.1))
      (fun _ _ _ below above => decide_eq_true (String.le_trans (of_decide_eq_true below) (of_decide_eq_true above)))
      (fun left right => by simpa using String.le_total left.1 right.1) (entries.filter isCaseFile)
    exact ordered.imp fun below => of_decide_eq_true below
  refine ⟨?_, fun entry => ?_⟩
  · refine (sorted.and (List.pairwise_map.1 apart)).imp fun {left right} ⟨below, different⟩ => ?_
    exact Std.lt_of_le_of_ne below different
  · rw [caseFiles, rearranged.mem_iff, List.mem_filter, isCaseFile_iff]

/--
However a directory lists its entries, the same is loaded from it.

That is its files with an extension of test cases, each once and in ascending order of name. Each case is named by the
stem of its file and has its text. Of the files that cannot be read as text, each with a failure of its own, the first
in that order gives the failure.
-/
theorem load_relisted {path : FilePath} {files relisted : FileTree}
    (listed : files.find? path = some (.directory entries))
    (again : relisted.find? path = some (.directory others)) (same : entries.Perm others)
    (distinct : (entries.map (·.1)).Nodup) :
    load path relisted = load path files ∧
      ∃ chosen, Chosen entries chosen ∧ ReadAs chosen (load path files) := by
  -- Both listings are sorted into one list, whose files are then read in order.
  have chosen := chosen_caseFiles distinct
  have relisting := chosen_caseFiles (((same.map _).nodup_iff).1 distinct)
  have sorted := chosen.unique relisting same
  refine ⟨?_, caseFiles entries, chosen, ?_⟩
  · simp only [load, listed, again, sorted]
  · simp only [load, listed]
    exact readAs_ofEntries fun entry member => ((chosen.mem_iff entry).1 member).2

/-- A directory with two files of one stem, a hidden file, a directory with an extension, and other extensions. -/
def caseEntries : List (String × FileTree) :=
  -- Three of the files cannot be read as text, each for a reason of its own.
  [("upper.YAML", .file "name: upper\n".toUTF8), ("notes.txt", .file ⟨#[255]⟩), ("nested.yaml", .directory []),
    ("d.yaml", .unreadable .deviceFailed), ("c.yml", .file ⟨#[255]⟩), ("b.yaml", .unreadable .permissionDenied),
    ("a.yml", .file "name: a\n".toUTF8), ("a.yaml", .file "name: first\n".toUTF8),
    (".yaml", .file "name: hidden\n".toUTF8)]

/-- The files of the directory that hold test cases, in ascending order of name. -/
private theorem chosen_caseEntries : Chosen caseEntries
    [("a.yaml", .file "name: first\n".toUTF8), ("a.yml", .file "name: a\n".toUTF8),
      ("b.yaml", .unreadable .permissionDenied), ("c.yml", .file ⟨#[255]⟩),
      ("d.yaml", .unreadable .deviceFailed)] := by
  -- The directory lists them in descending order.
  refine ⟨by decide, fun entry => ?_⟩
  rw [← isCaseFile_iff, ← List.mem_filter, ← List.mem_reverse]
  rfl

/-- The directory fails as its first bad file by name does, also when it lists its entries backwards. -/
theorem load_relisted_backwards :
    (load ["cases"] (.directory [("cases", .directory caseEntries.reverse)]) =
        load ["cases"] (.directory [("cases", .directory caseEntries)]) ∧
      ∃ chosen, Chosen caseEntries chosen ∧
        ReadAs chosen (load ["cases"] (.directory [("cases", .directory caseEntries)]))) ∧
    load ["cases"] (.directory [("cases", .directory caseEntries)]) =
      .error (.file FileError.permissionDenied.message) := by
  -- No two of its entries have one name, so there is one way to put the files in order.
  have distinct : (caseEntries.map (·.1)).Nodup := by decide
  refine ⟨load_relisted rfl rfl (List.reverse_perm caseEntries).symm distinct, ?_⟩
  change ofEntries (caseFiles caseEntries) = _
  rw [(chosen_caseFiles distinct).unique chosen_caseEntries (.refl _)]
  rfl

end TestCase

end PipelineTrial
