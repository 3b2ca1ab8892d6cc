import PipelineTrial.Files.Tree
import PipelineTrial.Pipeline.Definition
import PipelineTrial.Suite.Error

/-! Test cases, and loading them from the YAML files of a directory. -/

namespace PipelineTrial

/-- Where the pipeline of a test case comes from. -/
inductive CaseSource where
  /-- A document, which is loaded when the case starts. -/
  | document (text : String)
  | definition (definition : Definition)
  deriving DecidableEq

/-- A test case with the name under which it is reported until its pipeline is loaded. -/
structure TestCase where
  name : String
  source : CaseSource
  deriving DecidableEq

namespace TestCase

/-- The test case of a document. -/
def ofDocument (name text : String) : TestCase := ⟨name, .document text⟩

/-- The test case of a definition, which has its name. -/
def ofDefinition (definition : Definition) : TestCase := ⟨definition.name, .definition definition⟩

/-- A file name split at its last point, unless it stands first; the parts are stem and extension. -/
def splitName (name : String) : String × Option String :=
  -- A name without a point is all stem.
  let reversed := name.toList.reverse
  match reversed.dropWhile (· != '.') with
  | '.' :: char :: rest =>
    (String.ofList (char :: rest).reverse,
      some (String.ofList (reversed.takeWhile (· != '.')).reverse))
  | _ => (name, none)

/-- Whether an entry of a directory is a file that holds a test case. -/
def isCaseFile (entry : String × FileTree) : Bool :=
  -- The extension counts as it is written.
  let extension := (splitName entry.1).2
  entry.2.isFile [] && (extension == some "yaml" || extension == some "yml")

/-- The entries of a directory that hold test cases, in ascending order of file name. -/
def caseFiles (entries : List (String × FileTree)) : List (String × FileTree) :=
  -- The order of the listing does not matter.
  (entries.filter isCaseFile).mergeSort fun left right => decide (left.1 ≤ right.1)

/-- The test case of an entry, named by its stem. -/
def ofEntry (entry : String × FileTree) : Except SuiteError TestCase :=
  -- The file has to be readable and to hold text.
  match entry.2.readText [] with
  | .error error => .error (.file error.message)
  | .ok text => .ok (ofDocument (splitName entry.1).1 text)

/-- The test cases of entries in order, or the failure of the first that cannot be read. -/
def ofEntries : List (String × FileTree) → Except SuiteError (List TestCase)
  | [] => .ok []
  | entry :: rest =>
    match ofEntry entry with
    | .error error => .error error
    | .ok first =>
      match ofEntries rest with
      | .error error => .error error
      | .ok cases => .ok (first :: cases)

/-- The test cases in the directory at a path. -/
def load (path : FilePath) (files : FileTree) : Except SuiteError (List TestCase) :=
  -- A path without a directory cannot be listed.
  match files.find? path with
  | none => .error (.file FileError.notFound.message)
  | some (.directory entries) => ofEntries (caseFiles entries)
  | some _ => .error (.file FileError.notDirectory.message)

end TestCase

end PipelineTrial
