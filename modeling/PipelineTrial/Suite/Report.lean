import PipelineTrial.Files.Tree
import PipelineTrial.Json.Printer
import PipelineTrial.Json.Reader
import PipelineTrial.Run.Result
import PipelineTrial.Suite.Error

/-! What a suite reports: results with their counts, and the results document that is written to a file. -/

namespace PipelineTrial

/-- The results of a suite, in case order. -/
structure SuiteResult where
  session : String
  results : List PipelineResult
  duration : Duration
  deriving DecidableEq

/-- The report of a case in a results document. -/
structure CaseReport where
  name : String
  passed : Bool
  seconds : Float
  error : Option String
  errorKind : Option String
  failingNode : Option String
  output : Option (Dictionary Json)
  deriving DecidableEq

/-- A results document. -/
structure ResultsDocument where
  total : Nat
  passed : Nat
  failed : Nat
  errors : Nat
  skipped : Nat
  results : List CaseReport
  deriving DecidableEq

namespace CaseReport

/-- The report of a result; an empty state is left out. -/
def ofResult (result : PipelineResult) : CaseReport :=
  -- The error is told by its text and kind.
  ⟨result.name, result.passed, result.duration.toSeconds, result.error.map (·.message),
    result.error.map (·.kind), result.failingNode,
    if result.state.isEmpty then none else some result.state.values⟩

/-- The fields that are there, in written order. -/
def fields (report : CaseReport) : List (String × Json) :=
  -- Absent parts have no field.
  let present (name : String) (value : Option Json) : List (String × Json) :=
    value.toList.map fun value => (name, value)
  [("name", .text report.name), ("test_passed", .boolean report.passed),
    ("duration", .float report.seconds)]
    ++ present "error" (report.error.map .text)
    ++ present "error_kind" (report.errorKind.map .text)
    ++ present "failing_node" (report.failingNode.map .text)
    ++ present "output" (report.output.map .ofDictionary)

/-- The report as a JSON object with its fields in written order. -/
def toJson (report : CaseReport) : Json := .object report.fields

/-- A text that may be missing or null. -/
def readText? (json : Json) (name : String) : Option (Option String) :=
  -- Any other value is wrong.
  match json.field? name with
  | none => some none
  | some .null => some none
  | some (.text value) => some (some value)
  | some _ => none

/-- The report that a JSON object holds. -/
def ofJson? (json : Json) : Option CaseReport := do
  -- The first three fields are required.
  let name ← (json.field? "name").bind Json.text?
  let passed ← match json.field? "test_passed" with
    | some (.boolean passed) => some passed
    | _ => none
  let seconds ← match json.field? "duration" with
    | some (.float seconds) => some seconds
    | some (.integer seconds) => some (Float.ofInt seconds)
    | _ => none
  let error ← readText? json "error"
  let errorKind ← readText? json "error_kind"
  let failingNode ← readText? json "failing_node"
  let output ← match json.field? "output" with
    | none => some none
    | some .null => some none
    | some (.object fields) => some (some (Dictionary.ofList fields))
    | some _ => none
  some ⟨name, passed, seconds, error, errorKind, failingNode, output⟩

end CaseReport

namespace ResultsDocument

/-- The document as a JSON object with its fields in written order. -/
def toJson (document : ResultsDocument) : Json :=
  -- Counts come before the reports.
  .object [("total", .integer document.total), ("passed", .integer document.passed),
    ("failed", .integer document.failed), ("errors", .integer document.errors),
    ("skipped", .integer document.skipped), ("results", .list (document.results.map (·.toJson)))]

/-- The text of the document, with one entry to a line. -/
def text (document : ResultsDocument) : String := document.toJson.pretty

/-- A count in a field. -/
def readCount? (json : Json) (name : String) : Option Nat :=
  -- Counts are whole and not negative.
  match json.field? name with
  | some (.integer value) => if 0 ≤ value then some value.toNat else none
  | _ => none

/-- The document that a text holds. -/
def parse? (text : String) : Option ResultsDocument := do
  -- All fields are required.
  let json ← Json.parse? text
  let reports ← match json.field? "results" with
    | some (.list items) => items.mapM CaseReport.ofJson?
    | _ => none
  some ⟨← readCount? json "total", ← readCount? json "passed", ← readCount? json "failed",
    ← readCount? json "errors", ← readCount? json "skipped", reports⟩

end ResultsDocument

namespace SuiteResult

/-- The number of results. -/
def total (suite : SuiteResult) : Nat := suite.results.length

/-- The number of results with an outcome. -/
def count (suite : SuiteResult) (outcome : Outcome) : Nat :=
  -- Each result has exactly one.
  suite.results.countP (·.outcome == outcome)

/-- Whether every result passed. -/
def allPassed (suite : SuiteResult) : Bool := suite.count .passed == suite.total

/-- The exit code of a program that runs the suite. -/
def exitCode (suite : SuiteResult) : Nat := if suite.allPassed then 0 else 1

/-- The first result with a name. -/
def result? (suite : SuiteResult) (name : String) : Option PipelineResult :=
  -- Names can repeat.
  suite.results.find? (·.name == name)

/-- The results document of a suite. -/
def document (suite : SuiteResult) : ResultsDocument :=
  -- Reports keep the order of the results.
  ⟨suite.total, suite.count .passed, suite.count .failed, suite.count .errored,
    suite.count .skipped, suite.results.map .ofResult⟩

/-- The files after the results document has been written to a path. -/
def write (suite : SuiteResult) (path : FilePath) (files : FileTree) :
    Except SuiteError FileTree :=
  -- Missing directories are made.
  match files.writeThrough suite.document.text.toUTF8 path with
  | .ok files => .ok files
  | .error error => .error (.file error.message)

end SuiteResult

end PipelineTrial
