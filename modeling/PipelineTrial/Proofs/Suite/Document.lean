import Mathlib.Data.List.Forall2
import PipelineTrial.Proofs.Suite.Reports

/-!
The reports of a results document tell the outcome of each case, although no report holds it, so its counts can be
taken again.
-/

namespace PipelineTrial

namespace PipelineResult

/-- A result that one of the ways to end a run has built. -/
inductive Built : PipelineResult → Prop where
  | completed (name : String) (state : State) (trace : List TraceEntry) (duration : Duration)
    (verdictKey : String) : Built (.completed name state trace duration verdictKey)
  | errored (name : String) (error : PipelineError) (state : State) (trace : List TraceEntry)
    (duration : Duration) : Built (.errored name error state trace duration)
  | aborted (name : String) (error : PipelineError) (duration : Duration) :
    Built (.aborted name error duration)
  | skipped (name : String) : Built (.skipped name)

end PipelineResult

/-- The kinds of the errors that count as failures. -/
def inputKinds : List String := ["UnknownStateVariable", "UnresolvedTemplateVariable"]

/-- An error counts as a failure exactly when its kind is one of those. -/
theorem PipelineError.outcome_eq_of_kind (error : PipelineError) :
    error.outcome = if error.kind ∈ inputKinds then .failed else .errored := by
  -- The kinds of inputs are those of no other error, and the error of a node has a kind of its own.
  cases error with
  | input error => cases error <;> rfl
  | node id error => cases error <;> rfl
  | _ => rfl

/-- A run that reached its end counts as failed only when it left a value behind. -/
theorem verdict_eq_passed_of_isEmpty {state : State} (empty : state.isEmpty = true) (verdictKey : String) :
    verdict verdictKey state = .passed := by
  -- Nothing is stored under the verdict key.
  obtain ⟨⟨entries, ascending⟩⟩ := state
  obtain rfl : entries = [] := by simpa [State.isEmpty, Dictionary.isEmpty] using empty
  rfl

/-- A run that reached its end passed or failed. -/
theorem verdict_eq_passed_or_failed (state : State) (verdictKey : String) :
    verdict verdictKey state = .passed ∨ verdict verdictKey state = .failed := by
  -- The value under the key decides.
  unfold verdict
  split
  · exact .inl rfl
  · exact .inl rfl
  · exact .inr rfl

namespace CaseReport

/-- Whether a report falls into the class of an outcome by what it tells. -/
def fallsInto (report : CaseReport) : Outcome → Bool
  -- Without an error, an output tells a run that failed from a case that was skipped.
  | .passed => report.passed
  | .failed => report.errorKind.any (· ∈ inputKinds) ||
    !report.passed && report.error.isNone && report.output.isSome
  | .errored => report.errorKind.any (· ∉ inputKinds)
  | .skipped => !report.passed && report.error.isNone && report.output.isNone

/-- The report of a run that an error stopped falls into the class of its outcome only. -/
private theorem fallsInto_errored (name : String) (error : PipelineError) (state : State)
    (trace : List TraceEntry) (duration : Duration) (outcome : Outcome) :
    (ofResult (.errored name error state trace duration)).fallsInto outcome =
      (error.outcome == outcome) := by
  -- The kind of the error decides.
  have decided := error.outcome_eq_of_kind
  by_cases input : error.kind ∈ inputKinds <;> rw [decided] <;> cases outcome <;>
    simp [fallsInto, ofResult, PipelineResult.errored, PipelineResult.passed, decided, input]

/-- The report of a built result falls into the class of its outcome only. -/
theorem fallsInto_ofResult {result : PipelineResult} (built : result.Built) (outcome : Outcome) :
    (ofResult result).fallsInto outcome = (result.outcome == outcome) := by
  -- An error is told by its kind; without one, only a run that failed left a value behind.
  cases built with
  | completed name state trace duration verdictKey =>
    by_cases empty : state.isEmpty = true
    · have passed := verdict_eq_passed_of_isEmpty empty verdictKey
      cases outcome <;>
        simp [fallsInto, ofResult, PipelineResult.completed, PipelineResult.passed, passed]
    · obtain passed | failed := verdict_eq_passed_or_failed state verdictKey
      · cases outcome <;>
          simp [fallsInto, ofResult, PipelineResult.completed, PipelineResult.passed, passed]
      · cases outcome <;>
          simp [fallsInto, ofResult, PipelineResult.completed, PipelineResult.passed, failed, empty]
  | errored name error state trace duration => exact fallsInto_errored name error state trace duration outcome
  | aborted name error duration => exact fallsInto_errored name error State.empty [] duration outcome
  | skipped name =>
    cases outcome <;> rfl

/-- A JSON object tells the parts of a report by which it falls into a class. -/
structure ToldBy (report : CaseReport) (json : Json) : Prop where
  passed : json.field? "test_passed" = some (.boolean report.passed)
  error : json.field? "error" = report.error.map .text
  errorKind : json.field? "error_kind" = report.errorKind.map .text
  output : json.field? "output" = report.output.map .ofDictionary

/-- A report as it is written tells the parts by which it falls into a class. -/
theorem toldBy_toJson (report : CaseReport) : report.ToldBy report.toJson := by
  -- Parts that are missing have no field.
  obtain ⟨name, passed, seconds, error, errorKind, failingNode, output⟩ := report
  constructor <;> cases error <;> cases errorKind <;> cases failingNode <;> cases output <;> rfl

end CaseReport

namespace SuiteResult

/-- The reports of a suite's document that fall into the class of an outcome, in the order of the document. -/
def reportsOf (suite : SuiteResult) (outcome : Outcome) : List CaseReport :=
  -- Nothing but the reports is read.
  suite.document.results.filter (·.fallsInto outcome)

/-- What the reports of a suite's document tell of its counts. -/
structure Recounted (suite : SuiteResult) : Prop where
  /-- Each report falls into one class and into no other. -/
  exclusive : ∀ report ∈ suite.document.results, ∃! outcome, report.fallsInto outcome = true
  /-- Each class has the reports of the cases with its outcome, in case order. -/
  inOrder : ∀ outcome, suite.reportsOf outcome =
    (suite.results.filter (·.outcome == outcome)).map .ofResult
  passed : suite.document.passed = (suite.reportsOf .passed).length
  failed : suite.document.failed = (suite.reportsOf .failed).length
  errors : suite.document.errors = (suite.reportsOf .errored).length
  skipped : suite.document.skipped = (suite.reportsOf .skipped).length
  total : suite.document.total = suite.document.results.length ∧ suite.document.total =
    suite.document.passed + suite.document.failed + suite.document.errors + suite.document.skipped
  /-- The document as it is written tells the same of each report. -/
  written : ∃ items, suite.document.toJson.field? "results" = some (.list items) ∧
    List.Forall₂ CaseReport.ToldBy suite.document.results items

/-- The class of an outcome has the reports of the results with that outcome. -/
theorem reportsOf_eq (suite : SuiteResult) (built : ∀ result ∈ suite.results, result.Built)
    (outcome : Outcome) : suite.reportsOf outcome =
      (suite.results.filter (·.outcome == outcome)).map .ofResult := by
  -- Both keep the results of the outcome.
  rw [reportsOf, document, List.filter_map]
  congr 1
  exact List.filter_congr fun result member =>
    CaseReport.fallsInto_ofResult (built result member) outcome

/-- The outcomes of built results, and so all counts of a suite, can be told from the reports of its document alone. -/
theorem document_recounted (suite : SuiteResult) (built : ∀ result ∈ suite.results, result.Built) :
    suite.Recounted := by
  -- The class of a report is the outcome of its result, which each count goes by.
  have counted (outcome : Outcome) : suite.count outcome = (suite.reportsOf outcome).length := by
    rw [suite.reportsOf_eq built, List.length_map, count, List.countP_eq_length_filter]
  refine ⟨?_, suite.reportsOf_eq built, counted .passed, counted .failed, counted .errored,
    counted .skipped, ⟨?_, suite.total_eq_counts⟩, _, rfl, ?_⟩
  · intro report member
    obtain ⟨result, told, rfl⟩ := List.mem_map.1 member
    have falls := CaseReport.fallsInto_ofResult (built result told)
    refine ⟨result.outcome, by simp [falls], fun other fallen => ?_⟩
    exact (eq_of_beq ((falls other).symm.trans fallen)).symm
  · exact (List.length_map _).symm
  · exact List.forall₂_map_right_iff.2 (List.forall₂_same.2 fun report _ => report.toldBy_toJson)

/-- A suite with a false verdict, an error of each class, a verdict that is absent, and a skipped case. -/
def mixedSuite : SuiteResult :=
  -- The verdict is kept under another key than usual.
  ⟨"session", [.completed "false" ⟨Dictionary.empty.insert "ok" (.boolean false)⟩ [] ⟨1⟩ "ok",
    .errored "unread" (.input (.unknownVariable "node" "x")) State.empty [] ⟨1⟩,
    .errored "stopped" (.node "node" (.toolInvocation "gone")) State.empty [] ⟨1⟩,
    .completed "open" State.empty [] ⟨1⟩ "ok", .aborted "late" (.timeout ⟨5⟩) ⟨5⟩, .skipped "left"], ⟨9⟩⟩

/-- The counts of the mixed suite can be told from the reports of its document. -/
theorem document_recounted_mixed : mixedSuite.Recounted := by
  -- Each of its results is built in one of the ways.
  refine document_recounted mixedSuite fun result member => ?_
  simp only [mixedSuite, List.mem_cons, List.not_mem_nil, or_false] at member
  obtain rfl | rfl | rfl | rfl | rfl | rfl := member
  · exact .completed _ _ _ _ _
  · exact .errored _ _ _ _ _
  · exact .errored _ _ _ _ _
  · exact .completed _ _ _ _ _
  · exact .aborted _ _ _
  · exact .skipped _

end SuiteResult

end PipelineTrial
