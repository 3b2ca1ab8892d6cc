import PipelineTrial.Proofs.Run.Ending

/-! Every run of the engine is a walk along the transitions, of which its report gives a full account. -/

namespace PipelineTrial

namespace Walk

/-- A step adds its entry at the end of the trace. -/
@[simp] theorem trace_advance (walk : Walk) (node : Node) (elapsed : Duration)
    (answer : Except NodeError Json) (next : String) :
    (walk.advance node elapsed answer next).trace = walk.trace ++
      [entryOf (walk.taken + 1) node (absorb node answer walk.state) elapsed answer] := by
  -- The latest entry comes first before the reversal.
  simp [advance, trace]

/-- The entry of a step is the last of the trace after it. -/
theorem getLast?_trace_advance (walk : Walk) (node : Node) (elapsed : Duration)
    (answer : Except NodeError Json) (next : String) :
    (walk.advance node elapsed answer next).trace.getLast? =
      some (entryOf (walk.taken + 1) node (absorb node answer walk.state) elapsed answer) := by
  -- It was added at the end.
  simp

/-- A failure at a node that aborts stops a walk; after any other answer the transition decides. -/
theorem receive_cases (walk : Walk) (node : Node) (elapsed : Duration)
    (answer : Except NodeError Json) :
    (∃ error, answer = .error error ∧ node.errorPolicy = .abort ∧
      walk.receive node elapsed answer =
        .stopped (walk.advance node elapsed answer walk.next) (.node node.id error)) ∨
    (statusOf node answer ≠ .failed ∧ node.transition = .finish ∧
      walk.receive node elapsed answer = .arrived (walk.advance node elapsed answer walk.next)) ∨
    ∃ next, statusOf node answer ≠ .failed ∧ node.transition = .node next ∧
      walk.receive node elapsed answer = .onward (walk.advance node elapsed answer next) := by
  -- The answer and the policy come first, the transition second.
  cases answer with
  | ok value =>
    cases transition : node.transition with
    | finish => exact .inr (.inl ⟨by simp [statusOf], rfl, by simp [receive, transition]⟩)
    | node next => exact .inr (.inr ⟨next, by simp [statusOf], rfl, by simp [receive, transition]⟩)
  | error error =>
    cases policy : node.errorPolicy with
    | abort => exact .inl ⟨error, rfl, rfl, by simp [receive, policy]⟩
    | capture =>
      cases transition : node.transition with
      | finish =>
        exact .inr (.inl ⟨by simp [statusOf, policy], rfl, by simp [receive, policy, transition]⟩)
      | node next =>
        exact .inr (.inr ⟨next, by simp [statusOf, policy], rfl, by simp [receive, policy, transition]⟩)

/-- A walk under way: its calls so far make a course, and a node comes next. -/
structure Underway (graph : Graph) (initial : State) (limit left : Nat) (calls : List Exchange)
    (walk : Walk) : Prop where
  course : Course graph initial calls walk.trace
  next : remaining? graph walk.trace = some walk.next
  state : walk.state = stateAfter initial calls
  taken : walk.taken = walk.trace.length
  left : walk.taken + left = limit

/-- A walk is under way before its first node. -/
theorem underway_start (definition : Definition) (graph : Graph) (limit : Nat) :
    Underway graph (State.initial definition.stateVariables) limit limit [] (start definition graph) := by
  -- Nothing has been asked, and the entry point comes next.
  refine ⟨Course.nil _ _, rfl, rfl, rfl, Nat.zero_add limit⟩

section Step

variable {graph : Graph} {initial : State} {limit left : Nat} {calls : List Exchange} {walk : Walk}
  (call : Exchange) {delay : Duration} {answer : Except NodeError Json}

/-- The state of a walk stays the state after its calls. -/
theorem Underway.state_advance (underway : Underway graph initial limit left calls walk)
    (replied : call.response = .answer delay answer) (next : String) :
    (walk.advance call.node delay answer next).state = stateAfter initial (calls ++ [call]) := by
  -- One more call absorbs one more answer.
  rw [stateAfter_snoc replied, ← underway.state]
  rfl

/-- An answered call of the node to come extends the course of a walk, wherever the walk goes then. -/
theorem Underway.course_advance (underway : Underway graph initial limit left calls walk)
    (named : graph.node? walk.next = some call.node)
    (resolved : resolveInputs call.node walk.state = .ok call.inputs)
    (replied : call.response = .answer delay answer) (next : String) :
    Course graph initial (calls ++ [call]) (walk.advance call.node delay answer next).trace := by
  -- The new entry has the id under which its node was found, and the state after its answer.
  have id := Graph.node?_id named
  have state := underway.state_advance call replied next
  have extended : Course graph initial (calls ++ [call]) _ :=
    underway.course.snoc (by rw [id, underway.next]) (by rw [id, named])
      (by rw [← underway.state, resolved]) replied
  rw [trace_advance, underway.taken]
  rwa [← state] at extended

/-- A walk stays under way when a step does not fail and its node's transition leads on. -/
theorem Underway.onward (underway : Underway graph initial limit (left + 1) calls walk)
    (named : graph.node? walk.next = some call.node)
    (resolved : resolveInputs call.node walk.state = .ok call.inputs)
    (replied : call.response = .answer delay answer) {next : String}
    (notFailed : statusOf call.node answer ≠ .failed) (leads : call.node.transition = .node next) :
    Underway graph initial limit left (calls ++ [call]) (walk.advance call.node delay answer next) := by
  -- The last entry of the longer trace leads to the new node.
  have id := Graph.node?_id named
  refine ⟨underway.course_advance call named resolved replied next, ?_,
    underway.state_advance call replied next, ?_, ?_⟩
  · rw [trace_advance]
    simp [remaining?, entryOf, notFailed, Graph.next?, id, named, leads, Transition.target?, advance]
  · rw [trace_advance, List.length_append, ← underway.taken]
    rfl
  · have := underway.left
    simp only [advance]
    omega

end Step

section Stop

variable {graph : Graph} {initial : State} {limit left : Nat} {calls : List Exchange} {walk : Walk} {node : Node}

/-- A walk under way with no step left has taken all of them. -/
theorem Underway.exhausted (underway : Underway graph initial limit 0 calls walk) :
    Exhausted graph limit walk.trace := by
  -- Its trace has as many entries as there are steps, and a node still comes next.
  have full : walk.trace.length = limit := by
    rw [← underway.taken]
    exact underway.left
  exact ⟨⟨_, underway.next⟩, full⟩

/-- A walk under way with a step left does not take it when the inputs of the next node do not resolve. -/
theorem Underway.unresolved (underway : Underway graph initial limit (left + 1) calls walk)
    (named : graph.node? walk.next = some node) {error : InputError}
    (failed : resolveInputs node walk.state = .error error) :
    Unresolved graph limit walk.trace walk.state error := by
  -- A step is left, so the limit is not what stops the walk.
  have within : walk.trace.length < limit := by
    rw [← underway.taken, ← underway.left]
    omega
  exact ⟨_, node, underway.next, within, named, failed⟩

/-- A walk is broken off behind a failure of a node that aborts. -/
theorem brokenOff_advance (walk : Walk) (named : graph.node? walk.next = some node) (aborts : node.errorPolicy = .abort)
    (elapsed : Duration) (error : NodeError) (next : String) :
    BrokenOff graph (walk.advance node elapsed (.error error) next).trace node.id error := by
  -- The entry of the failure is the last one.
  have final := walk.getLast?_trace_advance node elapsed (.error error) next
  have failed : statusOf node (.error error) = .failed := by simp [statusOf, aborts]
  have own : graph.node? node.id = some node := by rw [Graph.node?_id named, named]
  exact ⟨_, node, final, rfl, failed, rfl, own, aborts⟩

/-- A walk has arrived behind a node that does not fail and finishes. -/
theorem arrived_advance (walk : Walk) (named : graph.node? walk.next = some node) (finishes : node.transition = .finish)
    {answer : Except NodeError Json} (notFailed : statusOf node answer ≠ .failed) (elapsed : Duration) (next : String) :
    Arrived graph (walk.advance node elapsed answer next).trace := by
  -- The entry of the answer is the last one.
  have final := walk.getLast?_trace_advance node elapsed answer next
  have own : graph.node? node.id = some node := by rw [Graph.node?_id named, named]
  exact ⟨_, node, final, notFailed, own, finishes⟩

end Stop

end Walk

namespace Engine

variable {σ : Type}

/-- Recording changes nothing about a walk, and adds its calls to the record. -/
theorem walkAlone_recorded (executor : Executor σ) (settings : EngineSettings)
    (definition : Definition) (graph : Graph) (started : Duration) (left : Nat) (walk : Walk)
    (now : Duration) (world : σ) (calls : List Exchange) :
    ∃ ending finished after made,
      walkAlone executor settings definition graph started left walk now world =
        (ending, finished, after) ∧
      walkAlone executor.recorded settings definition graph started left walk now (world, calls) =
        (ending, finished, after, calls ++ made) := by
  -- Each step makes at most one call, and the walk goes on in the same way after it.
  induction left generalizing walk now world calls with
  | zero => exact ⟨_, _, _, [], rfl, by simp [walkAlone]⟩
  | succ left ih =>
    cases prepared : walk.prepare graph with
    | error error => exact ⟨_, _, _, [], rfl, by simp [walkAlone, prepared]⟩
    | ok pair =>
      obtain ⟨node, inputs⟩ := pair
      cases responded : executor.respond node inputs now world with
      | mk response after =>
        have mirrored := Executor.respond_recorded responded calls
        simp only [walkAlone, prepared, responded, mirrored]
        cases response with
        | crash delay => exact ⟨_, _, _, [_], rfl, rfl⟩
        | silence => exact ⟨_, _, _, [_], rfl, rfl⟩
        | answer delay answer =>
          simp only []
          cases walk.receive node delay answer with
          | stopped walk error => exact ⟨_, _, _, [_], rfl, rfl⟩
          | arrived walk => exact ⟨_, _, _, [_], rfl, rfl⟩
          | onward walk =>
            obtain ⟨ending, finished, last, made, plain, recorded⟩ :=
              ih walk (now + delay) after (calls ++ [⟨node, inputs, now, .answer delay answer⟩])
            exact ⟨ending, finished, last, _ :: made, plain, by simpa using recorded⟩

/-- The id that remains in a linked graph names a node. -/
theorem named_of_remaining? {graph : Graph} (linked : graph.Linked) {steps : List TraceEntry}
    {id : String} (next : remaining? graph steps = some id) : ∃ node, graph.node? id = some node := by
  -- It is the entry point or the target of a transition.
  unfold remaining? at next
  split at next
  · cases next
    exact linked.entry
  · split at next
    · cases next
    · exact linked.onward _ _ next

/-- A record that ends with a call without an answer is not answered as a whole. -/
private theorem not_allAnswered_snoc {calls : List Exchange} {call : Exchange}
    (missing : call.answer? = none) : ¬AllAnswered (calls ++ [call]) := by
  -- The last call is the exception.
  intro answered
  obtain ⟨answer, replied⟩ := answered call (List.mem_append_right _ List.mem_cons_self)
  rw [missing] at replied
  cases replied

/-- A walk reports with a full account of its calls, unless one of them was not answered. -/
theorem walkAlone_account (executor : Executor σ) (settings : EngineSettings)
    (definition : Definition) {graph : Graph} (linked : graph.Linked) {initial : State}
    (started : Duration) {left : Nat} {walk : Walk} {now : Duration} {world : σ}
    {calls made : List Exchange} {ending : Ending} {finished : Duration} {after : σ}
    (underway : walk.Underway graph initial settings.maxSteps left calls)
    (ran : walkAlone executor.recorded settings definition graph started left walk now
      (world, calls) = (ending, finished, after, made)) :
    (∃ result, ending = .reported result ∧ Account graph settings.maxSteps initial made result) ∨
      (∀ result, ending ≠ .reported result) ∧ ¬AllAnswered made := by
  -- Each step is either the last, with one of the four endings, or leaves the walk under way.
  induction left generalizing walk now world calls with
  | zero =>
    cases ran
    exact .inl ⟨_, rfl, .of_endsWith underway.course underway.state (.exhausted underway.exhausted)⟩
  | succ left ih =>
    obtain ⟨node, named⟩ := named_of_remaining? linked underway.next
    cases resolved : resolveInputs node walk.state with
    | error error =>
      have prepared : walk.prepare graph = .error (.input error) := by
        simp only [Walk.prepare, named, resolved]
      simp only [walkAlone, prepared] at ran
      cases ran
      have stopped := underway.unresolved named resolved
      exact .inl ⟨_, rfl, .of_endsWith underway.course underway.state (.unresolved stopped)⟩
    | ok inputs =>
      have prepared : walk.prepare graph = .ok (node, inputs) := by
        simp only [Walk.prepare, named, resolved]
      cases responded : executor.respond node inputs now world with
      | mk response next =>
        simp only [walkAlone, prepared, Executor.respond_recorded responded calls] at ran
        cases response with
        | crash delay =>
          cases ran
          exact .inr ⟨by simp, not_allAnswered_snoc rfl⟩
        | silence =>
          cases ran
          exact .inr ⟨by simp, not_allAnswered_snoc rfl⟩
        | answer delay answer =>
          let call : Exchange := ⟨node, inputs, now, .answer delay answer⟩
          have course := underway.course_advance call named resolved rfl
          have state := underway.state_advance call rfl
          rcases walk.receive_cases node delay answer with
            ⟨error, rfl, aborts, received⟩ | ⟨notFailed, finishes, received⟩ |
            ⟨following, notFailed, leads, received⟩
          · -- A failure that aborts is the last answer.
            simp only [received] at ran
            cases ran
            have broken := Walk.brokenOff_advance walk named aborts delay error walk.next
            exact .inl ⟨_, rfl, .of_endsWith (course walk.next) (state walk.next) (.brokenOff broken)⟩
          · -- Behind a node that finishes nothing comes next.
            simp only [received] at ran
            cases ran
            have arrived := Walk.arrived_advance walk named finishes notFailed delay walk.next
            exact .inl ⟨_, rfl, .of_endsWith (course walk.next) (state walk.next) (.arrived arrived)⟩
          · -- Any other answer leads on.
            simp only [received] at ran
            exact ih (underway.onward call named resolved rfl notFailed leads) ran

/--
A run of a graph that builds takes the same walk when it is recorded.

It reports with a full account of its calls unless one of them was not answered.
-/
theorem execute_recorded (executor : Executor σ) (settings : EngineSettings)
    (definition : Definition) {graph : Graph} (built : Graph.build definition = .ok graph)
    (now : Duration) (world : σ) :
    ∃ ending finished after calls,
      execute executor settings definition now world = (ending, finished, after) ∧
      execute executor.recorded settings definition now (world, []) =
        (ending, finished, after, calls) ∧
      ((∃ result, ending = .reported result ∧ Account graph settings.maxSteps
          (State.initial definition.stateVariables) calls result) ∨
        (∀ result, ending ≠ .reported result) ∧ ¬AllAnswered calls) := by
  -- The walk is under way from its start.
  obtain ⟨ending, finished, after, calls, plain, recorded⟩ :=
    walkAlone_recorded executor settings definition graph now settings.maxSteps
      (Walk.start definition graph) now world []
  refine ⟨ending, finished, after, calls, by simp only [execute, built, plain],
    by simpa only [execute, built, List.nil_append] using recorded, ?_⟩
  exact walkAlone_account executor settings definition (Graph.linked_of_build built) now
    (Walk.underway_start definition graph settings.maxSteps) recorded

/-- What holds of the only report of an ending holds of each, and the ending reports when its calls are answered. -/
theorem reports_of_account {ending : Ending} {calls : List Exchange} {Told : PipelineResult → Prop}
    (either : (∃ result, ending = .reported result ∧ Told result) ∨
      (∀ result, ending ≠ .reported result) ∧ ¬AllAnswered calls) :
    (AllAnswered calls → ∃ result, ending = .reported result) ∧
      ∀ result, ending = .reported result → Told result := by
  -- A report and an unanswered call exclude each other.
  rcases either with ⟨result, rfl, told⟩ | ⟨silent, missing⟩
  · refine ⟨fun _ => ⟨result, rfl⟩, ?_⟩
    rintro _ ⟨⟩
    exact told
  · exact ⟨fun answered => absurd answered missing, fun result reported => absurd reported (silent result)⟩

/--
A run reports when all its calls are answered, and its report describes the walk along the transitions with its calls.

The error of the report tells which of four endings the walk had.
-/
theorem execute_accounts (executor : Executor σ) (settings : EngineSettings)
    (definition : Definition) {graph : Graph} (built : Graph.build definition = .ok graph)
    (now : Duration) (world : σ) :
    ∃ ending finished after calls,
      execute executor settings definition now world = (ending, finished, after) ∧
      execute executor.recorded settings definition now (world, []) =
        (ending, finished, after, calls) ∧
      (AllAnswered calls → ∃ result, ending = .reported result) ∧
      ∀ result, ending = .reported result → Account graph settings.maxSteps
        (State.initial definition.stateVariables) calls result := by
  -- The recorded run gives the calls.
  obtain ⟨ending, finished, after, calls, plain, recorded, either⟩ :=
    execute_recorded executor settings definition built now world
  exact ⟨ending, finished, after, calls, plain, recorded, reports_of_account either⟩

end Engine

/-- A node that reads a file under a fixed path and captures its failure. -/
def Node.fetch : Node :=
  -- The text that it reads is its only output.
  ⟨"fetch", .tool "files" "read", ["path"], ["text"],
    Dictionary.ofList [("path", .fixed (.text "a.txt"))], .capture, .node "judge"⟩

/-- A node that judges the text in the state and ends the run. -/
def Node.judge : Node :=
  -- The verdict is its only output.
  ⟨"judge", .code "", ["text"], ["test_passed"], Dictionary.empty, .abort, .finish⟩

/-- A pipeline whose first node captures a failure and whose second ends the run. -/
def Definition.twoSteps : Definition := ⟨"two steps", none, [], "fetch", [.fetch, .judge]⟩

/-- The failure of the first node after a while, and the verdict of the second. -/
def twoResponses : List (Response (Except NodeError Json)) :=
  -- Nothing is left after them.
  [.answer ⟨5⟩ (.error (.toolInvocation "down")), .answer ⟨0⟩ (.ok (.boolean true))]

/-- The calls of both nodes. -/
def twoCalls : List Exchange :=
  -- The second is asked when the first has failed, and given the text of the failure.
  [⟨.fetch, Dictionary.ofList [("path", .text "a.txt")], ⟨0⟩,
      .answer ⟨5⟩ (.error (.toolInvocation "down"))⟩,
    ⟨.judge, Dictionary.ofList [("text", .text "down")], ⟨5⟩, .answer ⟨0⟩ (.ok (.boolean true))⟩]

/-- The report of a captured failure and a positive verdict. -/
def twoReport : PipelineResult :=
  -- Each step has its own output.
  ⟨"two steps", .passed, ⟨5⟩,
    ⟨Dictionary.ofList [("test_passed", .boolean true), ("text", .text "down")]⟩, none,
    [⟨1, "fetch", "toolkit", .captured, ⟨5⟩, Dictionary.ofList [("text", .text "down")],
        some (.toolInvocation "down")⟩,
      ⟨2, "judge", "code", .succeeded, ⟨0⟩, Dictionary.ofList [("test_passed", .boolean true)], none⟩]⟩

/-- The walk through both nodes makes the two calls and reports. -/
theorem Engine.execute_twoSteps :
    Graph.build .twoSteps = .ok ⟨"fetch", [.fetch, .judge]⟩ ∧
    execute .prepared .default .twoSteps Duration.zero twoResponses = (.reported twoReport, ⟨5⟩, []) ∧
    execute (Executor.recorded .prepared) .default .twoSteps Duration.zero (twoResponses, []) =
      (.reported twoReport, ⟨5⟩, [], twoCalls) := ⟨rfl, rfl, rfl⟩

/-- The report of the walk through both nodes accounts for the two calls. -/
theorem Engine.execute_accounts_twoSteps :
    Graph.build .twoSteps = .ok ⟨"fetch", [.fetch, .judge]⟩ ∧
    execute .prepared .default .twoSteps Duration.zero twoResponses = (.reported twoReport, ⟨5⟩, []) ∧
    execute (Executor.recorded .prepared) .default .twoSteps Duration.zero (twoResponses, []) =
      (.reported twoReport, ⟨5⟩, [], twoCalls) ∧
    Account ⟨"fetch", [.fetch, .judge]⟩ EngineSettings.default.maxSteps (State.initial []) twoCalls
      twoReport := by
  -- The report of the recorded run is the only one.
  obtain ⟨built, ran, heard⟩ := execute_twoSteps
  obtain ⟨_, _, _, _, _, recorded, _, accounts⟩ :=
    execute_accounts .prepared .default .twoSteps built Duration.zero twoResponses
  rw [heard] at recorded
  cases recorded
  exact ⟨built, ran, heard, accounts twoReport rfl⟩

end PipelineTrial
