import PipelineTrial.Pipeline.Graph
import PipelineTrial.Pipeline.Inputs
import PipelineTrial.Pipeline.Loading
import PipelineTrial.Pipeline.Outputs
import PipelineTrial.Run.Backend

/-! The local engine: it walks the graph of a pipeline node by node along the transitions. -/

namespace PipelineTrial

/-- The settings of the engine. -/
structure EngineSettings where
  maxSteps : Nat
  verdictKey : String
  deriving DecidableEq

/-- The key that holds the verdict unless another is set. -/
def defaultVerdictKey : String := "test_passed"

/-- The settings that hold unless others are given. -/
def EngineSettings.default : EngineSettings := ⟨10000, defaultVerdictKey⟩

/-- Does the work of nodes with the help of collaborators `σ`. -/
structure Executor (σ : Type) where
  /-- The response to a node with its inputs at a time. -/
  respond : Node → Inputs → Duration → σ → Response (Except NodeError Json) × σ

/-- A walk between two nodes: the node to come, the steps taken, and what they left behind. -/
structure Walk where
  next : String
  taken : Nat
  state : State
  /-- The entries of the steps taken, the latest first. -/
  latest : List TraceEntry

namespace Walk

/-- The walk before its first node. -/
def start (definition : Definition) (graph : Graph) : Walk :=
  -- The state holds the initial values.
  ⟨graph.entryPoint, 0, State.initial definition.stateVariables, []⟩

/-- The entries of the steps taken, in order. -/
def trace (walk : Walk) : List TraceEntry := walk.latest.reverse

/-- The error of a walk to an id that names no node. -/
def lost (walk : Walk) : GraphError :=
  -- The last step's node led there, unless it is the entry point itself.
  match walk.latest with
  | [] => .missingEntryPoint walk.next
  | entry :: _ => .danglingTransition entry.node walk.next

/-- The node to come with its inputs. -/
def prepare (graph : Graph) (walk : Walk) : Except PipelineError (Node × Inputs) :=
  -- The node is looked up before its inputs are resolved.
  match graph.node? walk.next with
  | none => .error (.graph walk.lost)
  | some node =>
    match resolveInputs node walk.state with
    | .ok inputs => .ok (node, inputs)
    | .error error => .error (.input error)

/-- The declared outputs that a state holds. -/
def boundOutputs (node : Node) (state : State) : Dictionary Json :=
  -- Cleared outputs are left out.
  Dictionary.ofList <| node.outputs.filterMap fun name =>
    (state.get? name).map fun value => (name, value)

/-- How a step ends with an answer: a failure stops the walk or is captured, as the node's policy says. -/
def statusOf (node : Node) : Except NodeError Json → StepStatus
  | .ok _ => .succeeded
  | .error _ =>
    match node.errorPolicy with
    | .abort => .failed
    | .capture => .captured

/-- The state after a node's answer. -/
def absorb (node : Node) (answer : Except NodeError Json) (state : State) : State :=
  -- A failure that stops the walk leaves the state alone.
  match answer with
  | .ok value => bindOutputs node.outputs value state
  | .error error =>
    match node.errorPolicy with
    | .abort => state
    | .capture => bindCapturedError node.outputs error state

/-- The trace entry of a step with its number, the state after it, the time it took and the answer. -/
def entryOf (step : Nat) (node : Node) (state : State) (elapsed : Duration)
    (answer : Except NodeError Json) : TraceEntry :=
  -- Nothing is bound when the walk stops.
  ⟨step, node.id, node.kind.tag, statusOf node answer, elapsed,
    if statusOf node answer = .failed then Dictionary.empty else boundOutputs node state,
    match answer with
    | .ok _ => none
    | .error error => some error⟩

/-- How a walk goes on after a node. -/
inductive Continuation where
  | onward (walk : Walk)
  | arrived (walk : Walk)
  | stopped (walk : Walk) (error : PipelineError)

/-- The walk after a node's answer, with the id that comes next. -/
def advance (walk : Walk) (node : Node) (elapsed : Duration) (answer : Except NodeError Json)
    (next : String) : Walk :=
  -- The entry tells the state after the answer.
  let state := absorb node answer walk.state
  ⟨next, walk.taken + 1, state, entryOf (walk.taken + 1) node state elapsed answer :: walk.latest⟩

/-- How a walk goes on after a node's answer. -/
def receive (walk : Walk) (node : Node) (elapsed : Duration) (answer : Except NodeError Json) :
    Continuation :=
  -- The transition leads on unless the answer stops the walk.
  match answer, node.errorPolicy with
  | .error error, .abort =>
    .stopped (walk.advance node elapsed answer walk.next) (.node node.id error)
  | _, _ =>
    match node.transition with
    | .finish => .arrived (walk.advance node elapsed answer walk.next)
    | .node next => .onward (walk.advance node elapsed answer next)

/-- The report of a walk that an error stopped. -/
def stop (definition : Definition) (walk : Walk) (error : PipelineError) (elapsed : Duration) :
    PipelineResult :=
  -- What was done before the error is kept.
  .errored definition.name error walk.state walk.trace elapsed

/-- The report of a walk that reached the end. -/
def arrive (settings : EngineSettings) (definition : Definition) (walk : Walk)
    (elapsed : Duration) : PipelineResult :=
  -- The state holds the verdict.
  .completed definition.name walk.state walk.trace elapsed settings.verdictKey

end Walk

namespace Engine

variable {σ : Type}

/-- The ending of a walk that nothing cuts short, with the time and the collaborators after it. -/
def walkAlone (executor : Executor σ) (settings : EngineSettings) (definition : Definition)
    (graph : Graph) (started : Duration) :
    Nat → Walk → Duration → σ → Ending × Duration × σ
  | 0, walk, now, world =>
    (.reported (walk.stop definition (.stepLimit settings.maxSteps) (now - started)), now, world)
  | left + 1, walk, now, world =>
    match walk.prepare graph with
    | .error error => (.reported (walk.stop definition error (now - started)), now, world)
    | .ok (node, inputs) =>
      match executor.respond node inputs now world with
      | (.crash delay, world) => (.crashed, now + delay, world)
      | (.silence, world) => (.stalled, now, world)
      | (.answer delay answer, world) =>
        match walk.receive node delay answer with
        | .stopped walk error =>
          (.reported (walk.stop definition error (now + delay - started)), now + delay, world)
        | .arrived walk =>
          (.reported (walk.arrive settings definition (now + delay - started)), now + delay, world)
        | .onward walk =>
          walkAlone executor settings definition graph started left walk (now + delay) world

/-- The ending of a pipeline that runs alone. -/
def execute (executor : Executor σ) (settings : EngineSettings) (definition : Definition)
    (now : Duration) (world : σ) : Ending × Duration × σ :=
  -- A graph that cannot be built stops the run before its first step.
  match Graph.build definition with
  | .error error => (.reported (.aborted definition.name (.graph error) Duration.zero), now, world)
  | .ok graph =>
    walkAlone executor settings definition graph now settings.maxSteps
      (Walk.start definition graph) now world

/-- The ending of a pipeline in a document, reported under a given name when it does not load. -/
def executeDocument (executor : Executor σ) (settings : EngineSettings) (name document : String)
    (environment : Environment) (now : Duration) (world : σ) : Ending × Duration × σ :=
  -- A document that does not load stops the run before its first step.
  match loadPipeline document environment with
  | .error error => (.reported (.aborted name error Duration.zero), now, world)
  | .ok definition => execute executor settings definition now world

/-- A local run that waits for a node's answer. -/
structure Pending where
  definition : Definition
  graph : Graph
  started : Duration
  walk : Walk
  /-- The steps that may follow this one. -/
  left : Nat
  node : Node
  asked : Duration
  /-- The answer to come, or none when the task dies instead. -/
  answer : Option (Except NodeError Json)

/-- A walk moved on to the call of its next node; the wait for the answer may take no time. -/
def ask (executor : Executor σ) (settings : EngineSettings) (definition : Definition)
    (graph : Graph) (started now : Duration) (left : Nat) (walk : Walk) (world : σ) :
    Progress Pending × σ :=
  -- The step limit comes before the next node.
  match left with
  | 0 => (.finished (walk.stop definition (.stepLimit settings.maxSteps) (now - started)), world)
  | left + 1 =>
    match walk.prepare graph with
    | .error error => (.finished (walk.stop definition error (now - started)), world)
    | .ok (node, inputs) =>
      let pending (answer : Option (Except NodeError Json)) : Pending :=
        ⟨definition, graph, started, walk, left, node, now, answer⟩
      match executor.respond node inputs now world with
      | (.silence, world) => (.stalled, world)
      | (.crash delay, world) => (.waiting delay (pending none), world)
      | (.answer delay answer, world) => (.waiting delay (pending (some answer)), world)

/-- The local engine as a backend. -/
def backend (executor : Executor σ) (settings : EngineSettings) : Backend σ Pending where
  start definition now world :=
    -- A graph that cannot be built ends the run at once.
    match Graph.build definition with
    | .error error => (.finished (.aborted definition.name (.graph error) Duration.zero), world)
    | .ok graph =>
      ask executor settings definition graph now now settings.maxSteps (Walk.start definition graph)
        world
  resume pending now world :=
    -- The awaited answer is received before the walk moves on.
    match pending.answer with
    | none => (.crashed, world)
    | some answer =>
      match pending.walk.receive pending.node (now - pending.asked) answer with
      | .stopped walk error =>
        (.finished (walk.stop pending.definition error (now - pending.started)), world)
      | .arrived walk =>
        (.finished (walk.arrive settings pending.definition (now - pending.started)), world)
      | .onward walk =>
        ask executor settings pending.definition pending.graph pending.started now pending.left
          walk world

end Engine

end PipelineTrial
