import PipelineTrial.Proofs.Run.Account

/-! A definition either fails before anything is asked, or all its walks find every node they come to. -/

namespace PipelineTrial

namespace Walk

/-- The walks that a run of a graph can make, whatever its nodes answer. -/
inductive Reached (definition : Definition) (graph : Graph) : Walk → Prop where
  | start : Reached definition graph (Walk.start definition graph)
  | onward {walk next : Walk} {node : Node} {inputs : Inputs} {elapsed : Duration}
      {answer : Except NodeError Json} : Reached definition graph walk →
      walk.prepare graph = .ok (node, inputs) → walk.receive node elapsed answer = .onward next →
      Reached definition graph next

/-- The node that a walk was prepared for has the id that comes next. -/
theorem node?_of_prepare {graph : Graph} {walk : Walk} {node : Node} {inputs : Inputs}
    (prepared : walk.prepare graph = .ok (node, inputs)) : graph.node? walk.next = some node := by
  -- The node is looked up before its inputs are resolved.
  unfold prepare at prepared
  split at prepared
  · cases prepared
  · next found =>
    split at prepared <;> cases prepared
    exact found

/-- A walk that goes on comes to the target of its node's transition. -/
theorem next_of_receive {walk next : Walk} {node : Node} {elapsed : Duration}
    {answer : Except NodeError Json} (received : walk.receive node elapsed answer = .onward next) :
    node.transition = .node next.next := by
  -- The other two continuations are not onward.
  rcases walk.receive_cases node elapsed answer with
    ⟨_, _, _, other⟩ | ⟨_, _, other⟩ | ⟨target, _, leads, other⟩
  · rw [other] at received
    cases received
  · rw [other] at received
    cases received
  · rw [other] at received
    cases received
    exact leads

/-- Every walk that a run of a linked graph can make has come to a node. -/
theorem Reached.named {definition : Definition} {graph : Graph} (linked : graph.Linked) {walk : Walk}
    (reached : Reached definition graph walk) : ∃ node, graph.node? walk.next = some node := by
  -- It is at the entry point, or a transition has led it on.
  cases reached with
  | start => exact linked.entry
  | @onward before _ node _ _ _ _ prepared received =>
    have found := node?_of_prepare prepared
    have leads := next_of_receive received
    refine linked.onward before.next walk.next ?_
    simp [Graph.next?, found, leads, Transition.target?]

/-- A walk that has come to a node is never lost. -/
theorem prepare_ne_graph {graph : Graph} {walk : Walk} (named : ∃ node, graph.node? walk.next = some node)
    (error : GraphError) : walk.prepare graph ≠ .error (.graph error) := by
  -- All that can go wrong are the inputs of the node.
  obtain ⟨node, found⟩ := named
  simp only [prepare, found]
  cases resolveInputs node walk.state <;> simp

end Walk

/-- A run from a walk that a linked graph allows ends in no graph error, however long it is. -/
theorem Engine.walkAlone_ne_graph {σ : Type} {executor : Executor σ} {settings : EngineSettings}
    {definition : Definition} {graph : Graph} (linked : graph.Linked) {started : Duration} {left : Nat}
    {walk : Walk} {now finished : Duration} {world after : σ} {result : PipelineResult}
    (reached : walk.Reached definition graph)
    (ran : walkAlone executor settings definition graph started left walk now world =
      (.reported result, finished, after)) (error : GraphError) : result.error ≠ some (.graph error) := by
  -- The induction is on the steps left: each step ends the run or takes it to another such walk.
  induction left generalizing walk now world with
  | zero =>
    cases ran
    simp [Walk.stop, PipelineResult.errored]
  | succ left ih =>
    cases prepared : walk.prepare graph with
    | error own =>
      simp only [walkAlone, prepared] at ran
      cases ran
      rintro ⟨⟩
      exact Walk.prepare_ne_graph (reached.named linked) error prepared
    | ok pair =>
      obtain ⟨node, inputs⟩ := pair
      simp only [walkAlone, prepared] at ran
      split at ran
      · cases ran
      · cases ran
      · next delay answer later _ =>
        split at ran
        · next stopped own received =>
          cases ran
          rcases walk.receive_cases node delay answer with
            ⟨failure, _, _, other⟩ | ⟨_, _, other⟩ | ⟨target, _, _, other⟩
          · rw [other] at received
            cases received
            simp [Walk.stop, PipelineResult.errored]
          · rw [other] at received
            cases received
          · rw [other] at received
            cases received
        · cases ran
          simp [Walk.arrive, PipelineResult.completed]
        · next following received => exact ih (reached.onward prepared received) ran

/-- The report of a run whose graph does not build: an error from before anything runs, without state or trace. -/
structure RejectedAtLoad (definition : Definition) (fault : GraphError) (result : PipelineResult) : Prop where
  name : result.name = definition.name
  outcome : result.outcome = .errored
  error : result.error = some (.graph fault)
  loadTime : (PipelineError.graph fault).isLoadTime = true
  state : result.state = State.empty
  trace : result.trace = []

/--
A graph builds exactly when its entry point and all targets are declared, and else fails with the first that is not.

A run of a graph that does not build asks nothing and is rejected; one of a graph that builds is never lost, whatever
its nodes answer and however long it is.
-/
theorem Engine.execute_never_lost (definition : Definition) :
    (∀ graph, Graph.build definition = .ok graph ↔
      definition.Linked ∧ graph = ⟨definition.entryPoint, definition.nodes⟩) ∧
    (∀ error, Graph.build definition = .error error ↔ definition.Misses error) ∧
    (∀ error, definition.Misses error →
      ∀ (σ : Type) (executor : Executor σ) (settings : EngineSettings) (now : Duration) (world : σ),
        ∃ result, execute executor.recorded settings definition now (world, []) =
            (.reported result, now, world, []) ∧
          RejectedAtLoad definition error result) ∧
    (∀ graph, Graph.build definition = .ok graph →
      (∀ walk, Walk.Reached definition graph walk → ∀ error, walk.prepare graph ≠ .error (.graph error)) ∧
      ∀ (σ : Type) (executor : Executor σ) (settings : EngineSettings) (now finished : Duration)
        (world after : σ) (result : PipelineResult),
        execute executor settings definition now world = (.reported result, finished, after) →
          ∀ error, result.error ≠ some (.graph error)) := by
  -- What the build checks is what every walk rests on.
  refine ⟨fun graph => Graph.build_eq_ok_iff, fun error => Graph.build_eq_error_iff, ?_, ?_⟩
  · intro error misses σ executor settings now world
    have failed := Graph.build_eq_error_iff.2 misses
    refine ⟨.aborted definition.name (.graph error) Duration.zero, by simp only [execute, failed], ?_⟩
    exact ⟨rfl, rfl, rfl, rfl, rfl, rfl⟩
  · intro graph built
    have linked := Graph.linked_of_build built
    refine ⟨fun walk reached => Walk.prepare_ne_graph (reached.named linked), ?_⟩
    intro σ executor settings now finished world after result ran
    simp only [execute, built] at ran
    exact walkAlone_ne_graph linked .start ran

/-- A pipeline of two nodes of one id, the first of which leads to a node that is not declared. -/
def Definition.stray : Definition :=
  -- The second node shadows the first in the graph, but not in its validation.
  ⟨"stray", none, [], "a",
    [⟨"a", .code "", [], [], Dictionary.empty, .abort, .node "ghost"⟩,
      ⟨"a", .code "", [], [], Dictionary.empty, .abort, .finish⟩]⟩

/-- A shadowed transition to nowhere has its definition rejected, and a run of two linked nodes is not lost. -/
theorem Engine.execute_never_lost_stray :
    (∃ result, execute (Executor.recorded .prepared) .default .stray Duration.zero
        ([.answer ⟨5⟩ (.ok (.boolean true))], []) =
          (.reported result, Duration.zero, [.answer ⟨5⟩ (.ok (.boolean true))], []) ∧
      RejectedAtLoad .stray (.danglingTransition "a" "ghost") result) ∧
    ∃ result finished after, execute .prepared .default .twoSteps Duration.zero
        [.answer ⟨5⟩ (.error (.toolInvocation "down")), .answer ⟨0⟩ (.ok (.boolean true))] =
        (.reported result, finished, after) ∧
      ∀ error, result.error ≠ some (.graph error) := by
  have dangling := ((execute_never_lost .stray).2.1 (.danglingTransition "a" "ghost")).1 rfl
  have ran : execute .prepared .default .twoSteps Duration.zero
      [.answer ⟨5⟩ (.error (.toolInvocation "down")), .answer ⟨0⟩ (.ok (.boolean true))] =
      (.reported _, _, _) := rfl
  have linked := (execute_never_lost .twoSteps).2.2.2 ⟨"fetch", Definition.twoSteps.nodes⟩ rfl
  exact ⟨(execute_never_lost .stray).2.2.1 _ dangling _ _ _ _ _, _, _, _, ran,
    linked.2 _ _ _ _ _ _ _ _ ran⟩

end PipelineTrial
