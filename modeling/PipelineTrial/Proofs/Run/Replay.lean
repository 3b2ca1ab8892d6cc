import PipelineTrial.Proofs.Pipeline.Outputs
import PipelineTrial.Proofs.Run.Account

/-! The last state of a run can be rebuilt from its trace alone. -/

namespace PipelineTrial

/-- The state after a trace entry is replayed: the outputs of its node are cleared, and what it bound is stored. -/
def replayEntry (graph : Graph) (state : State) (entry : TraceEntry) : State :=
  -- A failed step has bound nothing and cleared nothing.
  match entry.status, graph.node? entry.node with
  | .failed, _ => state
  | _, none => state
  | _, some node => (state.clearAll node.outputs).setAll entry.outputs

/-- The state after a trace is replayed from a state. -/
def replay (graph : Graph) (initial : State) (steps : List TraceEntry) : State :=
  -- Entries are replayed in order.
  steps.foldl (replayEntry graph) initial

namespace Walk

variable {node : Node} {answer : Except NodeError Json}

/-- An answer leaves every variable alone that the node does not declare as an output. -/
theorem get?_absorb {name : String} (undeclared : name ∉ node.outputs) (state : State) :
    (absorb node answer state).get? name = state.get? name := by
  -- Results and captured failures are bound to outputs only.
  cases answer with
  | ok value => exact get?_bindOutputs undeclared value state
  | error error =>
    cases policy : node.errorPolicy with
    | abort => simp [absorb, policy]
    | capture => simp [absorb, policy, get?_bindCapturedError, undeclared]

/-- An answer that stops the walk changes nothing. -/
theorem absorb_of_failed (failed : statusOf node answer = .failed) (state : State) :
    absorb node answer state = state := by
  -- Only a failure at a node that aborts stops the walk.
  cases answer with
  | ok value => cases failed
  | error error =>
    cases policy : node.errorPolicy with
    | abort => simp [absorb, policy]
    | capture => simp [statusOf, policy] at failed

private theorem get?_ofBound (state : State) (outputs : List String) (built : Dictionary Json)
    (name : String) :
    ((outputs.filterMap fun name => (state.get? name).map fun value => (name, value)).foldl
      (fun built pair => built.insert pair.1 pair.2) built).get? name =
      if name ∈ outputs then (state.get? name).or (built.get? name) else built.get? name := by
  -- Every output is stored with the value it has, and repeating it stores the same value.
  induction outputs generalizing built with
  | nil => simp
  | cons first rest ih =>
    cases held : state.get? first with
    | none =>
      rw [List.filterMap_cons_none (by simp [held]), ih]
      by_cases now : name = first
      · subst now
        simp [held]
      · simp [now]
    | some value =>
      rw [List.filterMap_cons_some (by simp [held]; rfl), List.foldl_cons, ih,
        Dictionary.get?_insert]
      by_cases now : name = first
      · subst now
        simp [held]
      · simp [now]

/-- The bound outputs are the declared ones with the values that the state holds. -/
theorem get?_boundOutputs (node : Node) (state : State) (name : String) :
    (boundOutputs node state).get? name = if name ∈ node.outputs then state.get? name else none := by
  -- They are collected from an empty map.
  have collected := get?_ofBound state node.outputs Dictionary.empty name
  simpa [boundOutputs, Dictionary.ofList] using collected

/-- Clearing the outputs of a node and storing what it bound gives the state after its answer. -/
theorem setAll_clearAll_absorb (node : Node) (answer : Except NodeError Json) (state : State) :
    (state.clearAll node.outputs).setAll (boundOutputs node (absorb node answer state)) =
      absorb node answer state := by
  -- Outputs are read from what was bound, and all other variables are as before.
  refine State.ext_get? fun name => ?_
  rw [State.get?_setAll, get?_boundOutputs, State.get?_clearAll]
  by_cases declared : name ∈ node.outputs
  · simp [declared]
  · simp [declared, get?_absorb declared]

end Walk

namespace Course

variable {graph : Graph} {initial : State} {calls : List Exchange} {steps : List TraceEntry}

/-- One more call takes the state on by one more answer, which the entry beside the call tells. -/
theorem step (course : Course graph initial calls steps) {place : Nat} (inside : place < steps.length) :
    ∃ node delay answer, graph.node? steps[place].node = some node ∧
      stateAfter initial (calls.take (place + 1)) =
        Walk.absorb node answer (stateAfter initial (calls.take place)) ∧
      steps[place] = Walk.entryOf (place + 1) node
        (Walk.absorb node answer (stateAfter initial (calls.take place))) delay answer := by
  -- The call at the place is the last of one more.
  have paired := course.paired
  have entry := List.getElem?_eq_getElem inside
  have call := List.getElem?_eq_getElem (l := calls) (i := place) (by omega)
  obtain ⟨delay, answer, replied, told⟩ := course.told place _ _ entry call
  have state : stateAfter initial (calls.take (place + 1)) =
      Walk.absorb calls[place].node answer (stateAfter initial (calls.take place)) := by
    rw [List.take_succ_eq_append_getElem (by omega), stateAfter_snoc replied]
  exact ⟨_, delay, answer, (course.asked place _ _ entry call).1, state, state ▸ told⟩

/-- Replaying the first entries of a trace gives the state after as many calls. -/
theorem replay_take (course : Course graph initial calls steps) (place : Nat)
    (inside : place ≤ steps.length) :
    replay graph initial (steps.take place) = stateAfter initial (calls.take place) := by
  -- Each entry replays the answer beside it.
  induction place with
  | zero => rfl
  | succ place ih =>
    obtain ⟨node, delay, answer, named, state, told⟩ := course.step inside
    have before := ih (by omega)
    rw [List.take_succ_eq_append_getElem inside, replay, List.foldl_append]
    show replayEntry graph (replay graph initial (steps.take place)) steps[place] = _
    rw [before, state, replayEntry, named]
    by_cases failed : Walk.statusOf node answer = .failed
    · simp [told, Walk.entryOf, failed, Walk.absorb_of_failed failed]
    · have bound := Walk.setAll_clearAll_absorb node answer (stateAfter initial (calls.take place))
      rw [told]
      simpa only [Walk.entryOf, failed, if_false] using bound

/-- A variable that no node in the trace declares as an output keeps its first value. -/
theorem get?_stateAfter (course : Course graph initial calls steps) {name : String}
    (undeclared : ∀ entry ∈ steps, ∀ node, graph.node? entry.node = some node → name ∉ node.outputs)
    (place : Nat) (inside : place ≤ steps.length) :
    (stateAfter initial (calls.take place)).get? name = initial.get? name := by
  -- Each answer changes outputs of its own node only.
  induction place with
  | zero => rfl
  | succ place ih =>
    obtain ⟨node, delay, answer, named, state, _⟩ := course.step inside
    have untouched := undeclared steps[place] (List.getElem_mem _) node named
    rw [state, Walk.get?_absorb untouched, ih (by omega)]

/-- A captured step has bound the text of its failure to every output of its node, and nothing else. -/
theorem outputs_of_captured (course : Course graph initial calls steps) {entry : TraceEntry}
    (member : entry ∈ steps) (captured : entry.status = .captured) :
    ∃ node error, graph.node? entry.node = some node ∧ entry.error = some error ∧
      ∀ name, entry.outputs.get? name =
        if name ∈ node.outputs then some (.text error.message) else none := by
  -- The answer was a failure, and the state after it holds the text.
  obtain ⟨place, inside, rfl⟩ := List.getElem_of_mem member
  obtain ⟨node, delay, answer, named, _, told⟩ := course.step inside
  rw [told] at captured
  have status : Walk.statusOf node answer = .captured := captured
  cases answer with
  | ok value => cases status
  | error error =>
    cases policy : node.errorPolicy with
    | abort => simp [Walk.statusOf, policy] at status
    | capture =>
      refine ⟨node, error, named, by rw [told]; rfl, fun name => ?_⟩
      have bound := Walk.get?_boundOutputs node (Walk.absorb node (.error error)
        (stateAfter initial (calls.take place))) name
      rw [told]
      simp only [Walk.entryOf, status, reduceCtorEq, if_false]
      rw [bound]
      by_cases declared : name ∈ node.outputs
      · simp [declared, Walk.absorb, policy, get?_bindCapturedError]
      · simp [declared]

end Course

/-- The last state of a report is told by its trace. -/
structure Replayed (graph : Graph) (initial : State) (result : PipelineResult) : Prop where
  state : result.state = replay graph initial result.trace
  /-- A captured step binds the text of its recorded failure to all its outputs. -/
  captured : ∀ entry ∈ result.trace, entry.status = .captured →
    ∃ node error, graph.node? entry.node = some node ∧ entry.error = some error ∧
      ∀ name, entry.outputs.get? name =
        if name ∈ node.outputs then some (.text error.message) else none
  /-- What no executed node declares stays as it was. -/
  kept : ∀ name, (∀ entry ∈ result.trace, ∀ node, graph.node? entry.node = some node →
    name ∉ node.outputs) → result.state.get? name = initial.get? name

/-- A report that accounts for its calls can be replayed. -/
theorem Account.replayed {graph : Graph} {limit : Nat} {initial : State} {calls : List Exchange}
    {result : PipelineResult} (account : Account graph limit initial calls result) :
    Replayed graph initial result := by
  -- All entries are replayed, and all calls are absorbed.
  have course := account.course
  have all := course.replay_take result.trace.length (Nat.le_refl _)
  have calls_all : calls.take result.trace.length = calls := by
    rw [← course.paired, List.take_length]
  rw [List.take_length, calls_all, ← account.state] at all
  refine ⟨all.symm, fun entry => course.outputs_of_captured, fun name undeclared => ?_⟩
  have kept := course.get?_stateAfter undeclared result.trace.length (Nat.le_refl _)
  rwa [calls_all, ← account.state] at kept

/-- However a run ends that reports, replaying its trace from the initial values gives its last state. -/
theorem Engine.execute_replays {σ : Type} (executor : Executor σ) (settings : EngineSettings)
    (definition : Definition) {graph : Graph} (built : Graph.build definition = .ok graph)
    (now : Duration) (world : σ) :
    ∃ ending finished after calls,
      execute executor settings definition now world = (ending, finished, after) ∧
      execute executor.recorded settings definition now (world, []) =
        (ending, finished, after, calls) ∧
      (AllAnswered calls → ∃ result, ending = .reported result) ∧
      ∀ result, ending = .reported result →
        Replayed graph (State.initial definition.stateVariables) result := by
  -- The account of the run is what can be replayed.
  obtain ⟨ending, finished, after, calls, plain, recorded, either⟩ :=
    execute_recorded executor settings definition built now world
  refine ⟨ending, finished, after, calls, plain, recorded, reports_of_account ?_⟩
  exact either.imp_left fun ⟨result, reported, account⟩ => ⟨result, reported, account.replayed⟩

/-- The state after a captured failure and a verdict is told by the trace. -/
theorem Engine.execute_replays_twoSteps :
    Graph.build .twoSteps = .ok ⟨"fetch", [.fetch, .judge]⟩ ∧
    execute .prepared .default .twoSteps Duration.zero twoResponses = (.reported twoReport, ⟨5⟩, []) ∧
    execute (Executor.recorded .prepared) .default .twoSteps Duration.zero (twoResponses, []) =
      (.reported twoReport, ⟨5⟩, [], twoCalls) ∧
    replay ⟨"fetch", [.fetch, .judge]⟩ (State.initial []) twoReport.trace =
      ⟨Dictionary.ofList [("test_passed", .boolean true), ("text", .text "down")]⟩ ∧
    Replayed ⟨"fetch", [.fetch, .judge]⟩ (State.initial []) twoReport := by
  -- The report of the recorded run is the only one.
  obtain ⟨built, ran, heard⟩ := execute_twoSteps
  obtain ⟨_, _, _, _, _, recorded, _, replays⟩ :=
    execute_replays .prepared .default .twoSteps built Duration.zero twoResponses
  rw [heard] at recorded
  cases recorded
  have replayed := replays twoReport rfl
  exact ⟨built, ran, heard, replayed.state.symm, replayed⟩

/-- The calls of a report in the states that its trace alone tells. -/
structure Retraced (graph : Graph) (initial : State) (calls : List Exchange)
    (steps : List TraceEntry) : Prop where
  /-- Each call asks for its entry's node, with the inputs that resolve in the state replayed before it. -/
  asked : ∀ (place : Nat) entry call, steps[place]? = some entry → calls[place]? = some call →
    graph.node? entry.node = some call.node ∧
      resolveInputs call.node (replay graph initial (steps.take place)) = .ok call.inputs
  /-- Each call is answered, and its entry tells what the answer left in the state replayed behind it. -/
  told : ∀ (place : Nat) entry call, steps[place]? = some entry → calls[place]? = some call →
    ∃ delay answer, call.response = .answer delay answer ∧ entry =
      Walk.entryOf (place + 1) call.node (replay graph initial (steps.take (place + 1))) delay answer

/-- The states in a course are those that its trace tells. -/
theorem Course.retraced {graph : Graph} {initial : State} {calls : List Exchange}
    {steps : List TraceEntry} (course : Course graph initial calls steps) :
    Retraced graph initial calls steps := by
  -- The replayed state is the state after as many calls, before a call as well as behind it.
  refine ⟨fun place entry call found foundCall => ?_, fun place entry call found foundCall => ?_⟩
  · have inside := (List.getElem?_eq_some_iff.1 found).1
    rw [course.replay_take place (Nat.le_of_lt inside)]
    exact course.asked place entry call found foundCall
  · have inside := (List.getElem?_eq_some_iff.1 found).1
    rw [course.replay_take (place + 1) inside]
    exact course.told place entry call found foundCall

/-- However a run ends that reports, its calls were made in the states that its trace alone tells. -/
theorem Engine.execute_retraces {σ : Type} (executor : Executor σ) (settings : EngineSettings)
    (definition : Definition) {graph : Graph} (built : Graph.build definition = .ok graph)
    (now : Duration) (world : σ) :
    ∃ ending finished after calls,
      execute executor settings definition now world = (ending, finished, after) ∧
      execute executor.recorded settings definition now (world, []) =
        (ending, finished, after, calls) ∧
      (AllAnswered calls → ∃ result, ending = .reported result) ∧
      ∀ result, ending = .reported result →
        Retraced graph (State.initial definition.stateVariables) calls result.trace := by
  -- The account of the run has a course.
  obtain ⟨ending, finished, after, calls, plain, recorded, either⟩ :=
    execute_recorded executor settings definition built now world
  refine ⟨ending, finished, after, calls, plain, recorded, reports_of_account ?_⟩
  exact either.imp_left fun ⟨result, reported, account⟩ => ⟨result, reported, account.course.retraced⟩

end PipelineTrial
