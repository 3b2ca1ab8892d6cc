import PipelineTrial.Proofs.Pipeline.Search
import PipelineTrial.Proofs.Run.Account

/-! A run follows the chain of its graph: one that completes comes to each id of the chain once, and to no other. -/

namespace PipelineTrial

/-- The ids of the nodes that were executed, in order. -/
def executedIds (steps : List TraceEntry) : List String :=
  -- An id stands as often as its node was executed.
  steps.map (·.node)

/-- The number of different ids that nodes are declared with. -/
def Definition.idCount (definition : Definition) : Nat := (definition.nodes.map (·.id)).dedup.length

section Course

variable {graph : Graph} {initial : State} {calls : List Exchange} {steps : List TraceEntry}

/-- The executed ids follow the chain from the entry point. -/
theorem Course.follows (course : Course graph initial calls steps) : graph.Follows (executedIds steps) := by
  -- Each later entry is where the transition before it leads.
  intro place id found
  induction place generalizing id with
  | zero =>
    obtain ⟨entry, entered, rfl⟩ := Option.map_eq_some_iff.1 (List.getElem?_map ▸ found)
    rw [course.entered entry entered]
    rfl
  | succ place ih =>
    obtain ⟨following, foundFollowing, rfl⟩ := Option.map_eq_some_iff.1 (List.getElem?_map ▸ found)
    obtain ⟨inside, _⟩ := List.getElem?_eq_some_iff.1 foundFollowing
    have foundEntry : steps[place]? = some steps[place] := List.getElem?_eq_getElem (by omega)
    have visited : graph.visit? place = some steps[place].node :=
      ih _ (by simp [executedIds, foundEntry])
    rw [Graph.visit?, visited]
    exact course.led place _ following foundEntry foundFollowing

/-- The last executed id stands on the chain at the place before the number of steps. -/
theorem Course.visit?_last (course : Course graph initial calls steps) {last : TraceEntry}
    (final : steps.getLast? = some last) :
    graph.visit? (executedIds steps).length = graph.next? last.node := by
  -- A course with a last step has at least one.
  rw [List.getLast?_eq_getElem?] at final
  obtain ⟨inside, _⟩ := List.getElem?_eq_some_iff.1 final
  obtain ⟨before, length⟩ : ∃ before, steps.length = before + 1 := ⟨steps.length - 1, by omega⟩
  simp only [length, Nat.add_sub_cancel] at final
  have visited : graph.visit? before = some last.node :=
    course.follows before _ (by simp [executedIds, final])
  rw [executedIds, List.length_map, length, Graph.visit?, visited]
  rfl

/-- An id that remains after a course comes next on the chain. -/
theorem Course.visit?_of_remaining? (course : Course graph initial calls steps) {next : String}
    (comes : remaining? graph steps = some next) :
    graph.visit? (executedIds steps).length = some next := by
  -- It is the entry point, or the transition of the last step leads to it.
  cases final : steps.getLast? with
  | none =>
    rw [List.getLast?_eq_none_iff.1 final] at comes ⊢
    exact comes
  | some last =>
    rw [course.visit?_last final]
    exact (Course.last_of_remaining? comes final).2

/-- Nothing comes after a course that has arrived. -/
theorem Course.visit?_of_arrived (course : Course graph initial calls steps) (arrived : Arrived graph steps) :
    graph.visit? (executedIds steps).length = none := by
  -- The node of its last step finishes the run.
  obtain ⟨last, node, final, _, named, finishes⟩ := arrived
  rw [course.visit?_last final]
  simp [Graph.next?, named, finishes, Transition.target?]

end Course

/-- The chain of a graph in which a run has arrived reaches the end. -/
theorem Account.reachesEnd {graph : Graph} {limit : Nat} {initial : State} {calls : List Exchange}
    {result : PipelineResult} (account : Account graph limit initial calls result)
    (completed : result.error = none) : graph.ReachesEnd := by
  -- The last step is at the node that finishes the run.
  obtain ⟨last, node, final, _, named, finishes⟩ := account.arrived.1 completed
  rw [List.getLast?_eq_getElem?] at final
  exact ⟨_, last.node, node, account.course.follows (result.trace.length - 1) _
    (by simp [executedIds, final]), named, finishes⟩

/-- The steps of a run that completes: no id twice, and all ids of the chain. -/
structure VisitsOnce (definition : Definition) (graph : Graph) (steps : List TraceEntry) : Prop where
  distinct : (executedIds steps).Nodup
  bounded : steps.length ≤ definition.idCount
  /-- What is executed is what is declared and not listed as unreachable. -/
  covers : ∀ id, id ∈ executedIds steps ↔ definition.Declares id ∧ id ∉ graph.unreachable

section Accounts

variable {definition : Definition} {graph : Graph} {limit : Nat} {initial : State} {calls : List Exchange}
  {result : PipelineResult}

/-- A run that completes executes each id of the chain once. -/
theorem Account.visitsOnce (built : Graph.build definition = .ok graph)
    (account : Account graph limit initial calls result) (completed : result.error = none) :
    VisitsOnce definition graph result.trace := by
  -- Its ids follow the chain to the end.
  have linked := Graph.linked_of_build built
  obtain ⟨_, rfl⟩ := Graph.build_eq_ok_iff.1 built
  have follows := account.course.follows
  have ended := account.course.visit?_of_arrived (account.arrived.1 completed)
  refine ⟨follows.nodup ended, ?_, fun id => ?_⟩
  · have few : (executedIds result.trace).length ≤ definition.idCount :=
      linked.length_le_of_follows follows (account.reachesEnd completed)
    rwa [executedIds, List.length_map] at few
  · have declared_iff : definition.Declares id ↔
        id ∈ Graph.ids ⟨definition.entryPoint, definition.nodes⟩ := List.mem_map.symm
    rw [follows.mem_iff_of_end ended, declared_iff]
    constructor
    · rintro ⟨place, visited⟩
      obtain ⟨node, named⟩ := linked.named visited
      have declared := Graph.mem_ids_of_node? named
      exact ⟨declared, (Graph.not_mem_unreachable_iff declared).2 ⟨place, visited⟩⟩
    · rintro ⟨declared, listed⟩
      exact (Graph.not_mem_unreachable_iff declared).1 listed

/-- A run exhausts a limit of at least the number of different ids only when its chain never reaches the end. -/
theorem Account.not_reachesEnd (built : Graph.build definition = .ok graph)
    (account : Account graph limit initial calls result) (enough : definition.idCount ≤ limit)
    {count : Nat} (exceeded : result.error = some (.stepLimit count)) : ¬graph.ReachesEnd := by
  -- With the id that remains, one more id has been visited than there are different ones.
  intro ends
  have linked := Graph.linked_of_build built
  obtain ⟨_, rfl⟩ := Graph.build_eq_ok_iff.1 built
  obtain ⟨rfl, ⟨next, comes⟩, full⟩ := (account.exhausted count).1 exceeded
  have follows := account.course.follows.concat (account.course.visit?_of_remaining? comes)
  have few : (executedIds result.trace ++ [next]).length ≤ definition.idCount :=
    linked.length_le_of_follows follows ends
  simp only [executedIds, List.length_append, List.length_map, List.length_singleton, full] at few
  omega

end Accounts

namespace Engine

/-- A report of a run accounts for the calls of the run when it is recorded. -/
theorem account_of_execute {σ : Type} {executor : Executor σ} {settings : EngineSettings}
    {definition : Definition} {graph : Graph} (built : Graph.build definition = .ok graph)
    {now finished : Duration} {world after : σ} {result : PipelineResult}
    (ran : execute executor settings definition now world = (.reported result, finished, after)) :
    ∃ calls, Account graph settings.maxSteps (State.initial definition.stateVariables) calls result := by
  -- Recording changes nothing about the run.
  obtain ⟨ending, _, _, calls, plain, _, either⟩ := execute_recorded executor settings definition built now world
  rw [ran] at plain
  cases plain
  rcases either with ⟨_, same, account⟩ | ⟨silent, _⟩
  · cases same
    exact ⟨calls, account⟩
  · exact absurd rfl (silent result)

/--
A run that completes executes no id twice, and executes exactly the declared ids that are not listed as unreachable.

When at least as many steps are allowed as there are different ids, only a chain that never reaches the end exceeds the
limit, and no run along such a chain completes, whatever its nodes answer and however many steps it is allowed.
-/
theorem execute_visits_once (definition : Definition) {graph : Graph}
    (built : Graph.build definition = .ok graph) :
    (∀ (σ : Type) (executor : Executor σ) (settings : EngineSettings) (now finished : Duration)
        (world after : σ) (result : PipelineResult),
      execute executor settings definition now world = (.reported result, finished, after) →
        (result.error = none → VisitsOnce definition graph result.trace) ∧
        (definition.idCount ≤ settings.maxSteps → ∀ count, result.error = some (.stepLimit count) →
          ¬graph.ReachesEnd)) ∧
    (¬graph.ReachesEnd →
      ∀ (σ : Type) (executor : Executor σ) (settings : EngineSettings) (now finished : Duration)
        (world after : σ) (result : PipelineResult),
      execute executor settings definition now world = (.reported result, finished, after) →
        result.error ≠ none) := by
  -- Each run is accounted for, and its account follows the chain.
  constructor
  · intro σ executor settings now finished world after result ran
    obtain ⟨calls, account⟩ := account_of_execute built ran
    exact ⟨account.visitsOnce built, fun enough count => account.not_reachesEnd built enough⟩
  · intro endless σ executor settings now finished world after result ran completed
    obtain ⟨calls, account⟩ := account_of_execute built ran
    exact endless (account.reachesEnd completed)

end Engine

/-- A pipeline whose second node leads back to itself, and whose third node is never reached. -/
def Definition.spinning : Definition :=
  -- The third node would finish the run.
  ⟨"spinning", none, [], "enter",
    [⟨"enter", .code "", [], [], Dictionary.empty, .abort, .node "spin"⟩,
      ⟨"spin", .code "", [], [], Dictionary.empty, .capture, .node "spin"⟩,
      ⟨"leave", .code "", [], [], Dictionary.empty, .abort, .finish⟩]⟩

/-- Two linked nodes are each executed once, and three steps of a loop show that no run of it completes. -/
theorem Engine.execute_visits_once_spinning :
    (∃ result finished after, execute .prepared .default .twoSteps Duration.zero
        [.answer ⟨5⟩ (.error (.toolInvocation "down")), .answer ⟨0⟩ (.ok (.boolean true))] =
        (.reported result, finished, after) ∧ result.error = none ∧
      VisitsOnce .twoSteps ⟨"fetch", Definition.twoSteps.nodes⟩ result.trace) ∧
    Definition.spinning.idCount = 3 ∧
    ∀ (σ : Type) (executor : Executor σ) (settings : EngineSettings) (now finished : Duration)
        (world after : σ) (result : PipelineResult),
      execute executor settings .spinning now world = (.reported result, finished, after) →
        result.error ≠ none := by
  -- One run completes, and the other takes as many steps as there are nodes.
  have completes : execute .prepared .default .twoSteps Duration.zero
      [.answer ⟨5⟩ (.error (.toolInvocation "down")), .answer ⟨0⟩ (.ok (.boolean true))] =
      (.reported _, _, _) := rfl
  have exceeds : execute .prepared ⟨3, defaultVerdictKey⟩ .spinning Duration.zero
      [.answer ⟨0⟩ (.ok .null), .answer ⟨0⟩ (.error (.codeEvaluation "odd")), .answer ⟨0⟩ (.ok .null)] =
      (.reported _, _, _) := rfl
  have builds : Graph.build .spinning = .ok ⟨"enter", Definition.spinning.nodes⟩ := rfl
  have endless := ((execute_visits_once .spinning builds).1 _ _ _ _ _ _ _ _ exceeds).2 (by decide) 3 rfl
  exact ⟨⟨_, _, _, completes, rfl,
      ((execute_visits_once .twoSteps rfl).1 _ _ _ _ _ _ _ _ completes).1 rfl⟩,
    by decide, (execute_visits_once .spinning builds).2 endless⟩

end PipelineTrial
