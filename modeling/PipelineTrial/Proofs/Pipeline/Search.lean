import PipelineTrial.Proofs.Pipeline.Chain

/-! A search from the entry point ends, and the nodes that it lists as unreachable are those off the chain. -/

namespace PipelineTrial

/--
An id is on the chain of transitions from the entry point.

Of several nodes of one id, only the transition of the last one is followed.
-/
inductive Definition.OnChain (definition : Definition) : String → Prop where
  | entry : definition.OnChain definition.entryPoint
  | next {before : List Node} {node : Node} {after : List Node} {target : String} :
      definition.OnChain node.id → definition.nodes = before ++ node :: after →
      (∀ later ∈ after, later.id ≠ node.id) → node.transition = .node target → definition.OnChain target

namespace Graph

variable {graph : Graph}

/-- A search comes from one worklist to another in so many turns. -/
inductive Turns (graph : Graph) : Nat → Worklist → Worklist → Prop where
  | none {work : Worklist} : graph.Turns 0 work work
  | turn {count : Nat} {work next last : Worklist} : graph.turn? work = some next →
      graph.Turns count next last → graph.Turns (count + 1) work last

/-- The turns taken and those left are no more than there were. -/
theorem Turns.add_turnsLeft_le {count : Nat} {work last : Worklist} (turns : graph.Turns count work last) :
    count + graph.turnsLeft last ≤ graph.turnsLeft work := by
  -- Each turn takes one from those left.
  induction turns with
  | none => omega
  | turn turned _ ih =>
    have fewer := turnsLeft_lt_of_turn? turned
    omega

/-- At the start there are no more turns than nodes, and one more. -/
theorem turnsLeft_start_le (graph : Graph) : graph.turnsLeft graph.start ≤ graph.nodes.length + 1 := by
  -- One id is queued, and at most all nodes are unvisited.
  have fewer : (graph.unvisited []).length ≤ graph.nodes.length := List.length_filter_le _ _
  simp only [turnsLeft, start, List.length_singleton]
  omega

/-- A search has no turn left only when its queue is empty. -/
theorem queue_of_turn?_eq_none {work : Worklist} (stops : graph.turn? work = none) : work.queue = [] := by
  -- A queued id is looked at, be it visited or not.
  obtain ⟨_ | ⟨id, queue⟩, visited⟩ := work
  · rfl
  · simp only [turn?] at stops
    split at stops <;> cases stops

/-- Every search comes to an empty queue, with the ids visited that it results in. -/
theorem exists_turns (graph : Graph) (work : Worklist) :
    ∃ count, graph.Turns count work ⟨[], graph.search work⟩ := by
  -- The induction is on the turns of the search.
  fun_induction search graph work with
  | case1 work stops =>
    obtain ⟨queue, visited⟩ := work
    obtain rfl : queue = [] := queue_of_turn?_eq_none stops
    exact ⟨0, .none⟩
  | case2 work next turned ih =>
    obtain ⟨count, turns⟩ := ih
    exact ⟨count + 1, .turn turned turns⟩

/-- A worklist of the search from the entry point: one id is queued, or the chain has been visited. -/
inductive Along (graph : Graph) : Worklist → Prop where
  | onward {visited : List String} {id : String} : graph.Follows visited.reverse →
      graph.visit? visited.length = some id → graph.Along ⟨[id], visited⟩
  | done {visited : List String} : (∀ id, id ∈ visited ↔ ∃ place, graph.visit? place = some id) →
      graph.Along ⟨[], visited⟩

/-- The search starts along the chain. -/
theorem along_start (graph : Graph) : graph.Along graph.start := by
  -- Nothing has been visited before the entry point.
  exact .onward (follows_nil graph) rfl

/-- A turn keeps to the chain. -/
theorem Along.turn {work next : Worklist} (along : graph.Along work) (turned : graph.turn? work = some next) :
    graph.Along next := by
  cases along with
  | done _ => cases turned
  | @onward visited id follows queued =>
    simp only [turn?, List.nil_append] at turned
    split at turned
    · next again =>
      -- The chain comes back to a visited id, so it has shown all its ids.
      cases turned
      refine .done fun other => ?_
      rw [← List.mem_reverse]
      exact follows.mem_iff_of_repeat (List.mem_reverse.2 again) (by rwa [List.length_reverse]) other
    · -- The chain goes on behind the new id, or it ends there.
      cases turned
      have longer : graph.Follows (id :: visited).reverse := by
        rw [List.reverse_cons]
        exact follows.concat (by rwa [List.length_reverse])
      have following : graph.visit? (id :: visited).length = graph.next? id := by
        simp only [List.length_cons, visit?, queued, Option.bind_some]
      cases leads : graph.next? id with
      | some next => exact .onward longer (following.trans leads)
      | none =>
        refine .done fun other => ?_
        rw [← List.mem_reverse]
        exact longer.mem_iff_of_end (by rw [List.length_reverse, following, leads]) other

/-- A search keeps to the chain. -/
theorem Along.turns {count : Nat} {work last : Worklist} (along : graph.Along work)
    (turns : graph.Turns count work last) : graph.Along last := by
  induction turns with
  | none => exact along
  | turn turned _ ih => exact ih (along.turn turned)

/-- A search from the entry point that has emptied its queue has visited the ids of the chain. -/
theorem Turns.mem_visited_iff {count : Nat} {visited : List String}
    (turns : graph.Turns count graph.start ⟨[], visited⟩) (id : String) :
    id ∈ visited ↔ ∃ place, graph.visit? place = some id := by
  cases (along_start graph).turns turns with
  | done all => exact all id

/-- The ids that a run can come to are those on the chain from the entry point. -/
theorem mem_reached_iff (graph : Graph) (id : String) :
    id ∈ graph.reached ↔ ∃ place, graph.visit? place = some id := by
  obtain ⟨_, turns⟩ := graph.exists_turns graph.start
  exact turns.mem_visited_iff id

/-- An id is declared and not listed as unreachable when it is declared and on the chain. -/
theorem not_mem_unreachable_iff {id : String} (declared : id ∈ graph.ids) :
    id ∉ graph.unreachable ↔ ∃ place, graph.visit? place = some id := by
  -- Declared ids are listed unless they are reached.
  have listed : id ∈ graph.unreachable ↔ id ∈ graph.ids ∧ id ∉ graph.reached := by
    simp [unreachable, ids]
  rw [listed, ← mem_reached_iff]
  simp [declared]

/-- The chain of a graph is the chain of its definition. -/
theorem onChain_iff {definition : Definition} {id : String} :
    definition.OnChain id ↔ ∃ place, visit? ⟨definition.entryPoint, definition.nodes⟩ place = some id := by
  constructor
  · intro onChain
    -- Each node on the chain is visited one place behind the one that leads to it.
    induction onChain with
    | entry => exact ⟨0, rfl⟩
    | @next before node after target _ declared last leads ih =>
      obtain ⟨place, visited⟩ := ih
      have named : node? ⟨definition.entryPoint, definition.nodes⟩ node.id = some node :=
        node?_eq_some_iff.2 ⟨rfl, before, after, declared, last⟩
      exact ⟨place + 1, Option.bind_eq_some_iff.2 ⟨_, visited, next?_eq_some_iff.2 ⟨node, named, leads⟩⟩⟩
  · rintro ⟨place, visited⟩
    -- The node at a place is led to by the one before it.
    induction place generalizing id with
    | zero =>
      cases visited
      exact .entry
    | succ place ih =>
      obtain ⟨earlier, visitedBefore, follows⟩ := Option.bind_eq_some_iff.1 visited
      obtain ⟨node, named, leads⟩ := next?_eq_some_iff.1 follows
      obtain ⟨rfl, before, after, declared, last⟩ := node?_eq_some_iff.1 named
      exact .next (ih visitedBefore) declared last leads

/-- What the search of a graph comes to. -/
structure SearchesChain (definition : Definition) (graph : Graph) [DecidablePred definition.OnChain] : Prop where
  /-- A search takes a turn for each node at most, and one more when the chain comes back to an id. -/
  bounded : ∀ count work, graph.Turns count graph.start work → count ≤ definition.nodes.length + 1
  /-- The search ends with an empty queue, and what it lists are the ids that it has not visited. -/
  ends : ∃ count visited, graph.Turns count graph.start ⟨[], visited⟩ ∧
    (∀ id, id ∈ visited ↔ definition.OnChain id) ∧
    graph.unreachable = (definition.nodes.map (·.id)).filter fun id => id ∉ visited
  listed : graph.unreachable = (definition.nodes.filter fun node => ¬definition.OnChain node.id).map (·.id)

/--
The search of every graph that builds ends, along chains that come back to an id as well as along others.

It lists, in declaration order, exactly the declared nodes whose id is not on the chain from the entry point.
-/
theorem unreachable_offChain {definition : Definition} {graph : Graph} (built : build definition = .ok graph)
    [DecidablePred definition.OnChain] : SearchesChain definition graph := by
  obtain ⟨_, rfl⟩ := build_eq_ok_iff.1 built
  refine ⟨fun count work turns => ?_, ?_, ?_⟩
  · -- Each turn lowers what is left, which is bounded from the start.
    have few := turns.add_turnsLeft_le
    have most := turnsLeft_start_le ⟨definition.entryPoint, definition.nodes⟩
    show count ≤ (nodes ⟨definition.entryPoint, definition.nodes⟩).length + 1
    omega
  · obtain ⟨count, turns⟩ := exists_turns _ (start ⟨definition.entryPoint, definition.nodes⟩)
    exact ⟨count, _, turns, fun id => (turns.mem_visited_iff id).trans onChain_iff.symm, rfl⟩
  · have same (id : String) : id ∉ reached ⟨definition.entryPoint, definition.nodes⟩ ↔ ¬definition.OnChain id := by
      rw [mem_reached_iff, onChain_iff]
    simp [unreachable, same, List.filter_map, Function.comp_def]

end Graph

/-- A pipeline with a chain that comes back, past a node that is shadowed; what the shadowed node leads to is not on it. -/
def Definition.shadowed : Definition :=
  -- The last node leads to the chain, but nothing on the chain leads to it.
  ⟨"shadowed", none, [], "enter",
    [⟨"enter", .code "", [], [], Dictionary.empty, .abort, .node "work"⟩,
      ⟨"work", .code "", [], [], Dictionary.empty, .abort, .node "lost"⟩,
      ⟨"lost", .code "", [], [], Dictionary.empty, .abort, .node "lost"⟩,
      ⟨"work", .code "", [], [], Dictionary.empty, .abort, .node "enter"⟩,
      ⟨"lost", .code "", [], [], Dictionary.empty, .abort, .node "work"⟩]⟩

/-- The search ends on a chain that comes back, and it lists an id twice that only a shadowed node leads to. -/
theorem Graph.unreachable_offChain_shadowed :
    build .shadowed = .ok ⟨"enter", Definition.shadowed.nodes⟩ ∧
      unreachable ⟨"enter", Definition.shadowed.nodes⟩ = ["lost", "lost"] ∧
      (∀ count work, Turns ⟨"enter", Definition.shadowed.nodes⟩ count ⟨["enter"], []⟩ work → count ≤ 6) ∧
      Definition.shadowed.OnChain "work" ∧ ¬Definition.shadowed.OnChain "lost" := by
  let _ : DecidablePred Definition.shadowed.OnChain := Classical.decPred _
  -- The search comes to both nodes of the loop, and to no other.
  have builds : build .shadowed = .ok ⟨"enter", Definition.shadowed.nodes⟩ := rfl
  have searched := unreachable_offChain builds
  have visits : reached ⟨"enter", Definition.shadowed.nodes⟩ = ["work", "enter"] := by decide +kernel
  have lists : unreachable ⟨"enter", Definition.shadowed.nodes⟩ = ["lost", "lost"] := by
    rw [unreachable, visits]
    rfl
  refine ⟨builds, lists, searched.bounded, ?_, fun onChain => ?_⟩
  · exact @Definition.OnChain.next _ [] _ _ _ .entry rfl (by decide) rfl
  · -- What is listed is off the chain.
    have found : "lost" ∈ unreachable ⟨"enter", Definition.shadowed.nodes⟩ := by simp [lists]
    rw [searched.listed] at found
    obtain ⟨node, member, named⟩ := List.mem_map.1 found
    simp [named, onChain] at member

end PipelineTrial
