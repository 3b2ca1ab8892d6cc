import PipelineTrial.Pipeline.Graph

/-! A graph builds when its entry point and its transitions lead to nodes, and then none of them ever misses. -/

namespace PipelineTrial

/-- An id is the id of a declared node. -/
def Definition.Declares (definition : Definition) (id : String) : Prop :=
  -- Several nodes may have it.
  ∃ node ∈ definition.nodes, node.id = id

/-- A node's transition finishes the run or leads to a declared node. -/
def Definition.LeadsOn (definition : Definition) (node : Node) : Prop :=
  -- The target may be the node itself.
  ∀ target, node.transition = .node target → definition.Declares target

/-- The entry point and all transitions of a definition lead to declared nodes. -/
structure Definition.Linked (definition : Definition) : Prop where
  entry : definition.Declares definition.entryPoint
  onward : ∀ node ∈ definition.nodes, definition.LeadsOn node

/-- The first reference of a definition that leads nowhere: its entry point, or a transition in declaration order. -/
inductive Definition.Misses (definition : Definition) : GraphError → Prop where
  | entry : ¬definition.Declares definition.entryPoint →
      definition.Misses (.missingEntryPoint definition.entryPoint)
  | target {before : List Node} {node : Node} {after : List Node} {target : String} :
      definition.Declares definition.entryPoint → definition.nodes = before ++ node :: after →
      (∀ earlier ∈ before, definition.LeadsOn earlier) → node.transition = .node target →
      ¬definition.Declares target → definition.Misses (.danglingTransition node.id target)

namespace Graph

/-- The node found under an id has that id. -/
theorem node?_id {graph : Graph} {id : String} {node : Node} (found : graph.node? id = some node) :
    node.id = id := by
  -- The search tests the id.
  simpa using List.find?_some found

/-- An id names the last node that is declared with it. -/
theorem node?_eq_some_iff {graph : Graph} {id : String} {node : Node} :
    graph.node? id = some node ↔ node.id = id ∧ ∃ before after, graph.nodes = before ++ node :: after ∧
      ∀ later ∈ after, later.id ≠ id := by
  -- The search from the end passes the nodes behind it.
  rw [node?, List.find?_eq_some_iff_append]
  simp only [decide_eq_true_eq, Bool.not_eq_true', decide_eq_false_iff_not]
  refine and_congr_right fun _ => ⟨?_, ?_⟩
  · rintro ⟨passed, rest, same, others⟩
    refine ⟨rest.reverse, passed.reverse, ?_, fun later member => others later (List.mem_reverse.1 member)⟩
    simpa using congrArg List.reverse same
  · rintro ⟨before, after, same, others⟩
    refine ⟨after.reverse, before.reverse, ?_, fun later member => others later (List.mem_reverse.1 member)⟩
    simp [same]

/-- An id follows another exactly when the node of the other leads to it. -/
theorem next?_eq_some_iff {graph : Graph} {id following : String} : graph.next? id = some following ↔
    ∃ node, graph.node? id = some node ∧ node.transition = .node following := by
  rw [next?, Option.bind_eq_some_iff]
  refine exists_congr fun node => and_congr_right fun _ => ?_
  cases node.transition <;> simp [Transition.target?]

/-- An id that is declared names a node. -/
theorem node?_of_declares {graph : Graph} {id : String} (declared : declares graph.nodes id = true) :
    ∃ node, graph.node? id = some node := by
  -- The search from the last node on comes to some node of that id.
  obtain ⟨node, member, named⟩ := List.any_eq_true.1 declared
  exact Option.isSome_iff_exists.1 (List.find?_isSome.2 ⟨node, List.mem_reverse.2 member, named⟩)

/-- An id is looked for among the ids of all nodes. -/
theorem declares_iff {definition : Definition} {id : String} :
    declares definition.nodes id = true ↔ definition.Declares id := by
  -- Position does not matter.
  simp [declares, Definition.Declares]

/-- The search for a dangling transition stops at the first node that does not lead on. -/
theorem firstDangling?_eq_some_iff {definition : Definition} {error : GraphError} :
    firstDangling? definition.nodes = some error ↔
      ∃ before node after target, definition.nodes = before ++ node :: after ∧
        (∀ earlier ∈ before, definition.LeadsOn earlier) ∧ node.transition = .node target ∧
        ¬definition.Declares target ∧ error = .danglingTransition node.id target := by
  -- A node is passed exactly when it leads on.
  rw [firstDangling?, List.findSome?_eq_some_iff]
  constructor
  · rintro ⟨before, node, after, same, found, passed⟩
    have fine : ∀ earlier ∈ before, definition.LeadsOn earlier := by
      intro earlier member target leads
      simpa [leads, declares_iff] using passed earlier member
    cases transition : node.transition with
    | finish => simp [transition] at found
    | node target =>
      simp only [transition] at found
      split at found
      · cases found
      · next missing =>
        cases found
        exact ⟨before, node, after, target, same, fine, transition, mt declares_iff.2 missing, rfl⟩
  · rintro ⟨before, node, after, target, same, fine, transition, missing, rfl⟩
    refine ⟨before, node, after, same, ?_, fun earlier member => ?_⟩
    · simp [transition, declares_iff, missing]
    · cases leads : earlier.transition with
      | finish => rfl
      | node other => simp [declares_iff, fine earlier member other leads]

/-- No dangling transition is found exactly when every node leads on. -/
theorem firstDangling?_eq_none_iff {definition : Definition} :
    firstDangling? definition.nodes = none ↔ ∀ node ∈ definition.nodes, definition.LeadsOn node := by
  rw [firstDangling?, List.findSome?_eq_none_iff]
  refine forall₂_congr fun node _ => ?_
  unfold Definition.LeadsOn
  cases node.transition with
  | finish => simp
  | node target => simp [declares_iff]

/-- A graph builds exactly when its definition is linked, and it consists of all declared nodes. -/
theorem build_eq_ok_iff {definition : Definition} {graph : Graph} :
    build definition = .ok graph ↔
      definition.Linked ∧ graph = ⟨definition.entryPoint, definition.nodes⟩ := by
  -- The entry point is checked before the transitions.
  unfold build
  split
  · next found =>
    have declared := declares_iff.1 found
    cases found : firstDangling? definition.nodes with
    | some error =>
      have broken : ¬definition.Linked := by
        intro linked
        rw [firstDangling?_eq_none_iff.2 linked.onward] at found
        cases found
      simp [broken]
    | none =>
      have linked : definition.Linked := ⟨declared, firstDangling?_eq_none_iff.1 found⟩
      simp [linked, eq_comm]
  · next missing =>
    have broken : ¬definition.Linked := fun linked => missing (declares_iff.2 linked.entry)
    simp [broken]

/-- The first reference that leads nowhere is the entry point, or the first dangling transition behind it. -/
theorem misses_iff {definition : Definition} {error : GraphError} :
    definition.Misses error ↔
      (¬definition.Declares definition.entryPoint ∧ error = .missingEntryPoint definition.entryPoint) ∨
      (definition.Declares definition.entryPoint ∧ firstDangling? definition.nodes = some error) := by
  -- The entry point comes before all transitions.
  rw [firstDangling?_eq_some_iff]
  constructor
  · intro misses
    cases misses with
    | entry missing => exact .inl ⟨missing, rfl⟩
    | target declared same fine transition missing =>
      exact .inr ⟨declared, _, _, _, _, same, fine, transition, missing, rfl⟩
  · rintro (⟨missing, rfl⟩ | ⟨declared, _, _, _, _, same, fine, transition, missing, rfl⟩)
    · exact .entry missing
    · exact .target declared same fine transition missing

/-- A graph that does not build fails with the first reference that leads nowhere. -/
theorem build_eq_error_iff {definition : Definition} {error : GraphError} :
    build definition = .error error ↔ definition.Misses error := by
  -- The entry point is checked before the transitions.
  rw [misses_iff]
  unfold build
  split
  · next found =>
    have declared := declares_iff.1 found
    cases firstDangling? definition.nodes <;> simp [declared]
  · next missing =>
    have undeclared := mt declares_iff.2 missing
    simp [undeclared, eq_comm]

/-- Every id that a run can come to names a node. -/
structure Linked (graph : Graph) : Prop where
  entry : ∃ node, graph.node? graph.entryPoint = some node
  onward : ∀ id following, graph.next? id = some following → ∃ node, graph.node? following = some node

/-- A graph that builds is linked. -/
theorem linked_of_build {definition : Definition} {graph : Graph}
    (built : build definition = .ok graph) : graph.Linked := by
  -- The build has checked the entry point and the target of every declared node.
  obtain ⟨linked, rfl⟩ := build_eq_ok_iff.1 built
  refine ⟨node?_of_declares (declares_iff.2 linked.entry), ?_⟩
  intro id following leads
  obtain ⟨node, found, transition⟩ := next?_eq_some_iff.1 leads
  have member : node ∈ definition.nodes := List.mem_reverse.1 (List.mem_of_find?_eq_some found)
  exact node?_of_declares (declares_iff.2 (linked.onward node member following transition))

end Graph

end PipelineTrial
