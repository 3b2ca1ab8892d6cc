import PipelineTrial.Pipeline.Definition
import PipelineTrial.Pipeline.Error

/-! The graph of a pipeline: nodes by id, with an entry point and transitions that lead to nodes. -/

namespace PipelineTrial

/-- A graph of nodes, in which the last node of an id is the one that the id names. -/
structure Graph where
  entryPoint : String
  nodes : List Node

/-- The ids that a search is still to look at, the next one first, and those that it has visited. -/
structure Worklist where
  queue : List String
  visited : List String

namespace Graph

/-- The last node with an id. -/
def node? (graph : Graph) (id : String) : Option Node :=
  -- Later nodes shadow earlier ones.
  graph.nodes.reverse.find? (·.id = id)

/-- The number of declared nodes, repeated ids included. -/
def size (graph : Graph) : Nat := graph.nodes.length

/-- Whether no node is declared. -/
def isEmpty (graph : Graph) : Bool := graph.nodes.isEmpty

/-- The id that follows an id. -/
def next? (graph : Graph) (id : String) : Option String :=
  -- Only a named node has a transition, and the last one leads nowhere.
  (graph.node? id).bind (·.transition.target?)

/-- Whether an id is the id of some node. -/
def declares (nodes : List Node) (id : String) : Bool :=
  -- Position does not matter.
  nodes.any (·.id = id)

/-- The first transition, in declaration order, that leads to no node. -/
def firstDangling? (nodes : List Node) : Option GraphError :=
  -- Finishing transitions lead nowhere on purpose.
  nodes.findSome? fun node =>
    match node.transition with
    | .node target =>
      if declares nodes target then none else some (.danglingTransition node.id target)
    | .finish => none

/-- The graph of a definition whose entry point and transitions all lead to nodes. -/
def build (definition : Definition) : Except GraphError Graph :=
  -- The entry point is checked before the transitions.
  if declares definition.nodes definition.entryPoint then
    match firstDangling? definition.nodes with
    | some error => .error error
    | none => .ok ⟨definition.entryPoint, definition.nodes⟩
  else .error (.missingEntryPoint definition.entryPoint)

/-- One turn of a search looks at the first queued id; with an empty queue no turn is left. -/
def turn? (graph : Graph) : Worklist → Option Worklist
  | ⟨[], _⟩ => none
  | ⟨id :: queue, visited⟩ =>
    -- A visited id is passed over, and what follows a new one queues up behind all others.
    if id ∈ visited then some ⟨queue, visited⟩
    else some ⟨queue ++ (graph.next? id).toList, id :: visited⟩

/-- The nodes whose id is not among visited ones. -/
def unvisited (graph : Graph) (visited : List String) : List Node :=
  graph.nodes.filter fun node => node.id ∉ visited

/-- A bound on the turns that a search has left. -/
def turnsLeft (graph : Graph) (work : Worklist) : Nat :=
  -- Only a turn that visits nodes for the first time puts an id into the queue.
  work.queue.length + (graph.unvisited work.visited).length

/-- A visit leaves the nodes that were unvisited before it, but for those of its id. -/
theorem unvisited_cons (graph : Graph) (id : String) (visited : List String) :
    graph.unvisited (id :: visited) = (graph.unvisited visited).filter (·.id ≠ id) := by
  simp [unvisited, List.filter_filter]

/-- An id that another follows is the id of a node. -/
theorem exists_id_of_next? {graph : Graph} {id following : String} (leads : graph.next? id = some following) :
    ∃ node ∈ graph.nodes, node.id = id := by
  -- The transition is that of the last node with this id.
  obtain ⟨node, found, _⟩ := Option.bind_eq_some_iff.1 leads
  exact ⟨node, List.mem_reverse.1 (List.mem_of_find?_eq_some found), by simpa using List.find?_some found⟩

/-- The first visit of an id that another follows leaves fewer nodes unvisited. -/
theorem length_unvisited_lt {graph : Graph} {id following : String} {visited : List String}
    (fresh : id ∉ visited) (leads : graph.next? id = some following) :
    (graph.unvisited (id :: visited)).length < (graph.unvisited visited).length := by
  -- Some node has that id.
  obtain ⟨node, member, rfl⟩ := exists_id_of_next? leads
  rw [unvisited_cons, List.length_filter_lt_length_iff_exists]
  exact ⟨node, by simp [unvisited, member, fresh], by simp⟩

/-- Each turn leaves fewer turns than there were. -/
theorem turnsLeft_lt_of_turn? {graph : Graph} {work next : Worklist} (turned : graph.turn? work = some next) :
    graph.turnsLeft next < graph.turnsLeft work := by
  -- What comes into the queue is paid for by the nodes that are visited.
  obtain ⟨_ | ⟨id, queue⟩, visited⟩ := work
  · cases turned
  · simp only [turn?] at turned
    split at turned
    · cases turned
      simp [turnsLeft]
    · next fresh =>
      cases turned
      cases leads : graph.next? id with
      | none =>
        have noMore : (graph.unvisited (id :: visited)).length ≤ (graph.unvisited visited).length := by
          rw [unvisited_cons]
          exact List.length_filter_le _ _
        simp only [turnsLeft, Option.toList_none, List.append_nil, List.length_cons]
        omega
      | some following =>
        have fewer := length_unvisited_lt fresh leads
        simp only [turnsLeft, Option.toList_some, List.length_append, List.length_cons, List.length_nil]
        omega

/-- The ids that a search has visited when its queue is empty. -/
def search (graph : Graph) (work : Worklist) : List String :=
  -- A turn is taken as long as there is one.
  match _ : graph.turn? work with
  | none => work.visited
  | some next => graph.search next
termination_by graph.turnsLeft work
decreasing_by exact turnsLeft_lt_of_turn? ‹_›

/-- The worklist of a search that is about to visit the entry point. -/
def start (graph : Graph) : Worklist := ⟨[graph.entryPoint], []⟩

/-- The ids that a run from the entry point can come to. -/
def reached (graph : Graph) : List String := graph.search graph.start

/-- The ids of nodes that no run can come to, in declaration order. -/
def unreachable (graph : Graph) : List String :=
  -- Repeated ids are listed as often as they are declared.
  (graph.nodes.map (·.id)).filter fun id => id ∉ graph.reached

end Graph

end PipelineTrial
