import PipelineTrial.Proofs.Pipeline.WellFormed
import PipelineTrial.Proofs.Run.Account
import PipelineTrial.Proofs.Yaml.Equality

/-! A transition that is written like the id of a node leads to that node, unless it is the finishing word. -/

namespace PipelineTrial

/-- An item of the node list of a document, and the node that stands at its place in a definition. -/
structure Definition.NodeAt (root : Yaml) (definition : Definition) (index : Nat) (item : Yaml) (node : Node) :
    Prop where
  item : ∃ items, Yaml.lookup "nodes" root.fields = some (.sequence items) ∧ items[index]? = some item
  node : definition.nodes[index]? = some node

/-- One text is written as the transition of an item and as the id of another. -/
structure Yaml.RefersTo (source target : Yaml) (text : String) : Prop where
  transition : ∃ value, Yaml.lookup "transition" source.fields = some value ∧ value.scalarText? = some text
  id : ∃ value, Yaml.lookup "id" target.fields = some value ∧ value.scalarText? = some text

/-- A graph has two nodes, of which the first leads to the second unless its failure stops the walk. -/
structure Graph.MovesOn (graph : Graph) (source target : Node) : Prop where
  left : graph.node? source.id = some source
  reached : graph.node? target.id = some target
  next : graph.next? source.id = some target.id
  onward : ∀ (walk : Walk) (elapsed : Duration) (answer : Except NodeError Json),
    (∃ error, answer = .error error ∧ source.errorPolicy = .abort) ∨
      walk.receive source elapsed answer = .onward (walk.advance source elapsed answer target.id)

/-- A run that comes to one id goes on to another, and does not complete before it has. -/
structure PipelineResult.MovesOn (result : PipelineResult) (source target : String) : Prop where
  following : ∀ (place : Nat) (entry after : TraceEntry), result.trace[place]? = some entry →
    entry.node = source → result.trace[place + 1]? = some after → after.node = target
  incomplete : ∀ last, result.trace.getLast? = some last → last.node = source → result.error ≠ none

/-- A node of a definition leads to another: as it is parsed, in the graph, and in every run. -/
structure Definition.LeadsTo (definition : Definition) (source target : Node) : Prop where
  transition : source.transition = .node target.id
  resolved : ∀ missing, Graph.build definition ≠ .error (.danglingTransition source.id missing)
  graph : ∀ graph, Graph.build definition = .ok graph → graph.MovesOn source target
  runs : ∀ (σ : Type) (executor : Executor σ) (settings : EngineSettings) (now finished : Duration)
    (world after : σ) (result : PipelineResult),
      Engine.execute executor settings definition now world = (.reported result, finished, after) →
        result.MovesOn source.id target.id

/-- The text of a scalar is that of its field. -/
theorem optionalText_of_scalarText? {fields : DocumentFields} {name text : String} {value : Yaml}
    (found : Yaml.lookup name fields = some value) (scalar : value.scalarText? = some text) :
    optionalText fields name = .ok (some text) := by
  -- Each scalar counts for its text, and nothing else has one.
  unfold optionalText
  rw [found]
  cases value <;> cases scalar <;> rfl

/-- The transition in a field is parsed from the text of its scalar. -/
theorem optionalTransition_of_scalarText? {fields : DocumentFields} {text : String} {value : Yaml}
    (found : Yaml.lookup "transition" fields = some value) (scalar : value.scalarText? = some text) :
    optionalTransition fields = .ok (.parse text) := by
  rw [optionalTransition, optionalText_of_scalarText? found scalar]
  rfl

/-- A text without blanks at its ends is the target of its transition, unless it is the finishing word. -/
theorem Transition.parse_of_trimmed {raw : String} (trimmed : trimBlanks raw = raw)
    (other : raw ≠ Transition.finishWord) : Transition.parse raw = .node raw := by
  simp only [Transition.parse, trimmed, if_neg other]

section Definitions

variable {root sourceItem targetItem : Yaml} {definition : Definition} {i j : Nat} {source target node : Node}
  {graph : Graph} {text : String}

/-- The node at a place is read from the item at that place. -/
theorem Definition.NodeAt.readsNode {item : Yaml} (here : definition.NodeAt root i item node)
    (converted : convertDocument root = .ok definition) : ReadsNode item.fields node := by
  -- The document has one list of nodes, and its items are read one by one.
  obtain ⟨items, listed, found⟩ := here.item
  obtain ⟨read, same, _, nodes⟩ := (readsDefinition_of_convertDocument converted).nodes
  rw [same] at listed
  cases listed
  have both := rel_getElem?_of_forall₂ (forall₂_of_convertNodes nodes) i
  rw [found, here.node] at both
  cases both with
  | some reads => exact readsNode_of_convertNode reads

/-- Each node of a definition stands at the place of an item. -/
theorem Definition.exists_nodeAt (converted : convertDocument root = .ok definition)
    (there : definition.nodes[i]? = some node) : ∃ item, definition.NodeAt root i item node := by
  obtain ⟨items, listed, _, nodes⟩ := (readsDefinition_of_convertDocument converted).nodes
  have both := rel_getElem?_of_forall₂ (forall₂_of_convertNodes nodes) i
  rw [there] at both
  obtain ⟨item, found, _⟩ := exists_of_rel both
  exact ⟨item, ⟨items, listed, found⟩, there⟩

/-- A node whose item refers to another has the transition that is parsed from the id of the other. -/
theorem Yaml.RefersTo.transition_eq (refers : sourceItem.RefersTo targetItem text)
    (converted : convertDocument root = .ok definition) (leaves : definition.NodeAt root i sourceItem source)
    (enters : definition.NodeAt root j targetItem target) : target.id = text ∧ source.transition = .parse text := by
  constructor
  · -- Ids are taken as they are written.
    obtain ⟨written, there, scalar⟩ := refers.id
    obtain ⟨id, found, same⟩ := lookup_of_requiredText (enters.readsNode converted).id
    rw [there] at found
    cases found
    rw [scalar] at same
    exact (Option.some.inj same).symm
  · -- Transitions are parsed from what is written.
    obtain ⟨written, there, scalar⟩ := refers.transition
    have read := (leaves.readsNode converted).transition
    rw [optionalTransition_of_scalarText? there scalar] at read
    exact (Except.ok.inj read).symm

/-- A declared node of a definition whose ids all differ is what a graph of its nodes finds under its id. -/
theorem Definition.WellFormed.node?_eq_some (wellFormed : definition.WellFormed) (member : node ∈ definition.nodes)
    (same : graph.nodes = definition.nodes) : graph.node? node.id = some node := by
  -- Another node that is found would have the same id.
  have declared : Graph.declares graph.nodes node.id = true := same ▸ Graph.declares_iff.2 ⟨node, member, rfl⟩
  obtain ⟨found, there⟩ := Graph.node?_of_declares declared
  have inside : found ∈ definition.nodes := same ▸ List.mem_reverse.1 (List.mem_of_find?_eq_some there)
  rw [there, List.inj_on_of_nodup_map wellFormed.distinct inside member (Graph.node?_id there)]

/-- A transition to the id of a declared node is not the one that keeps a graph from being built. -/
theorem Definition.WellFormed.build_ne_dangling (wellFormed : definition.WellFormed)
    (left : source ∈ definition.nodes) (reached : target ∈ definition.nodes)
    (leads : source.transition = .node target.id) (missing : String) :
    Graph.build definition ≠ .error (.danglingTransition source.id missing) := by
  -- The one that is reported belongs to a node of the same id, which is the same node.
  intro failed
  have misses := Graph.build_eq_error_iff.1 failed
  generalize reported : GraphError.danglingTransition source.id missing = error at misses
  cases misses with
  | entry => cases reported
  | @target before other after _ _ split _ dangles undeclared =>
    injection reported with sameId sameTarget
    have inside : other ∈ definition.nodes := by simp [split]
    obtain rfl := List.inj_on_of_nodup_map wellFormed.distinct left inside sameId
    rw [leads] at dangles
    cases dangles
    exact undeclared ⟨target, reached, rfl⟩

/-- A graph moves on along the transition to a declared node. -/
theorem Definition.WellFormed.graph_movesOn (wellFormed : definition.WellFormed)
    (left : source ∈ definition.nodes) (reached : target ∈ definition.nodes)
    (leads : source.transition = .node target.id) (built : Graph.build definition = .ok graph) :
    graph.MovesOn source target := by
  -- Ids are distinct, so each of them finds its own node.
  obtain ⟨_, rfl⟩ := Graph.build_eq_ok_iff.1 built
  have found : Graph.node? ⟨definition.entryPoint, definition.nodes⟩ source.id = some source :=
    wellFormed.node?_eq_some left rfl
  refine ⟨found, wellFormed.node?_eq_some reached rfl, ?_, fun walk elapsed answer => ?_⟩
  · simp [Graph.next?, found, leads, Transition.target?]
  · rcases walk.receive_cases source elapsed answer with
      ⟨error, failed, aborts, _⟩ | ⟨_, finishes, _⟩ | ⟨next, _, goes, received⟩
    · exact .inl ⟨error, failed, aborts⟩
    · rw [leads] at finishes
      cases finishes
    · rw [leads] at goes
      cases goes
      exact .inr received

/-- A run moves on as its graph does. -/
theorem Graph.MovesOn.movesOn_of_account {limit : Nat} {initial : State} {calls : List Exchange}
    {result : PipelineResult} (moves : graph.MovesOn source target)
    (account : Account graph limit initial calls result) : result.MovesOn source.id target.id := by
  constructor
  · intro place entry after there named behind
    have led := account.course.led place entry after there behind
    rw [named, moves.next] at led
    exact (Option.some.inj led).symm
  · intro last final named completed
    obtain ⟨arrived, node, finished, _, found, finishes⟩ := account.arrived.1 completed
    rw [final] at finished
    cases finished
    -- The node of a run that has arrived leads nowhere.
    have next := moves.next
    rw [← named, Graph.next?, found, Option.bind_some, finishes] at next
    cases next

/-- A node of a definition whose ids all differ leads to the declared node that its transition names. -/
theorem Definition.WellFormed.leadsTo (wellFormed : definition.WellFormed) (left : source ∈ definition.nodes)
    (reached : target ∈ definition.nodes) (leads : source.transition = .node target.id) :
    definition.LeadsTo source target := by
  refine ⟨leads, wellFormed.build_ne_dangling left reached leads,
    fun graph built => wellFormed.graph_movesOn left reached leads built, ?_⟩
  intro σ executor settings now finished world after result ran
  cases built : Graph.build definition with
  | error error =>
    -- A run without a graph comes to no node.
    simp only [Engine.execute, built, Prod.mk.injEq, Ending.reported.injEq] at ran
    obtain ⟨rfl, _⟩ := ran
    exact ⟨fun place entry after there => (by cases there), fun last final => (by cases final)⟩
  | ok graph =>
    obtain ⟨ending, _, _, calls, plain, _, _, accounts⟩ :=
      Engine.execute_accounts executor settings definition built now world
    rw [ran] at plain
    cases plain
    exact (wellFormed.graph_movesOn left reached leads built).movesOn_of_account (accounts result rfl)

end Definitions

/--
A node of a document that is written to lead to the id of a node leads to that node.

This holds of all texts without blanks at their ends but for the finishing word, which finishes a run whatever nodes
there are.
-/
theorem parsePipeline_leadsTo {document : String} {definition : Definition}
    (parsed : parsePipeline document = .ok definition) :
    ∃ root, readDocument document = .ok root ∧
      (∀ index node, definition.nodes[index]? = some node → ∃ item, definition.NodeAt root index item node) ∧
      ∀ i j sourceItem targetItem source target text, definition.NodeAt root i sourceItem source →
        definition.NodeAt root j targetItem target → sourceItem.RefersTo targetItem text →
          (text = Transition.finishWord → source.transition = .finish) ∧
          (text ≠ Transition.finishWord → trimBlanks text = text → definition.LeadsTo source target) := by
  -- The transition is parsed from the text that is the other node's id.
  obtain ⟨root, read, converted⟩ := of_bind_ok parsed
  refine ⟨root, read, fun index node => Definition.exists_nodeAt converted, ?_⟩
  intro i j sourceItem targetItem source target text leaves enters refers
  obtain ⟨rfl, leads⟩ := refers.transition_eq converted leaves enters
  constructor
  · intro finishes
    rw [leads, finishes]
    rfl
  · intro other trimmed
    rw [Transition.parse_of_trimmed trimmed other] at leads
    exact (wellFormed_of_convertDocument converted).1.leadsTo (List.mem_of_getElem? leaves.node)
      (List.mem_of_getElem? enters.node) leads

/-- The item of a node of code with an id and a transition. -/
def codeItem (id transition : String) : Yaml :=
  -- All four fields are texts.
  .mapping [(.text "id", .text id), (.text "type", .text "code"), (.text "code", .text "1"),
    (.text "transition", .text transition)]

/-- A node of code with an id and a transition. -/
def codeNode (id : String) (transition : Transition) : Node :=
  -- It has neither inputs nor outputs.
  ⟨id, .code "1", [], [], Dictionary.empty, .abort, transition⟩

/-- A document of two nodes whose ids differ in blanks alone, each of which refers to the id with blanks or without. -/
def echoDocument : String :=
  -- The one without blanks refers to the one with blanks, and the other way around.
  "\x7b\"name\":\"n\",\"entry_point\":\"a\",\"nodes\":[" ++
    "\x7b\"id\":\"a\",\"type\":\"code\",\"code\":\"1\",\"transition\":\" a \"\x7d," ++
    "\x7b\"id\":\" a \",\"type\":\"code\",\"code\":\"1\",\"transition\":\"a\"\x7d]\x7d"

/-- The tree of the document. -/
def echoTree : Yaml :=
  .mapping [(.text "name", .text "n"), (.text "entry_point", .text "a"),
    (.text "nodes", .sequence [codeItem "a" " a ", codeItem " a " "a"])]

set_option maxRecDepth 20000 in
/-- The document has its tree. -/
theorem readDocument_echoDocument : readDocument echoDocument = .ok echoTree := by decide +kernel

/-- The definition in the document, both of whose nodes lead to the one without blanks. -/
def echoDefinition : Definition := ⟨"n", none, [], "a", [codeNode "a" (.node "a"), codeNode " a " (.node "a")]⟩

/-- The document is accepted. -/
theorem parsePipeline_echoDocument : parsePipeline echoDocument = .ok echoDefinition := by
  have converted : convertDocument echoTree = .ok echoDefinition := rfl
  rw [parsePipeline, readDocument_echoDocument]
  exact converted

/-- The node with blanks in its id refers to the one without, and leads to it. -/
theorem parsePipeline_leadsTo_echoDocument :
    parsePipeline echoDocument = .ok echoDefinition ∧
      echoDefinition.LeadsTo (codeNode " a " (.node "a")) (codeNode "a" (.node "a")) := by
  obtain ⟨root, read, _, leads⟩ := parsePipeline_leadsTo parsePipeline_echoDocument
  rw [readDocument_echoDocument] at read
  cases read
  refine ⟨parsePipeline_echoDocument, ?_⟩
  -- The items of the two nodes stand at their places in the tree.
  have left : echoDefinition.NodeAt echoTree 1 (codeItem " a " "a") (codeNode " a " (.node "a")) :=
    ⟨⟨_, rfl, rfl⟩, rfl⟩
  have reached : echoDefinition.NodeAt echoTree 0 (codeItem "a" " a ") (codeNode "a" (.node "a")) :=
    ⟨⟨_, rfl, rfl⟩, rfl⟩
  have refers : (codeItem " a " "a").RefersTo (codeItem "a" " a ") "a" := ⟨⟨_, rfl, rfl⟩, ⟨_, rfl, rfl⟩⟩
  exact (leads 1 0 _ _ _ _ "a" left reached refers).2 (by decide) (by decide)

/-- A document of one node that has the finishing word as its id and its transition. -/
def finalDocument : String :=
  -- It is also the entry point.
  "\x7b\"name\":\"n\",\"entry_point\":\"END\",\"nodes\":" ++
    "[\x7b\"id\":\"END\",\"type\":\"code\",\"code\":\"1\",\"transition\":\"END\"\x7d]\x7d"

/-- The tree of that document. -/
def finalTree : Yaml :=
  .mapping [(.text "name", .text "n"), (.text "entry_point", .text "END"),
    (.text "nodes", .sequence [codeItem "END" "END"])]

set_option maxRecDepth 20000 in
/-- That document has its tree. -/
theorem readDocument_finalDocument : readDocument finalDocument = .ok finalTree := by decide +kernel

/-- The definition in that document, whose node finishes the run. -/
def finalDefinition : Definition := ⟨"n", none, [], "END", [codeNode "END" .finish]⟩

/-- Every node that is written to lead to the id of a node has the transition to that node. -/
def Definition.RefersAsWritten (root : Yaml) (definition : Definition) : Prop :=
  ∀ i j sourceItem targetItem source target text, definition.NodeAt root i sourceItem source →
    definition.NodeAt root j targetItem target → sourceItem.RefersTo targetItem text →
      source.transition = .node target.id

/-- Both documents are accepted, and neither of their definitions has all transitions that are written. -/
theorem parsePipeline_not_refersAsWritten :
    (parsePipeline echoDocument = .ok echoDefinition ∧
      ∀ root, readDocument echoDocument = .ok root → ¬echoDefinition.RefersAsWritten root) ∧
    parsePipeline finalDocument = .ok finalDefinition ∧
      ∀ root, readDocument finalDocument = .ok root → ¬finalDefinition.RefersAsWritten root := by
  refine ⟨⟨parsePipeline_echoDocument, ?_⟩, ?_, ?_⟩
  · rintro root read promised
    rw [readDocument_echoDocument] at read
    cases read
    -- The first node refers to the second, and leads to itself.
    have refers : (codeItem "a" " a ").RefersTo (codeItem " a " "a") " a " := ⟨⟨_, rfl, rfl⟩, ⟨_, rfl, rfl⟩⟩
    have same := promised 0 1 _ _ _ _ " a " ⟨⟨_, rfl, rfl⟩, rfl⟩ ⟨⟨_, rfl, rfl⟩, rfl⟩ refers
    exact absurd same (by decide)
  · have converted : convertDocument finalTree = .ok finalDefinition := rfl
    rw [parsePipeline, readDocument_finalDocument]
    exact converted
  · rintro root read promised
    rw [readDocument_finalDocument] at read
    cases read
    have refers : (codeItem "END" "END").RefersTo (codeItem "END" "END") "END" := ⟨⟨_, rfl, rfl⟩, ⟨_, rfl, rfl⟩⟩
    have same := promised 0 0 _ _ _ _ "END" ⟨⟨_, rfl, rfl⟩, rfl⟩ ⟨⟨_, rfl, rfl⟩, rfl⟩ refers
    exact absurd same (by decide)

end PipelineTrial
