import Mathlib.Data.List.Nodup
import PipelineTrial.Proofs.Pipeline.Document
import PipelineTrial.Proofs.Pipeline.Graph
import PipelineTrial.Proofs.Pipeline.State
import PipelineTrial.Proofs.Text.Blank

/-! Every definition that is read from a document tree is well formed, and follows the order of its document. -/

namespace PipelineTrial

/-- A node that can be told from others, whose inputs cover its sources, and whose transition is a proper one. -/
structure Node.WellFormed (node : Node) : Prop where
  named : trimBlanks node.id ≠ ""
  sourced : ∀ name, node.sources.contains name = true → name ∈ node.inputs
  schema : ∀ model prompt system schema,
    node.kind = .languageModel model prompt system (some schema) → schema.fields ≠ []
  /-- No transition goes to the word that finishes a run, or to an id with blanks around it. -/
  target : ∀ target, node.transition = .node target →
    target ≠ Transition.finishWord ∧ trimBlanks target = target

/-- A variable whose initial value, if it has one, is of its type. -/
def StateVariable.WellTyped (declared : StateVariable) : Prop :=
  -- Null is of no type.
  ∀ value, declared.initial = some value → value ≠ .null ∧ declared.type.accepts value = true

/-- A definition of well-formed nodes with different ids, at least one, and of well-typed variables. -/
structure Definition.WellFormed (definition : Definition) : Prop where
  inhabited : definition.nodes ≠ []
  distinct : (definition.nodes.map (·.id)).Nodup
  nodes : ∀ node ∈ definition.nodes, node.WellFormed
  stateVariables : ∀ declared ∈ definition.stateVariables, declared.WellTyped

/-- A node has the id of its item, and as inputs the listed names followed by those that only have a source. -/
structure Node.DeclaredBy (item : Yaml) (node : Node) : Prop where
  id : ∃ value, Yaml.lookup "id" item.fields = some value ∧ value.scalarText? = some node.id
  inputs : ∃ listed added, Yaml.ListsNames (Yaml.lookup "input" item.fields) listed ∧
    node.inputs = listed ++ added ∧ added.Nodup ∧
    ∀ name, name ∈ added ↔ node.sources.contains name = true ∧ name ∉ listed

/-- Nodes and variables stand in the order of a document, one for each entry. -/
structure Definition.DeclaredBy (root : Yaml) (definition : Definition) : Prop where
  nodes : ∃ items, Yaml.lookup "nodes" root.fields = some (.sequence items) ∧
    List.Forall₂ Node.DeclaredBy items definition.nodes
  stateVariables : List.Forall₂ (fun entry declared => entry.1.text? = some declared.name)
    (stateEntries root.fields) definition.stateVariables

/-- No type has null as a value. -/
theorem ValueType.ne_null_of_accepts {type : ValueType} {value : Json} (fits : type.accepts value = true) :
    value ≠ .null := by
  -- Each type accepts values of its own kinds.
  rintro rfl
  cases type <;> cases fits

/-- A parsed transition to a node has no blanks around its target, which is not the finishing word. -/
theorem Transition.target_of_parse {raw target : String} (parsed : parse raw = .node target) :
    target ≠ finishWord ∧ trimBlanks target = target := by
  -- The target is what is left when the text is trimmed.
  simp only [parse] at parsed
  split at parsed
  · cases parsed
  · next other =>
    cases parsed
    exact ⟨other, trimBlanks_trimBlanks raw⟩

/-- Completed inputs are the declared ones followed by the other names, each of these once. -/
theorem completeInputs_eq (declared sourced : List String) :
    ∃ added, completeInputs declared sourced = declared ++ added ∧ added.Nodup ∧
      ∀ name, name ∈ added ↔ name ∈ sourced ∧ name ∉ declared := by
  -- A name that is added counts as declared for the names behind it.
  induction sourced generalizing declared with
  | nil => exact ⟨[], by simp [completeInputs], List.nodup_nil, by simp⟩
  | cons first rest ih =>
    by_cases known : first ∈ declared
    · obtain ⟨added, same, distinct, members⟩ := ih declared
      refine ⟨added, ?_, distinct, fun name => ?_⟩
      · rw [← same, completeInputs, List.foldl_cons, if_pos known]
        rfl
      · rw [members]
        grind
    · obtain ⟨added, same, distinct, members⟩ := ih (declared ++ [first])
      refine ⟨first :: added, ?_, List.nodup_cons.2 ⟨?_, distinct⟩, fun name => ?_⟩
      · rw [List.append_cons, ← same, completeInputs, List.foldl_cons, if_neg known]
        rfl
      · simp [members]
      · simp only [List.mem_cons, members, List.mem_append, List.not_mem_nil, or_false, not_or]
        grind

/-- A node that is read from an item is well formed and declared by it. -/
theorem wellFormed_of_convertNode {item : Yaml} {node : Node} (succeeded : convertNode item = .ok node) :
    node.WellFormed ∧ node.DeclaredBy item := by
  -- Each fact is that of one field.
  have read := readsNode_of_convertNode succeeded
  obtain ⟨declared, listed, completed⟩ := read.inputs
  obtain ⟨added, same, distinct, members⟩ := completeInputs_eq declared node.sources.keys
  rw [same] at completed
  simp only [Dictionary.mem_keys_iff] at members
  refine ⟨⟨?_, ?_, ?_, ?_⟩, ⟨?_, declared, added, ?_, completed, distinct, members⟩⟩
  · intro blank
    have named := read.named
    rw [blank] at named
    cases named
  · intro name sourced
    rw [completed, List.mem_append, members]
    by_cases known : name ∈ declared <;> simp [known, sourced]
  · intro model prompt system schema kind
    have readKind := read.kind
    rw [kind] at readKind
    exact fields_of_optionalSchema (schema_of_convertKind readKind)
  · intro target leads
    have readTransition := read.transition
    rw [leads] at readTransition
    obtain ⟨raw, parsed⟩ := parse_of_optionalTransition readTransition
    exact Transition.target_of_parse parsed
  · exact lookup_of_requiredText read.id
  · exact listsNames_of_nameList listed

/-- A definition that is read from a document is well formed and declared by it. -/
theorem wellFormed_of_convertDocument {root : Yaml} {definition : Definition}
    (succeeded : convertDocument root = .ok definition) :
    definition.WellFormed ∧ definition.DeclaredBy root := by
  -- Nodes are read from items and variables from entries, one by one.
  have read := readsDefinition_of_convertDocument succeeded
  obtain ⟨items, listed, filled, converted⟩ := read.nodes
  have nodes := (forall₂_of_convertNodes converted).imp fun item node => wellFormed_of_convertNode
  have readings := forall₂_of_convertVariables (convertVariables_of_optionalVariables read.stateVariables)
  refine ⟨⟨?_, (nodup_of_convertNodes converted).1, ?_, ?_⟩, ⟨items, listed, ?_⟩, ?_⟩
  · intro empty
    rw [empty] at nodes
    cases nodes
    exact filled rfl
  · intro node member
    obtain ⟨item, _, facts⟩ := exists_of_forall₂ nodes member
    exact facts.1
  · intro declared member value given
    obtain ⟨entry, _, _, reads⟩ := exists_of_forall₂ readings member
    have fits := ((initial_of_convertVariable reads).2 value given).1
    exact ⟨ValueType.ne_null_of_accepts fits, fits⟩
  · exact nodes.imp fun item node facts => facts.2
  · exact readings.imp fun entry declared facts => facts.1

/-- When all ids differ, the first node of an id is the last. -/
theorem Definition.WellFormed.node?_eq {definition : Definition} (wellFormed : definition.WellFormed)
    {graph : Graph} (same : graph.nodes = definition.nodes) (id : String) :
    definition.node? id = graph.node? id := by
  -- At most one node has the id.
  unfold Definition.node? Graph.node?
  rw [same]
  cases found : definition.nodes.find? (·.id = id) with
  | none =>
    rw [List.find?_eq_none] at found
    refine (List.find?_eq_none.2 fun node member => ?_).symm
    exact found node (List.mem_reverse.1 member)
  | some node =>
    have member := List.mem_of_find?_eq_some found
    have named := List.find?_some found
    obtain ⟨last, foundLast⟩ : ∃ last, definition.nodes.reverse.find? (·.id = id) = some last :=
      Option.isSome_iff_exists.1 (List.find?_isSome.2 ⟨node, List.mem_reverse.2 member, named⟩)
    have memberLast := List.mem_reverse.1 (List.mem_of_find?_eq_some foundLast)
    have namedLast := List.find?_some foundLast
    have ids : node.id = last.id := by
      simp only [decide_eq_true_eq] at named namedLast
      rw [named, namedLast]
    rw [foundLast, List.inj_on_of_nodup_map wellFormed.distinct member memberLast ids]

/-- A first value is that of a well-typed declaration of its name. -/
theorem Definition.WellFormed.get?_initial {definition : Definition} (wellFormed : definition.WellFormed)
    {name : String} {value : Json} (found : (State.initial definition.stateVariables).get? name = some value) :
    ∃ declared ∈ definition.stateVariables, declared.name = name ∧ declared.initial = some value ∧
      declared.type.accepts value = true := by
  -- The declaration that sets it has a value of its type.
  obtain ⟨declared, member, named, given⟩ := State.declared_of_get?_initial found
  exact ⟨declared, member, named, given, (wellFormed.stateVariables declared member value given).2⟩

/--
A definition that is read from a document tree is well formed, and its nodes and variables stand in the order of that.

So its graph, when it builds, finds the node that is first found in the definition, and each first value of a variable
is that of a declaration with its type.
-/
theorem convertDocument_wellFormed {root : Yaml} {definition : Definition}
    (converted : convertDocument root = .ok definition) :
    definition.WellFormed ∧ definition.DeclaredBy root ∧
      (∀ graph, Graph.build definition = .ok graph → ∀ id, definition.node? id = graph.node? id) ∧
      ∀ name value, (State.initial definition.stateVariables).get? name = some value →
        ∃ declared ∈ definition.stateVariables, declared.name = name ∧
          declared.initial = some value ∧ declared.type.accepts value = true := by
  -- The graph consists of the nodes of the definition.
  obtain ⟨wellFormed, declaredBy⟩ := wellFormed_of_convertDocument converted
  refine ⟨wellFormed, declaredBy, fun graph built id => ?_, fun name value => wellFormed.get?_initial⟩
  obtain ⟨_, rfl⟩ := Graph.build_eq_ok_iff.1 built
  exact wellFormed.node?_eq rfl id

/-- A tree of two nodes, of which the first asks a model and names the second with blanks around it. -/
def surveyTree : Yaml :=
  -- The input that only has a source stands behind the listed one.
  .mapping [(.text "name", .text "survey"), (.text "entry_point", .text "ask"),
    (.text "state", .mapping [(.text "topic", .text "string"),
      (.text "tally", .mapping [(.text "type", .text "integer"), (.text "value", .integer 3)])]),
    (.text "nodes", .sequence
      [.mapping [(.text "id", .text "ask"), (.text "type", .text "llm"), (.text "model", .text "m"),
        (.text "prompt", .text "p"), (.text "input", .text "topic"),
        (.text "input_mapping", .mapping [(.text "tone",
          .mapping [(.text "type", .text "fixed"), (.text "value", .text "plain")])]),
        (.text "structured_output", .mapping [(.text "answer", .text "string")]),
        (.text "transition", .text " count ")],
      .mapping [(.text "id", .text "count"), (.text "type", .text "code"), (.text "code", .text "1")]])]

/-- The definition in the tree. -/
def surveyDefinition : Definition :=
  -- All else is as it is unless given.
  ⟨"survey", none, [⟨"topic", .string, none⟩, ⟨"tally", .integer, some (.integer 3)⟩], "ask",
    [⟨"ask", .languageModel "m" "p" none (some ⟨[⟨"answer", .string⟩]⟩), ["topic", "tone"], [],
      Dictionary.empty.insert "tone" (.fixed (.text "plain")), .abort, .node "count"⟩,
    ⟨"count", .code "1", [], [], Dictionary.empty, .abort, .finish⟩]⟩

/-- The tree is read, its graph finds the nodes as they are declared, and its tally starts with a whole number. -/
theorem convertDocument_wellFormed_surveyTree :
    convertDocument surveyTree = .ok surveyDefinition ∧ surveyDefinition.WellFormed ∧
      surveyDefinition.DeclaredBy surveyTree ∧
      (∀ id, surveyDefinition.node? id = Graph.node? ⟨"ask", surveyDefinition.nodes⟩ id) ∧
      ∃ declared ∈ surveyDefinition.stateVariables, declared.name = "tally" ∧
        declared.initial = some (.integer 3) ∧ declared.type.accepts (.integer 3) = true := by
  have converted : convertDocument surveyTree = .ok surveyDefinition := rfl
  obtain ⟨wellFormed, declaredBy, agrees, typed⟩ := convertDocument_wellFormed converted
  exact ⟨converted, wellFormed, declaredBy, agrees _ rfl, typed "tally" (.integer 3) rfl⟩

end PipelineTrial
