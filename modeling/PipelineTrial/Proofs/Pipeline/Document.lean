import Mathlib.Data.List.Forall2
import PipelineTrial.Pipeline.Document
import PipelineTrial.Proofs.Dictionary

/-! What the tree of a document holds that a definition could be read from. -/

namespace PipelineTrial

namespace Yaml

/-- The entries of a value, tags aside, of which there are none unless it is a mapping. -/
def fields (value : Yaml) : List (Yaml × Yaml) := value.entries?.getD []

/-- The items of a value, tags aside, of which there are none unless it is a sequence. -/
def items (value : Yaml) : List Yaml :=
  -- Only sequences have items.
  match value.untagged with
  | .sequence items => items
  | _ => []

/-- The text for which a scalar counts. -/
def scalarText? : Yaml → Option String
  | .text value => some value
  | .integer value => some (toString value)
  | .float value => some (floatText value)
  | .boolean value => some (booleanText value)
  | _ => none

/-- How names are listed in a field: not at all, as one text, or as the items of a list. -/
inductive ListsNames : Option Yaml → List String → Prop where
  | absent : ListsNames none []
  | null : ListsNames (some .null) []
  | single (name : String) : ListsNames (some (.text name)) [name]
  | list {items : List Yaml} {names : List String} :
      List.Forall₂ (fun item name => item.text? = some name) items names →
        ListsNames (some (.sequence items)) names

end Yaml

/-- What is related to something is there, too. -/
theorem exists_of_rel {α β : Type} {related : α → β → Prop} {left : Option α} {after : β}
    (both : Option.Rel related left (some after)) : ∃ before, left = some before ∧ related before after := by
  cases both with
  | some facts => exact ⟨_, rfl, facts⟩

/-- What something is related to is there, too. -/
theorem exists_rel_of_some {α β : Type} {related : α → β → Prop} {before : α} {right : Option β}
    (both : Option.Rel related (some before) right) : ∃ after, right = some after ∧ related before after := by
  cases both with
  | some facts => exact ⟨_, rfl, facts⟩

/-- At each place of two lists that are related item by item there are two related items, or none. -/
theorem rel_getElem?_of_forall₂ {α β : Type} {related : α → β → Prop} {left : List α} {right : List β}
    (pairs : List.Forall₂ related left right) (index : Nat) : Option.Rel related left[index]? right[index]? := by
  induction pairs generalizing index with
  | nil => exact .none
  | cons first _ ih =>
    cases index with
    | zero => exact .some first
    | succ index => exact ih index

/-- What is related from left to right comes from an item that is related to it. -/
theorem exists_of_forall₂ {α β : Type} {related : α → β → Prop} {left : List α} {right : List β}
    (pairs : List.Forall₂ related left right) {after : β} (member : after ∈ right) :
    ∃ before ∈ left, related before after := by
  -- It stands at the same place as that item.
  obtain ⟨index, there⟩ := List.getElem?_of_mem member
  obtain ⟨before, found, facts⟩ := exists_of_rel (there ▸ rel_getElem?_of_forall₂ pairs index)
  exact ⟨before, List.mem_of_getElem? found, facts⟩

/-- What is done in two steps succeeds when both do. -/
theorem of_bind_ok {ε α β : Type} {first : Except ε α} {next : α → Except ε β} {result : β}
    (succeeded : (first >>= next) = .ok result) : ∃ value, first = .ok value ∧ next value = .ok result := by
  -- A failure of the first is one of both.
  cases first with
  | error error => cases succeeded
  | ok value => exact ⟨value, rfl, succeeded⟩

/-- A conversion succeeds at a deeper place as it does by itself. -/
theorem Converted.of_within_ok {α : Type} {segment : Segment} {converted : Converted α} {result : α}
    (succeeded : converted.within segment = .ok result) : converted = .ok result := by
  -- Only faults are changed.
  cases converted with
  | error error => cases succeeded
  | ok value => exact succeeded

/-- A value that was required to be a mapping has its entries as fields. -/
theorem fields_of_requireMapping {value : Yaml} {fields : DocumentFields}
    (succeeded : requireMapping value = .ok fields) : value.fields = fields := by
  -- Anything else is a fault.
  unfold requireMapping at succeeded
  split at succeeded
  · next entries found =>
    cases succeeded
    rw [Yaml.fields, found, Option.getD_some]
  · cases succeeded

/-- A required text is that of a scalar under its name. -/
theorem lookup_of_requiredText {fields : DocumentFields} {name text : String}
    (succeeded : requiredText fields name = .ok text) :
    ∃ value, Yaml.lookup name fields = some value ∧ value.scalarText? = some text := by
  -- Null and absence are faults, as is anything that is no scalar.
  obtain ⟨found, read, given⟩ := of_bind_ok succeeded
  cases found with
  | none => cases given
  | some value =>
    cases given
    unfold optionalText at read
    split at read <;> cases read
    · exact ⟨_, ‹_›, rfl⟩
    · exact ⟨_, ‹_›, rfl⟩
    · exact ⟨_, ‹_›, rfl⟩
    · exact ⟨_, ‹_›, rfl⟩

/-- Names are the texts of the items that they are read from. -/
theorem forall₂_of_convertNames {index : Nat} {items : List Yaml} {names : List String}
    (succeeded : convertNames index items = .ok names) :
    List.Forall₂ (fun item name => item.text? = some name) items names := by
  -- An item that is no text is a fault.
  induction items generalizing index names with
  | nil =>
    cases succeeded
    exact .nil
  | cons item rest ih =>
    unfold convertNames at succeeded
    split at succeeded
    · cases succeeded
    · next name text =>
      obtain ⟨tail, following, given⟩ := of_bind_ok succeeded
      cases given
      exact .cons text (ih following)

/-- The names in a field are those that it lists. -/
theorem listsNames_of_nameList {fields : DocumentFields} {name : String} {names : List String}
    (succeeded : nameList fields name = .ok names) : Yaml.ListsNames (Yaml.lookup name fields) names := by
  -- A field may be absent, null, one name or a list of names.
  unfold nameList at succeeded
  split at succeeded
  · next absent =>
    cases succeeded
    rw [absent]
    exact .absent
  · next null =>
    cases succeeded
    rw [null]
    exact .null
  · next single text =>
    cases succeeded
    rw [text]
    exact .single single
  · next items list =>
    rw [list]
    exact .list (forall₂_of_convertNames (Converted.of_within_ok succeeded))
  · cases succeeded

/-- A value that has a JSON form has it when it is required. -/
theorem toJson_of_requireJson {value : Yaml} {json : Json} (succeeded : requireJson value = .ok json) :
    value.toJson = .ok json := by
  -- A value without one is a fault.
  unfold requireJson at succeeded
  split at succeeded
  · next found =>
    cases succeeded
    exact found
  · cases succeeded

/-- An initial value is the JSON form of what it is read from, and has the declared type. -/
theorem toJson_of_convertInitial {type : ValueType} {written : Option Yaml} {value : Json}
    (succeeded : convertInitial type written = .ok (some value)) :
    type.accepts value = true ∧ ∃ raw, written = some raw ∧ raw.toJson = .ok value := by
  -- A value of another type is a fault.
  cases written with
  | none => cases succeeded
  | some raw =>
    obtain ⟨json, read, given⟩ := of_bind_ok succeeded
    split at given
    · next fits =>
      cases given
      exact ⟨fits, raw, rfl, toJson_of_requireJson (Converted.of_within_ok read)⟩
    · cases given

/-- The initial value in the parts of a variable's entry is under the value key of its fields. -/
theorem lookup_of_variableParts {entry raw : Yaml} {tag : String}
    (succeeded : variableParts entry = .ok (tag, some raw)) :
    Yaml.lookup "value" entry.fields = some raw := by
  -- The short form has no value.
  unfold variableParts at succeeded
  split at succeeded
  · cases succeeded
  · next fields =>
    obtain ⟨_, _, given⟩ := of_bind_ok succeeded
    simp only [Except.ok.injEq, Prod.mk.injEq, Option.filter_eq_some_iff] at given
    exact given.2.1
  · cases succeeded

/-- A variable has the name that it is read under, and an initial value of its type from its value key. -/
theorem initial_of_convertVariable {name : String} {entry : Yaml} {declared : StateVariable}
    (succeeded : convertVariable name entry = .ok declared) :
    declared.name = name ∧ ∀ value, declared.initial = some value → declared.type.accepts value = true ∧
      ∃ raw, Yaml.lookup "value" entry.fields = some raw ∧ raw.toJson = .ok value := by
  -- Its type is read before its value.
  obtain ⟨⟨tag, written⟩, parts, given⟩ := of_bind_ok succeeded
  obtain ⟨type, _, given⟩ := of_bind_ok given
  obtain ⟨initial, read, given⟩ := of_bind_ok given
  cases given
  refine ⟨rfl, ?_⟩
  rintro value rfl
  obtain ⟨fits, raw, rfl, converted⟩ := toJson_of_convertInitial read
  exact ⟨fits, raw, lookup_of_variableParts parts, converted⟩

/-- Variables are read from entries one by one, each under the name that is its key. -/
theorem forall₂_of_convertVariables {entries : DocumentFields} {declared : List StateVariable}
    (succeeded : convertVariables entries = .ok declared) :
    List.Forall₂ (fun entry read => entry.1.text? = some read.name ∧
      convertVariable read.name entry.2 = .ok read) entries declared := by
  -- A key that is no text is a fault.
  induction entries generalizing declared with
  | nil =>
    cases succeeded
    exact .nil
  | cons entry rest ih =>
    obtain ⟨key, value⟩ := entry
    unfold convertVariables at succeeded
    split at succeeded
    · cases succeeded
    · next name text =>
      obtain ⟨first, read, given⟩ := of_bind_ok succeeded
      obtain ⟨tail, following, given⟩ := of_bind_ok given
      cases given
      have converted := Converted.of_within_ok read
      obtain rfl := (initial_of_convertVariable converted).1
      exact .cons ⟨text, converted⟩ (ih following)

/-- The entries under the state key of a document, of which there are none unless it declares variables. -/
def stateEntries (fields : DocumentFields) : DocumentFields :=
  -- Null has no entries either.
  match Yaml.lookup "state" fields with
  | none => []
  | some value => value.fields

/-- An entry of a state variable is one under the state key. -/
theorem lookup_of_mem_stateEntries {fields : DocumentFields} {entry : Yaml × Yaml}
    (member : entry ∈ stateEntries fields) :
    ∃ state, Yaml.lookup "state" fields = some state ∧ entry ∈ state.fields := by
  unfold stateEntries at member
  split at member
  · cases member
  · next state found => exact ⟨state, found, member⟩

/-- The variables of a document are read from the entries under its state key. -/
theorem convertVariables_of_optionalVariables {fields : DocumentFields} {declared : List StateVariable}
    (succeeded : optionalVariables fields = .ok declared) :
    convertVariables (stateEntries fields) = .ok declared := by
  -- Without a mapping under the key there are no entries.
  unfold optionalVariables at succeeded
  unfold stateEntries
  split at succeeded
  · next absent =>
    cases succeeded
    rw [absent]
    rfl
  · next null =>
    cases succeeded
    rw [null]
    rfl
  · next raw _ found =>
    obtain ⟨entries, mapping, given⟩ := of_bind_ok (Converted.of_within_ok succeeded)
    simp only [found, fields_of_requireMapping mapping]
    exact given

/-- A fixed source holds the JSON form of what is under the value key of its entry. -/
theorem lookup_of_convertSource {entry : Yaml} {literal : Json}
    (succeeded : convertSource entry = .ok (.fixed literal)) :
    ∃ raw, Yaml.lookup "value" entry.fields = some raw ∧ raw.toJson = .ok literal := by
  -- The other types make sources of other kinds.
  obtain ⟨fields, mapping, given⟩ := of_bind_ok succeeded
  obtain ⟨type, _, given⟩ := of_bind_ok given
  rw [fields_of_requireMapping mapping]
  split at given
  · obtain ⟨_, _, given⟩ := of_bind_ok given
    cases given
  · split at given
    · cases given
    · next raw found =>
      obtain ⟨json, read, given⟩ := of_bind_ok given
      cases given
      exact ⟨raw, found, toJson_of_requireJson (Converted.of_within_ok read)⟩
  · obtain ⟨_, _, given⟩ := of_bind_ok given
    cases given
  · obtain ⟨_, _, given⟩ := of_bind_ok given
    cases given
  · cases given

/-- A source was there before, or it is read from an entry whose key is its name. -/
theorem get?_of_convertSources {before sources : Dictionary InputSource} {entries : DocumentFields}
    (succeeded : convertSources before entries = .ok sources) {name : String} {source : InputSource}
    (found : sources.get? name = some source) :
    before.get? name = some source ∨
      ∃ entry ∈ entries, entry.1.text? = some name ∧ convertSource entry.2 = .ok source := by
  -- Each entry adds a source of one name.
  induction entries generalizing before with
  | nil =>
    cases succeeded
    exact .inl found
  | cons entry rest ih =>
    obtain ⟨key, value⟩ := entry
    unfold convertSources at succeeded
    split at succeeded
    · cases succeeded
    · next own text =>
      obtain ⟨first, read, given⟩ := of_bind_ok succeeded
      rcases ih given with earlier | ⟨entry, member, named, converted⟩
      · rw [Dictionary.get?_insert] at earlier
        split at earlier
        · next same =>
          cases earlier
          exact .inr ⟨_, List.mem_cons_self, by rw [same, text], Converted.of_within_ok read⟩
        · exact .inl earlier
      · exact .inr ⟨entry, List.mem_cons_of_mem _ member, named, converted⟩

/-- The sources of a node are read from the entries under its source key. -/
theorem get?_of_optionalSources {fields : DocumentFields} {sources : Dictionary InputSource}
    (succeeded : optionalSources fields = .ok sources) {name : String} {source : InputSource}
    (found : sources.get? name = some source) :
    ∃ written, Yaml.lookup "input_mapping" fields = some written ∧
      ∃ entry ∈ written.fields, entry.1.text? = some name ∧ convertSource entry.2 = .ok source := by
  -- A source comes from an entry, as there is none to begin with.
  unfold optionalSources at succeeded
  split at succeeded
  · cases succeeded
    cases found
  · cases succeeded
    cases found
  · next raw _ there =>
    obtain ⟨entries, mapping, given⟩ := of_bind_ok (Converted.of_within_ok succeeded)
    rcases get?_of_convertSources given found with before | entry
    · cases before
    · exact ⟨raw, there, by rwa [fields_of_requireMapping mapping]⟩

/-- A schema has at least one field. -/
theorem fields_of_convertSchema {raw : Yaml} {schema : OutputSchema}
    (succeeded : convertSchema raw = .ok schema) : schema.fields ≠ [] := by
  -- A schema without fields is a fault.
  obtain ⟨fields, _, given⟩ := of_bind_ok succeeded
  split at given
  · cases given
  · next filled =>
    cases given
    simpa using filled

/-- A schema in a field has at least one field of its own. -/
theorem fields_of_optionalSchema {fields : DocumentFields} {schema : OutputSchema}
    (succeeded : optionalSchema fields = .ok (some schema)) : schema.fields ≠ [] := by
  unfold optionalSchema at succeeded
  split at succeeded
  · cases succeeded
  · cases succeeded
  · obtain ⟨own, read, given⟩ := of_bind_ok succeeded
    cases given
    exact fields_of_convertSchema (Converted.of_within_ok read)

/-- A transition to a node is one that was parsed. -/
theorem parse_of_optionalTransition {fields : DocumentFields} {target : String}
    (succeeded : optionalTransition fields = .ok (.node target)) :
    ∃ raw, Transition.parse raw = .node target := by
  -- Without a text the transition finishes the run.
  obtain ⟨found, _, given⟩ := of_bind_ok succeeded
  cases found with
  | none => cases given
  | some raw => exact ⟨raw, Except.ok.inj given⟩

/-- A node of code has its payload from its code field. -/
theorem code_of_convertKind {fields : DocumentFields} {payload : String}
    (succeeded : convertKind fields = .ok (.code payload)) : requiredText fields "code" = .ok payload := by
  -- The other types make nodes of other kinds.
  obtain ⟨type, _, given⟩ := of_bind_ok succeeded
  split at given
  · obtain ⟨_, _, given⟩ := of_bind_ok given
    obtain ⟨_, _, given⟩ := of_bind_ok given
    cases given
  · obtain ⟨_, _, given⟩ := of_bind_ok given
    obtain ⟨_, _, given⟩ := of_bind_ok given
    obtain ⟨_, _, given⟩ := of_bind_ok given
    obtain ⟨_, _, given⟩ := of_bind_ok given
    cases given
  · obtain ⟨_, read, given⟩ := of_bind_ok given
    cases given
    exact read
  · cases given

/-- A node that asks a model has its schema from its schema field. -/
theorem schema_of_convertKind {fields : DocumentFields} {model prompt : String} {system : Option String}
    {schema : Option OutputSchema}
    (succeeded : convertKind fields = .ok (.languageModel model prompt system schema)) :
    optionalSchema fields = .ok schema := by
  -- The other types make nodes of other kinds.
  obtain ⟨type, _, given⟩ := of_bind_ok succeeded
  split at given
  · obtain ⟨_, _, given⟩ := of_bind_ok given
    obtain ⟨_, _, given⟩ := of_bind_ok given
    cases given
  · obtain ⟨_, _, given⟩ := of_bind_ok given
    obtain ⟨_, _, given⟩ := of_bind_ok given
    obtain ⟨_, _, given⟩ := of_bind_ok given
    obtain ⟨_, read, given⟩ := of_bind_ok given
    cases given
    exact read
  · obtain ⟨_, _, given⟩ := of_bind_ok given
    cases given
  · cases given

/-- What the fields of an item have to hold for a node to be read from them. -/
structure ReadsNode (fields : DocumentFields) (node : Node) : Prop where
  id : requiredText fields "id" = .ok node.id
  named : (trimBlanks node.id).isEmpty = false
  kind : convertKind fields = .ok node.kind
  /-- Inputs are those listed, and those that have a source. -/
  inputs : ∃ declared, nameList fields "input" = .ok declared ∧
    node.inputs = completeInputs declared node.sources.keys
  outputs : nameList fields "output" = .ok node.outputs
  sources : optionalSources fields = .ok node.sources
  policy : optionalPolicy fields = .ok node.errorPolicy
  transition : optionalTransition fields = .ok node.transition

/-- A node is read from the fields of its item. -/
theorem readsNode_of_convertNode {item : Yaml} {node : Node} (succeeded : convertNode item = .ok node) :
    ReadsNode item.fields node := by
  -- Its fields are read one after another.
  obtain ⟨fields, mapping, given⟩ := of_bind_ok succeeded
  obtain rfl := fields_of_requireMapping mapping
  obtain ⟨id, readId, given⟩ := of_bind_ok given
  split at given
  · cases given
  · next named =>
    obtain ⟨kind, readKind, given⟩ := of_bind_ok given
    obtain ⟨declared, readInputs, given⟩ := of_bind_ok given
    obtain ⟨outputs, readOutputs, given⟩ := of_bind_ok given
    obtain ⟨sources, readSources, given⟩ := of_bind_ok given
    obtain ⟨policy, readPolicy, given⟩ := of_bind_ok given
    obtain ⟨transition, readTransition, given⟩ := of_bind_ok given
    cases given
    exact ⟨readId, eq_false_of_ne_true named, readKind, ⟨declared, readInputs, rfl⟩, readOutputs, readSources,
      readPolicy, readTransition⟩

/-- Nodes are read from items one by one. -/
theorem forall₂_of_convertNodes {index : Nat} {seen : List String} {items : List Yaml} {nodes : List Node}
    (succeeded : convertNodes index seen items = .ok nodes) :
    List.Forall₂ (fun item node => convertNode item = .ok node) items nodes := by
  -- A repeated id is a fault.
  induction items generalizing index seen nodes with
  | nil =>
    cases succeeded
    exact .nil
  | cons item rest ih =>
    obtain ⟨node, read, given⟩ := of_bind_ok succeeded
    split at given
    · cases given
    · obtain ⟨tail, following, given⟩ := of_bind_ok given
      cases given
      exact .cons (Converted.of_within_ok read) (ih following)

/-- The ids of nodes differ from those seen before and from each other. -/
theorem nodup_of_convertNodes {index : Nat} {seen : List String} {items : List Yaml} {nodes : List Node}
    (succeeded : convertNodes index seen items = .ok nodes) :
    (nodes.map (·.id)).Nodup ∧ ∀ node ∈ nodes, node.id ∉ seen := by
  -- The ids seen grow by each node.
  induction items generalizing index seen nodes with
  | nil =>
    cases succeeded
    simp
  | cons item rest ih =>
    obtain ⟨node, _, given⟩ := of_bind_ok succeeded
    split at given
    · cases given
    · next fresh =>
      obtain ⟨tail, following, given⟩ := of_bind_ok given
      cases given
      obtain ⟨distinct, unseen⟩ := ih following
      refine ⟨List.nodup_cons.2 ⟨?_, distinct⟩, List.forall_mem_cons.2 ⟨fresh, fun later member seenBefore =>
        unseen later member (List.mem_cons_of_mem _ seenBefore)⟩⟩
      intro again
      obtain ⟨later, member, same⟩ := List.mem_map.1 again
      exact unseen later member (same ▸ List.mem_cons_self)

/-- What the fields of a document have to hold for a definition to be read from them. -/
structure ReadsDefinition (fields : DocumentFields) (definition : Definition) : Prop where
  name : requiredText fields "name" = .ok definition.name
  description : optionalText fields "description" = .ok definition.description
  stateVariables : optionalVariables fields = .ok definition.stateVariables
  entryPoint : requiredText fields "entry_point" = .ok definition.entryPoint
  /-- There is at least one item, and each has a node. -/
  nodes : ∃ items, Yaml.lookup "nodes" fields = some (.sequence items) ∧ items ≠ [] ∧
    convertNodes 0 [] items = .ok definition.nodes

/-- The items that nodes are read from are those of an untagged list that is not empty. -/
theorem lookup_of_nodeItems {fields : DocumentFields} {items : List Yaml}
    (succeeded : nodeItems fields = .ok items) :
    Yaml.lookup "nodes" fields = some (.sequence items) ∧ items ≠ [] := by
  -- Anything else is a fault.
  unfold nodeItems at succeeded
  split at succeeded
  · cases succeeded
  · cases succeeded
  · next filled found =>
    cases succeeded
    exact ⟨found, filled⟩
  · cases succeeded

/-- A definition is read from the fields of its document. -/
theorem readsDefinition_of_convertDocument {root : Yaml} {definition : Definition}
    (succeeded : convertDocument root = .ok definition) : ReadsDefinition root.fields definition := by
  -- Its fields are read one after another.
  obtain ⟨fields, mapping, given⟩ := of_bind_ok succeeded
  obtain rfl := fields_of_requireMapping (Converted.of_within_ok mapping)
  obtain ⟨name, readName, given⟩ := of_bind_ok given
  obtain ⟨description, readDescription, given⟩ := of_bind_ok given
  obtain ⟨stateVariables, readVariables, given⟩ := of_bind_ok given
  obtain ⟨entryPoint, readEntry, given⟩ := of_bind_ok given
  obtain ⟨items, readItems, given⟩ := of_bind_ok given
  obtain ⟨nodes, readNodes, given⟩ := of_bind_ok given
  cases given
  obtain ⟨listed, filled⟩ := lookup_of_nodeItems readItems
  exact ⟨readName, readDescription, readVariables, readEntry,
    ⟨items, listed, filled, Converted.of_within_ok readNodes⟩⟩

end PipelineTrial
