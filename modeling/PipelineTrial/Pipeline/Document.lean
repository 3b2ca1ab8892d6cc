import PipelineTrial.Pipeline.Definition
import PipelineTrial.Pipeline.Fault

/-! Pipeline definitions out of document trees. -/

namespace PipelineTrial

/-- The entries of a document mapping. -/
abbrev DocumentFields := List (Yaml × Yaml)

/-- The entries of a value that has to be a mapping. -/
def requireMapping (value : Yaml) : Converted DocumentFields :=
  -- Tags on the mapping do not matter.
  match value.entries? with
  | some entries => .ok entries
  | none => faultHere .notMapping

/-- The text of a field, where numbers and booleans count as their text, and null as absence. -/
def optionalText (fields : DocumentFields) (name : String) : Converted (Option String) :=
  -- A tagged value is no text.
  match Yaml.lookup name fields with
  | none => .ok none
  | some .null => .ok none
  | some (.text value) => .ok (some value)
  | some (.integer value) => .ok (some (toString value))
  | some (.float value) => .ok (some (Yaml.floatText value))
  | some (.boolean value) => .ok (some (Yaml.booleanText value))
  | some _ => (faultHere .notText).within (.field name)

/-- The text of a field that has to be present. -/
def requiredText (fields : DocumentFields) (name : String) : Converted String := do
  -- Null counts as absent.
  match ← optionalText fields name with
  | some value => .ok value
  | none => (faultHere .missing).within (.field name)

/-- Texts out of list items, from a position on. -/
def convertNames (index : Nat) : List Yaml → Converted (List String)
  | [] => .ok []
  | item :: rest =>
    match item.text? with
    | none => (faultHere .notText).within (.item index)
    | some name => do
      let tail ← convertNames (index + 1) rest
      .ok (name :: tail)

/-- The names in a field, where one text stands for a list of one. -/
def nameList (fields : DocumentFields) (name : String) : Converted (List String) :=
  -- An absent field declares no names.
  match Yaml.lookup name fields with
  | none => .ok []
  | some .null => .ok []
  | some (.text single) => .ok [single]
  | some (.sequence items) => (convertNames 0 items).within (.field name)
  | some _ => (faultHere .notNames).within (.field name)

/-- The type with a given tag. -/
def requireType (tag : String) : Converted ValueType :=
  -- The fault shows the tag as written.
  match ValueType.parse? tag with
  | some type => .ok type
  | none => faultHere (.unknownType tag)

/-- The JSON form of a value. -/
def requireJson (value : Yaml) : Converted Json :=
  -- Some keys have no form.
  match value.toJson with
  | .ok json => .ok json
  | .error fault => faultHere (.unsupportedValue fault)

/-- The type tag and the initial value of a state variable's entry. -/
def variableParts : Yaml → Converted (String × Option Yaml)
  | .text tag => .ok (tag, none)
  | .mapping fields => do
    let tag ← requiredText fields "type"
    .ok (tag, (Yaml.lookup "value" fields).filter fun value => !value.isNull)
  | _ => faultHere .notVariable

/-- An initial value, which has to match the declared type. -/
def convertInitial (type : ValueType) : Option Yaml → Converted (Option Json)
  | none => .ok none
  | some raw => do
    let value ← (requireJson raw).within (.field "value")
    if type.accepts value then .ok (some value)
    else (faultHere (.wrongInitialValue type value.typeName)).within (.field "value")

/-- A state variable out of its entry. -/
def convertVariable (name : String) (entry : Yaml) : Converted StateVariable := do
  -- The tag is checked before the value.
  let (tag, initial) ← variableParts entry
  let type ← (requireType tag).within (.field "type")
  let value ← convertInitial type initial
  .ok ⟨name, type, value⟩

/-- State variables out of a mapping, in written order. -/
def convertVariables : DocumentFields → Converted (List StateVariable)
  | [] => .ok []
  | (key, entry) :: rest =>
    match key.text? with
    | none => faultHere .variableNameNotText
    | some name => do
      let declared ← (convertVariable name entry).within (.field name)
      let tail ← convertVariables rest
      .ok (declared :: tail)

/-- The source of an input out of its entry. -/
def convertSource (entry : Yaml) : Converted InputSource := do
  -- Templates go by two names.
  let fields ← requireMapping entry
  let type ← requiredText fields "type"
  match trimBlanks type with
  | "variable" => do
    let name ← requiredText fields "value"
    .ok (.variable name)
  | "fixed" =>
    match Yaml.lookup "value" fields with
    | none => (faultHere .missing).within (.field "value")
    | some raw => do
      let literal ← (requireJson raw).within (.field "value")
      .ok (.fixed literal)
  | "template" | "fstring" => do
    let template ← requiredText fields "value"
    .ok (.template template)
  | other => (faultHere (.unknownSource other)).within (.field "type")

/-- The sources of inputs added to those before, where a repeated name is replaced. -/
def convertSources (sources : Dictionary InputSource) :
    DocumentFields → Converted (Dictionary InputSource)
  | [] => .ok sources
  | (key, entry) :: rest =>
    match key.text? with
    | none => faultHere .inputNameNotText
    | some name => do
      let source ← (convertSource entry).within (.field name)
      convertSources (sources.insert name source) rest

/-- Schema fields out of a mapping from names to types. -/
def convertFieldMap : DocumentFields → Converted (List SchemaField)
  | [] => .ok []
  | (key, tag) :: rest =>
    match key.text? with
    | none => faultHere .fieldNameNotText
    | some name =>
      match tag.text? with
      | none => (faultHere .notTypeTag).within (.field name)
      | some tag => do
        let type ← (requireType tag).within (.field name)
        let tail ← convertFieldMap rest
        .ok (⟨name, type⟩ :: tail)

/-- A schema field out of a list item. -/
def convertFieldItem (item : Yaml) : Converted SchemaField := do
  -- Name and type are fields of their own.
  let fields ← requireMapping item
  let name ← requiredText fields "name"
  let tag ← requiredText fields "type"
  let type ← (requireType tag).within (.field "type")
  .ok ⟨name, type⟩

/-- Schema fields out of list items, from a position on. -/
def convertFieldList (index : Nat) : List Yaml → Converted (List SchemaField)
  | [] => .ok []
  | item :: rest => do
    let field ← (convertFieldItem item).within (.item index)
    let tail ← convertFieldList (index + 1) rest
    .ok (field :: tail)

/-- The fields of a schema, out of either of its forms. -/
def schemaFields : Yaml → Converted (List SchemaField)
  | .mapping entries => convertFieldMap entries
  | .sequence items => convertFieldList 0 items
  | _ => faultHere .notSchema

/-- A schema with at least one field. -/
def convertSchema (raw : Yaml) : Converted OutputSchema := do
  -- Both forms may turn out empty.
  let fields ← schemaFields raw
  if fields.isEmpty then faultHere .emptySchema else .ok ⟨fields⟩

/-- The schema in an optional field. -/
def optionalSchema (fields : DocumentFields) : Converted (Option OutputSchema) :=
  -- Null declares no schema.
  match Yaml.lookup "structured_output" fields with
  | none => .ok none
  | some .null => .ok none
  | some raw => do
    let schema ← (convertSchema raw).within (.field "structured_output")
    .ok (some schema)

/-- What a node does, out of the node's fields. -/
def convertKind (fields : DocumentFields) : Converted NodeKind := do
  -- The type decides which other fields are read.
  let type ← requiredText fields "type"
  match trimBlanks type with
  | "toolkit" => do
    let toolkit ← requiredText fields "toolkit"
    let operation ← requiredText fields "tool"
    .ok (.tool toolkit operation)
  | "llm" => do
    let model ← requiredText fields "model"
    let prompt ← requiredText fields "prompt"
    let system ← optionalText fields "system"
    let schema ← optionalSchema fields
    .ok (.languageModel model prompt system schema)
  | "code" => do
    let payload ← requiredText fields "code"
    .ok (.code payload)
  | other => (faultHere (.unknownNodeType other)).within (.field "type")

/-- The sources in an optional field. -/
def optionalSources (fields : DocumentFields) : Converted (Dictionary InputSource) :=
  -- Null declares no sources.
  match Yaml.lookup "input_mapping" fields with
  | none => .ok Dictionary.empty
  | some .null => .ok Dictionary.empty
  | some raw => Converted.within (.field "input_mapping") do
    let entries ← requireMapping raw
    convertSources Dictionary.empty entries

/-- Declared inputs followed by the names that only have a source. -/
def completeInputs (declared sourced : List String) : List String :=
  -- Each missing name is added once.
  sourced.foldl (fun inputs name => if name ∈ inputs then inputs else inputs ++ [name]) declared

/-- The error policy in an optional field, which is to abort unless one is given. -/
def optionalPolicy (fields : DocumentFields) : Converted ErrorPolicy := do
  -- The fault shows the name as written.
  match ← optionalText fields "error_policy" with
  | none => .ok .abort
  | some raw =>
    match ErrorPolicy.parse? raw with
    | some policy => .ok policy
    | none => (faultHere (.unknownPolicy raw)).within (.field "error_policy")

/-- The transition in an optional field, which is to finish unless one is given. -/
def optionalTransition (fields : DocumentFields) : Converted Transition := do
  -- Every text is a transition.
  match ← optionalText fields "transition" with
  | none => .ok .finish
  | some raw => .ok (Transition.parse raw)

/-- A node out of its tree. -/
def convertNode (raw : Yaml) : Converted Node := do
  -- Fields are read in a fixed order, and the first fault is reported.
  let fields ← requireMapping raw
  let id ← requiredText fields "id"
  if (trimBlanks id).isEmpty then (faultHere .blankId).within (.field "id")
  else
    let kind ← convertKind fields
    let declared ← nameList fields "input"
    let outputs ← nameList fields "output"
    let sources ← optionalSources fields
    let policy ← optionalPolicy fields
    let transition ← optionalTransition fields
    .ok ⟨id, kind, completeInputs declared sources.keys, outputs, sources, policy, transition⟩

/-- Nodes out of list items, from a position on, whose ids differ from all seen before. -/
def convertNodes (index : Nat) (seen : List String) : List Yaml → Converted (List Node)
  | [] => .ok []
  | item :: rest => do
    let node ← (convertNode item).within (.item index)
    if node.id ∈ seen then ((faultHere (.duplicateId node.id)).within (.field "id")).within (.item index)
    else
      let tail ← convertNodes (index + 1) (node.id :: seen) rest
      .ok (node :: tail)

/-- The state variables in an optional field. -/
def optionalVariables (fields : DocumentFields) : Converted (List StateVariable) :=
  -- Null declares no variables.
  match Yaml.lookup "state" fields with
  | none => .ok []
  | some .null => .ok []
  | some raw => Converted.within (.field "state") do
    let entries ← requireMapping raw
    convertVariables entries

/-- The items of the node list, of which there has to be at least one. -/
def nodeItems (fields : DocumentFields) : Converted (List Yaml) :=
  -- A tagged list is no list of nodes.
  match Yaml.lookup "nodes" fields with
  | none => (faultHere .missing).within (.field "nodes")
  | some (.sequence []) => (faultHere .noNodes).within (.field "nodes")
  | some (.sequence items) => .ok items
  | some _ => (faultHere .notNodes).within (.field "nodes")

/-- A definition out of a document tree. -/
def convertDocument (root : Yaml) : Converted Definition := do
  -- Fields are read in a fixed order, and the first fault is reported.
  let fields ← (requireMapping root).within (.field "document")
  let name ← requiredText fields "name"
  let description ← optionalText fields "description"
  let stateVariables ← optionalVariables fields
  let entryPoint ← requiredText fields "entry_point"
  let items ← nodeItems fields
  let nodes ← (convertNodes 0 [] items).within (.field "nodes")
  .ok ⟨name, description, stateVariables, entryPoint, nodes⟩

end PipelineTrial
