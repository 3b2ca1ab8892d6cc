import Mathlib.Data.List.Nodup
import PipelineTrial.Proofs.Model.Validation
import PipelineTrial.Proofs.Yaml.Keys

/-! Which schemas of documents can be met: those that declare no name with two types that have no value in common. -/

namespace PipelineTrial

namespace ValueType

/-- Two types have a value in common. -/
def Overlaps (left right : ValueType) : Prop := ∃ value, left.accepts value = true ∧ right.accepts value = true

/-- A value of a type, which for floating-point numbers is a whole one. -/
def sample : ValueType → Json
  | .string => .text ""
  | .integer => .integer 0
  | .float => .integer 0
  | .boolean => .boolean false
  | .list => .list []
  | .map => .object []

/-- The sample of a type has the type. -/
theorem accepts_sample (type : ValueType) : type.accepts type.sample = true := by cases type <;> rfl

/-- Types that have a value in common have the sample of either in common. -/
theorem accepts_sample_of_overlaps {left right : ValueType} (overlaps : left.Overlaps right) :
    right.accepts left.sample = true := by
  -- Numbers are the only values of more than one type, and each sample of these is a whole number.
  obtain ⟨value, ofLeft, ofRight⟩ := overlaps
  cases left <;> cases value <;> cases ofLeft <;> cases right <;> first | rfl | cases ofRight

instance (left right : ValueType) : Decidable (left.Overlaps right) :=
  decidable_of_iff (right.accepts left.sample = true)
    ⟨fun fits => ⟨left.sample, left.accepts_sample, fits⟩, accepts_sample_of_overlaps⟩

end ValueType

namespace OutputSchema

/-- There are fields that a schema accepts. -/
def Satisfiable (schema : OutputSchema) : Prop :=
  ∃ given valid : Dictionary Json, schema.validate given.entries = .ok valid

/-- Types that are declared for one name have a value in common. -/
def Consistent (schema : OutputSchema) : Prop :=
  ∀ left ∈ schema.fields, ∀ right ∈ schema.fields, left.name = right.name → left.type.Overlaps right.type

instance (schema : OutputSchema) : Decidable schema.Consistent :=
  inferInstanceAs (Decidable (∀ left ∈ schema.fields, ∀ right ∈ schema.fields,
    left.name = right.name → left.type.Overlaps right.type))

/-- For each declared name the sample of the first type it is declared with. -/
def samples (fields : List SchemaField) : Dictionary Json :=
  -- The first field of a name is stored last.
  fields.foldr (fun field built => built.insert field.name field.type.sample) Dictionary.empty

/-- A declared name has the sample of a type it is declared with. -/
theorem exists_get?_samples {fields : List SchemaField} {field : SchemaField} (member : field ∈ fields) :
    ∃ other ∈ fields, other.name = field.name ∧ (samples fields).get? field.name = some other.type.sample := by
  -- By induction on the fields: of those with one name the first gives the sample.
  induction fields with
  | nil => cases member
  | cons first rest ih =>
    rw [samples, List.foldr_cons, Dictionary.get?_insert]
    by_cases same : field.name = first.name
    · exact ⟨first, List.mem_cons_self, same.symm, if_pos same⟩
    · have inRest : field ∈ rest := by
        rcases List.mem_cons.1 member with rfl | inRest
        · exact absurd rfl same
        · exact inRest
      obtain ⟨other, memberOther, named, found⟩ := ih inRest
      rw [if_neg same]
      exact ⟨other, List.mem_cons_of_mem _ memberOther, named, found⟩

variable {schema : OutputSchema}

/-- A schema can be met exactly when the types of each name have a value in common. -/
theorem satisfiable_iff : schema.Satisfiable ↔ schema.Consistent := by
  constructor
  · rintro ⟨given, valid, succeeded⟩ left memberLeft right memberRight named
    -- The value of the name has both types.
    have met := (validate_eq_ok_iff.1 succeeded).1
    obtain ⟨value, found, fits⟩ := met left memberLeft
    obtain ⟨other, foundOther, fitsOther⟩ := met right memberRight
    rw [named] at found
    cases found.symm.trans foundOther
    exact ⟨value, fits, fitsOther⟩
  · intro consistent
    refine ⟨samples schema.fields, validate_isOk_iff.2 fun field member => ?_⟩
    obtain ⟨other, memberOther, named, found⟩ := exists_get?_samples member
    exact ⟨_, found, ValueType.accepts_sample_of_overlaps (consistent other memberOther field member named)⟩

/-- A schema whose names all differ is consistent. -/
theorem consistent_of_nodup (distinct : schema.fieldNames.Nodup) : schema.Consistent := by
  -- Two fields of one name are the same field.
  intro left memberLeft right memberRight named
  obtain rfl := List.inj_on_of_nodup_map distinct memberLeft memberRight named
  exact ⟨_, left.type.accepts_sample, left.type.accepts_sample⟩

/-- Under a schema that cannot be met every reply is an unexpected one. -/
theorem interpretReply_of_not_satisfiable (unsatisfiable : ¬schema.Satisfiable) (reply : ModelReply) :
    ∃ message, interpretReply reply (some schema) = .error (.unexpectedReply message) := by
  -- What comes out of a reply is valid.
  rcases schema.interpretReply_cases reply with ⟨given, valid, succeeded, _⟩ | reported
  · exact absurd ⟨valid, valid, validate_of_validate succeeded⟩ unsatisfiable
  · exact reported

end OutputSchema

/-- A text is the tag of a type. -/
theorem parse?_of_requireType {tag : String} {type : ValueType} (succeeded : requireType tag = .ok type) :
    ValueType.parse? tag = some type := by
  -- Any other text is a fault.
  unfold requireType at succeeded
  split at succeeded
  · next found =>
    cases succeeded
    exact found
  · cases succeeded

namespace SchemaField

/-- An entry of a mapping declares a field: its key is the name, and its value the tag of the type. -/
structure DeclaredByEntry (entry : Yaml × Yaml) (field : SchemaField) : Prop where
  name : entry.1.text? = some field.name
  type : ∃ tag, entry.2.text? = some tag ∧ ValueType.parse? tag = some field.type

/-- An item of a list declares a field: it has a name, and the tag of a type. -/
structure DeclaredByItem (item : Yaml) (field : SchemaField) : Prop where
  name : ∃ value, Yaml.lookup "name" item.fields = some value ∧ value.scalarText? = some field.name
  type : ∃ value tag, Yaml.lookup "type" item.fields = some value ∧ value.scalarText? = some tag ∧
    ValueType.parse? tag = some field.type

end SchemaField

/-- The fields of a schema, each declared by the entry of a mapping or the item of a list at its place. -/
inductive Yaml.DeclaresFields : Yaml → List SchemaField → Prop where
  | mapping {entries : List (Yaml × Yaml)} {fields : List SchemaField} :
      List.Forall₂ SchemaField.DeclaredByEntry entries fields → DeclaresFields (.mapping entries) fields
  | list {items : List Yaml} {fields : List SchemaField} :
      List.Forall₂ SchemaField.DeclaredByItem items fields → DeclaresFields (.sequence items) fields

/-- The fields of a mapping are declared by its entries. -/
theorem forall₂_of_convertFieldMap {entries : DocumentFields} {fields : List SchemaField}
    (succeeded : convertFieldMap entries = .ok fields) :
    List.Forall₂ SchemaField.DeclaredByEntry entries fields := by
  -- A key or a tag that is no text is a fault.
  induction entries generalizing fields with
  | nil =>
    cases succeeded
    exact .nil
  | cons entry rest ih =>
    obtain ⟨key, written⟩ := entry
    unfold convertFieldMap at succeeded
    split at succeeded
    · cases succeeded
    · next name text =>
      split at succeeded
      · cases succeeded
      · next tag tagText =>
        obtain ⟨type, read, given⟩ := of_bind_ok succeeded
        obtain ⟨tail, following, given⟩ := of_bind_ok given
        cases given
        exact .cons ⟨text, tag, tagText, parse?_of_requireType (Converted.of_within_ok read)⟩ (ih following)

/-- A field is declared by the item that it is read from. -/
theorem declaredByItem_of_convertFieldItem {item : Yaml} {field : SchemaField}
    (succeeded : convertFieldItem item = .ok field) : field.DeclaredByItem item := by
  -- The name and the type are read one after the other.
  obtain ⟨fields, mapping, given⟩ := of_bind_ok succeeded
  obtain rfl := fields_of_requireMapping mapping
  obtain ⟨name, readName, given⟩ := of_bind_ok given
  obtain ⟨tag, readTag, given⟩ := of_bind_ok given
  obtain ⟨type, readType, given⟩ := of_bind_ok given
  cases given
  obtain ⟨value, found, scalar⟩ := lookup_of_requiredText readTag
  exact ⟨lookup_of_requiredText readName, value, tag, found, scalar,
    parse?_of_requireType (Converted.of_within_ok readType)⟩

/-- The fields of a list are declared by its items. -/
theorem forall₂_of_convertFieldList {index : Nat} {items : List Yaml} {fields : List SchemaField}
    (succeeded : convertFieldList index items = .ok fields) :
    List.Forall₂ SchemaField.DeclaredByItem items fields := by
  induction items generalizing index fields with
  | nil =>
    cases succeeded
    exact .nil
  | cons item rest ih =>
    obtain ⟨field, read, given⟩ := of_bind_ok succeeded
    obtain ⟨tail, following, given⟩ := of_bind_ok given
    cases given
    exact .cons (declaredByItem_of_convertFieldItem (Converted.of_within_ok read)) (ih following)

/-- The fields of a schema are declared by the value that it is read from. -/
theorem declaresFields_of_convertSchema {raw : Yaml} {schema : OutputSchema}
    (succeeded : convertSchema raw = .ok schema) : raw.DeclaresFields schema.fields := by
  -- Neither form is left out, and nothing else is a schema.
  obtain ⟨fields, read, given⟩ := of_bind_ok succeeded
  split at given
  · cases given
  · cases given
    unfold schemaFields at read
    split at read
    · exact .mapping (forall₂_of_convertFieldMap read)
    · exact .list (forall₂_of_convertFieldList read)
    · cases read

/-- Entries whose keys are texts without tags have the names of the fields that they declare as their keys. -/
theorem keys_of_declaredByEntry {entries : List (Yaml × Yaml)} {fields : List SchemaField}
    (declared : List.Forall₂ SchemaField.DeclaredByEntry entries fields)
    (untagged : ∀ entry ∈ entries, ∃ name, entry.1 = .text name) :
    entries.map (·.1) = (fields.map (·.name)).map Yaml.text := by
  induction declared with
  | nil => rfl
  | cons first _ ih =>
    obtain ⟨⟨name, same⟩, others⟩ := List.forall_mem_cons.1 untagged
    have read := first.name
    rw [same] at read
    cases read
    rw [List.map_cons, List.map_cons, List.map_cons, same, ih others]

/-- A mapping of different keys that are texts without tags declares a schema that can be met. -/
theorem satisfiable_of_untagged {entries : List (Yaml × Yaml)} {schema : OutputSchema}
    (declared : Yaml.DeclaresFields (.mapping entries) schema.fields) (differ : Yaml.DifferByKey entries)
    (untagged : ∀ entry ∈ entries, ∃ name, entry.1 = .text name) : schema.Satisfiable := by
  cases declared with
  | mapping declared =>
    have distinct := differ.nodup untagged
    rw [keys_of_declaredByEntry declared untagged] at distinct
    exact OutputSchema.satisfiable_iff.2 (OutputSchema.consistent_of_nodup distinct.of_map)

/--
A schema that is read from a value can be met exactly when the types of each name have a value in common.

So it can when all its names differ. In a document they do where a mapping declares them and its keys have no tags, since
the keys of a mapping differ; a list can repeat them. A schema that cannot be met turns every reply into an unexpected one.
-/
theorem convertSchema_satisfiable {raw : Yaml} {schema : OutputSchema} (converted : convertSchema raw = .ok schema) :
    raw.DeclaresFields schema.fields ∧ (schema.Satisfiable ↔ schema.Consistent) ∧
      (schema.fieldNames.Nodup → schema.Satisfiable) ∧
      (∀ tree place entries, Yaml.IsRead tree → tree.at? place = some raw → raw = .mapping entries →
        (∀ entry ∈ entries, ∃ name, entry.1 = .text name) → schema.Satisfiable) ∧
      (¬schema.Satisfiable → ∀ reply, ∃ message,
        interpretReply reply (some schema) = .error (.unexpectedReply message)) := by
  have declared := declaresFields_of_convertSchema converted
  refine ⟨declared, OutputSchema.satisfiable_iff, ?_, ?_, OutputSchema.interpretReply_of_not_satisfiable⟩
  · intro distinct
    exact OutputSchema.satisfiable_iff.2 (OutputSchema.consistent_of_nodup distinct)
  · -- A document that is read has no mapping with a key twice.
    rintro tree place entries read reached rfl untagged
    have differ : Yaml.DifferByKey entries := read.keysDiffer place _ reached
    exact satisfiable_of_untagged declared differ untagged

/-- An item that declares a field. -/
def fieldItem (name tag : String) : Yaml := .mapping [(.text "name", .text name), (.text "type", .text tag)]

/-- A list that declares one of its names twice, with two types of numbers. -/
def numbersTree : Yaml := .sequence [fieldItem "count" "float", fieldItem "note" "string", fieldItem "count" "integer"]

/-- A whole number is of both types, so the schema can be met. -/
theorem convertSchema_satisfiable_numbersTree :
    convertSchema numbersTree = .ok tallySchema ∧ numbersTree.DeclaresFields tallySchema.fields ∧
      tallySchema.Satisfiable := by
  have converted : convertSchema numbersTree = .ok tallySchema := rfl
  obtain ⟨declared, satisfiable, _⟩ := convertSchema_satisfiable converted
  exact ⟨converted, declared, satisfiable.2 (by decide)⟩

/-- A document of one node, which asks a model for fields. -/
def schemaTree (schema : Yaml) : Yaml :=
  .mapping [(.text "name", .text "n"), (.text "entry_point", .text "a"), (.text "nodes", .sequence
    [.mapping [(.text "id", .text "a"), (.text "type", .text "llm"), (.text "model", .text "m"),
      (.text "prompt", .text "p"), (.text "structured_output", schema)]])]

/-- The definition in such a document. -/
def schemaDefinition (schema : OutputSchema) : Definition :=
  ⟨"n", none, [], "a",
    [⟨"a", .languageModel "m" "p" none (some schema), [], [], Dictionary.empty, .abort, .finish⟩]⟩

/-- A list that declares a name as a text and as a number. -/
def clashList : Yaml := .sequence [fieldItem "v" "string", fieldItem "v" "integer"]

/-- A mapping that does the same, as its keys differ in a tag alone. -/
def clashMapping : Yaml := .mapping [(.text "v", .text "string"), (.tagged "t" (.text "v"), .text "integer")]

/-- The schema in both. -/
def clashSchema : OutputSchema := ⟨[⟨"v", .string⟩, ⟨"v", .integer⟩]⟩

/-- Documents with either are accepted, and no fields meet the schema that they declare. -/
theorem convertSchema_accepts_clash :
    (∀ raw ∈ [clashList, clashMapping], convertSchema raw = .ok clashSchema ∧
      convertDocument (schemaTree raw) = .ok (schemaDefinition clashSchema)) ∧
    ∀ given valid : Dictionary Json, clashSchema.validate given.entries ≠ .ok valid := by
  refine ⟨fun raw member => ?_, fun given valid succeeded => ?_⟩
  · have either : raw = clashList ∨ raw = clashMapping := by simpa using member
    rcases either with rfl | rfl <;> exact ⟨rfl, rfl⟩
  · -- The value of the name would be a text and a number.
    exact absurd (OutputSchema.satisfiable_iff.1 ⟨given, valid, succeeded⟩) (by decide)

end PipelineTrial
