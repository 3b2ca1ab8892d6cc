import PipelineTrial.Proofs.Pipeline.Document
import PipelineTrial.Proofs.Schema
import PipelineTrial.Rehearsal.Models

/-! Replies to a node with a schema: what the schema makes of them, and what the node can yield at all. -/

namespace PipelineTrial

namespace OutputSchema

/-- A value is an object of the declared names and no others, each with a value of every type it is declared with. -/
def Describes (schema : OutputSchema) (value : Json) : Prop :=
  ∃ valid : Dictionary Json, value = .ofDictionary valid ∧
    (∀ name, valid.contains name = true ↔ name ∈ schema.fieldNames) ∧ schema.MetBy valid.entries

/-- How a schema judges a map of fields. -/
structure Judges (schema : OutputSchema) (given : Dictionary Json) : Prop where
  accepted : (∃ valid, schema.validate given.entries = .ok valid) ↔ schema.MetBy given.entries
  kept : ∀ valid, schema.validate given.entries = .ok valid → valid = given.restrict schema.fieldNames
  /-- A fault is that of the first declared field that is missing or of another type. -/
  refused : ∀ fault, schema.validate given.entries = .error fault ↔ schema.MissedBy given.entries fault
  /-- A reply with such fields is not the expected one, and the failure tells the fault. -/
  reported : ∀ fault, schema.MissedBy given.entries fault →
    interpretReply (.fields given) (some schema) = .error (.unexpectedReply fault.message)
  again : ∀ valid, schema.validate given.entries = .ok valid → schema.validate valid.entries = .ok valid
  widened : ∀ extra : Dictionary Json, (∀ name, extra.contains name = true → name ∉ schema.fieldNames) →
    schema.validate (extra.laidOver given).entries = schema.validate given.entries

variable {schema : OutputSchema}

/-- A field that is met has a value. -/
theorem MetBy.contains {given : Dictionary Json} (met : schema.MetBy given.entries) {name : String}
    (declared : name ∈ schema.fieldNames) : given.contains name = true := by
  obtain ⟨field, member, rfl⟩ := List.mem_map.1 declared
  obtain ⟨value, found, _⟩ := met field member
  exact Option.isSome_iff_exists.2 ⟨value, found⟩

/-- A schema describes every valid result. -/
theorem describes_of_validate {given : Entries Json} {valid : Dictionary Json}
    (succeeded : schema.validate given = .ok valid) : schema.Describes (.ofDictionary valid) := by
  -- A result is valid itself, so it meets the schema.
  have met : schema.MetBy valid.entries := (validate_eq_ok_iff.1 (validate_of_validate succeeded)).1
  refine ⟨valid, rfl, fun name => ⟨fun present => ?_, met.contains⟩, met⟩
  have looked := (validate_eq_ok_iff.1 succeeded).2 name
  by_cases declared : name ∈ schema.fieldNames
  · exact declared
  · rw [if_neg declared] at looked
    rw [Dictionary.contains, looked] at present
    cases present

/-- A reply, be it a text or fields, comes to valid fields under a schema, or is reported as an unexpected one. -/
theorem interpretReply_cases (schema : OutputSchema) (reply : ModelReply) :
    (∃ given valid, schema.validate given = .ok valid ∧
      interpretReply reply (some schema) = .ok (.ofDictionary valid)) ∨
      ∃ message, interpretReply reply (some schema) = .error (.unexpectedReply message) := by
  -- A text may fail to hold an object before its fields are judged.
  cases reply with
  | fields content =>
    cases judged : schema.validate content.entries with
    | ok valid => exact .inl ⟨_, valid, judged, by simp only [interpretReply, judged]⟩
    | error fault => exact .inr ⟨_, by simp only [interpretReply, judged]; rfl⟩
  | text content =>
    simp only [interpretReply, parseStructured]
    split
    · exact .inr ⟨_, rfl⟩
    · split
      · exact .inr ⟨_, rfl⟩
      · next fields _ =>
        cases judged : schema.validate fields with
        | ok valid => exact .inl ⟨_, valid, judged, rfl⟩
        | error fault => exact .inr ⟨_, rfl⟩
      · exact .inr ⟨_, rfl⟩

/-- A schema describes whatever comes out of a reply. -/
theorem describes_of_interpretReply {reply : ModelReply} {value : Json}
    (interpreted : interpretReply reply (some schema) = .ok value) : schema.Describes value := by
  rcases schema.interpretReply_cases reply with ⟨given, valid, succeeded, same⟩ | ⟨message, reported⟩
  · cases same.symm.trans interpreted
    exact describes_of_validate succeeded
  · cases reported.symm.trans interpreted

/-- Fields that miss a schema are reported as an unexpected reply. -/
theorem interpretReply_of_missed {given : Dictionary Json} {fault : SchemaFault}
    (missed : schema.MissedBy given.entries fault) :
    interpretReply (.fields given) (some schema) = .error (.unexpectedReply fault.message) := by
  simp only [interpretReply, validate_of_missed missed]

/-- A schema judges every map of fields. -/
theorem judges_fields (schema : OutputSchema) (given : Dictionary Json) : schema.Judges given where
  accepted := validate_isOk_iff
  kept _ := eq_restrict_of_validate
  refused _ := validate_eq_error_iff
  reported _ := interpretReply_of_missed
  again _ := validate_of_validate
  widened _ := validate_laidOver

end OutputSchema

/-- What is left of an error when it is changed was a success before. -/
theorem of_mapError_ok {ε δ α : Type} {change : ε → δ} {outcome : Except ε α} {value : α}
    (succeeded : outcome.mapError change = .ok value) : outcome = .ok value := by
  -- An error is changed into an error.
  cases outcome with
  | error error => cases succeeded
  | ok found => simpa [Except.mapError] using succeeded

/-- An answer that was changed comes from an answer after the same delay. -/
theorem Response.of_map_answer {α β : Type} {change : α → β} {response : Response α} {delay : Duration} {value : β}
    (answered : response.map change = .answer delay value) :
    ∃ inner, response = .answer delay inner ∧ change inner = value := by
  -- Nothing else is turned into an answer.
  cases response with
  | answer delay inner =>
    cases answered
    exact ⟨inner, rfl, rfl⟩
  | crash delay => cases answered
  | silence => cases answered

/-- A node that asks a model yields what its schema describes, or fails. -/
theorem Executor.describes_of_respond {σ : Type} {client : ModelClient σ} {session : String} {node : Node}
    {model prompt : String} {system : Option String} {schema : OutputSchema}
    (kind : node.kind = .languageModel model prompt system (some schema)) {inputs : Inputs} {now delay : Duration}
    {world next : σ} {value : Json}
    (responded : (ofModel client session).respond node inputs now world = (.answer delay (.ok value), next)) :
    schema.Describes value := by
  -- The value comes out of a reply of the client.
  simp only [ofModel, kind, Prod.mk.injEq] at responded
  obtain ⟨outcome, _, interpreted⟩ := Response.of_map_answer responded.1
  obtain ⟨reply, _, described⟩ := of_bind_ok (of_mapError_ok interpreted)
  exact OutputSchema.describes_of_interpretReply described

/--
A schema accepts a map of fields exactly when each declared one is there with its type, and keeps just the declared ones.

Whatever a model replies to a node with a schema, as a text or as fields, the node yields an object of the declared names
with values of their types, or it fails.
-/
theorem OutputSchema.judges_replies (schema : OutputSchema) :
    (∀ given : Dictionary Json, schema.Judges given) ∧
      ∀ (σ : Type) (client : ModelClient σ) (session : String) (node : Node) (model prompt : String)
        (system : Option String), node.kind = .languageModel model prompt system (some schema) →
        ∀ (inputs : Inputs) (now delay : Duration) (world next : σ) (value : Json),
          (Executor.ofModel client session).respond node inputs now world = (.answer delay (.ok value), next) →
            schema.Describes value := by
  constructor
  · intro given
    exact schema.judges_fields given
  · intro σ client session node model prompt system kind inputs now delay world next value responded
    exact Executor.describes_of_respond kind responded

/-- A schema that declares a name twice, with two types. -/
def tallySchema : OutputSchema := ⟨[⟨"count", .float⟩, ⟨"note", .string⟩, ⟨"count", .integer⟩]⟩

/-- A node that asks a model for an object of that schema. -/
def tallyNode : Node := ⟨"ask", .languageModel "m" "p" none (some tallySchema), [], [], Dictionary.empty, .abort, .finish⟩

/-- Fields of which one is not declared. -/
def tallyFields : Dictionary Json := .ofList [("count", .integer 3), ("more", .null), ("note", .text "x")]

/-- The model replies with a field that is not declared, and the node yields the others. -/
theorem OutputSchema.judges_replies_tally :
    tallySchema.validate tallyFields.entries = .ok (tallyFields.restrict tallySchema.fieldNames) ∧
      tallySchema.Describes (.ofDictionary (tallyFields.restrict tallySchema.fieldNames)) ∧
      tallySchema.validate (Dictionary.laidOver (.ofList [("more", .integer 1)]) tallyFields).entries =
        tallySchema.validate tallyFields.entries := by
  -- The declared fields are there with their types, so the reply is accepted.
  obtain ⟨judges, yields⟩ := tallySchema.judges_replies
  have met : tallySchema.MetBy tallyFields.entries := by
    rintro field (_ | ⟨_, _ | ⟨_, _ | ⟨_, ⟨⟩⟩⟩⟩)
    · exact ⟨.integer 3, rfl, rfl⟩
    · exact ⟨.text "x", rfl, rfl⟩
    · exact ⟨.integer 3, rfl, rfl⟩
  obtain ⟨valid, succeeded⟩ := (judges tallyFields).accepted.2 met
  obtain rfl := (judges tallyFields).kept valid succeeded
  -- The node yields what the reply is restricted to.
  have interpreted : interpretReply (.fields tallyFields) (some tallySchema) =
      .ok (.ofDictionary (tallyFields.restrict tallySchema.fieldNames)) := by
    simp only [interpretReply, succeeded]
  have responded (reply : ModelReply) : ((Executor.ofModel Rehearsal.models "session").respond tallyNode
      Dictionary.empty Duration.zero ⟨.empty, .ofReplies [.ok reply]⟩).1 =
        .answer Duration.zero ((interpretReply reply (some tallySchema)).mapError ModelError.toNodeError) := rfl
  have yielded := responded (.fields tallyFields)
  rw [interpreted] at yielded
  refine ⟨succeeded, yields _ _ _ _ _ _ _ rfl _ _ _ _ _ _ (Prod.ext yielded rfl), ?_⟩
  -- The further field is not among those declared.
  refine (judges tallyFields).widened _ fun name present => ?_
  obtain rfl : name = "more" := by
    simpa [Dictionary.contains, Dictionary.ofList, Dictionary.get?_insert] using present
  simp [tallySchema, OutputSchema.fieldNames]

end PipelineTrial
