import PipelineTrial.Proofs.Dictionary
import PipelineTrial.Schema

/-! A schema accepts given fields exactly when each declared one is there with its type, and keeps just those. -/

namespace PipelineTrial

namespace SchemaField

/-- Given fields hold a declared one, with a value of its type. -/
def MetBy (field : SchemaField) (given : Entries Json) : Prop :=
  ∃ value, given.get? field.name = some value ∧ field.type.accepts value = true

/-- What is wrong with given fields that do not meet a declared one: it is missing, or its value is of another type. -/
inductive MissedBy (field : SchemaField) (given : Entries Json) : SchemaFault → Prop where
  | missing : given.get? field.name = none → field.MissedBy given (.missing field.name)
  | mismatch {value : Json} : given.get? field.name = some value → field.type.accepts value = false →
      field.MissedBy given (.mismatch field.name field.type value.typeName)

variable {field : SchemaField} {given : Entries Json}

/-- Given fields meet a declared one, or there is something wrong with them. -/
theorem met_or_missed (field : SchemaField) (given : Entries Json) :
    field.MetBy given ∨ ∃ fault, field.MissedBy given fault := by
  -- The value under its name decides.
  cases found : given.get? field.name with
  | none => exact .inr ⟨_, .missing found⟩
  | some value =>
    cases fits : field.type.accepts value with
    | true => exact .inl ⟨value, found, fits⟩
    | false => exact .inr ⟨_, .mismatch found fits⟩

end SchemaField

namespace OutputSchema

/-- Given fields meet all that are declared. -/
def MetBy (schema : OutputSchema) (given : Entries Json) : Prop := ∀ field ∈ schema.fields, field.MetBy given

/-- A fault is that of the first declared field that given ones do not meet. -/
def MissedBy (schema : OutputSchema) (given : Entries Json) (fault : SchemaFault) : Prop :=
  -- All fields declared before it are met.
  ∃ before field after, schema.fields = before ++ field :: after ∧
    (∀ earlier ∈ before, SchemaField.MetBy earlier given) ∧ field.MissedBy given fault

/-- Given fields meet all that are declared, or there is a first one that they do not meet. -/
theorem met_or_missed (schema : OutputSchema) (given : Entries Json) :
    schema.MetBy given ∨ ∃ fault, schema.MissedBy given fault := by
  -- The induction is on the declared fields: one that is not met is the first unless one before it is.
  obtain ⟨fields⟩ := schema
  induction fields with
  | nil => exact .inl fun field member => absurd member List.not_mem_nil
  | cons field rest ih =>
    rcases field.met_or_missed given with met | ⟨fault, missed⟩
    · rcases ih with all | ⟨fault, before, later, after, split, earlier, missed⟩
      · exact .inl (List.forall_mem_cons.2 ⟨met, all⟩)
      · refine .inr ⟨fault, field :: before, later, after, ?_, List.forall_mem_cons.2 ⟨met, earlier⟩, missed⟩
        simpa using split
    · exact .inr ⟨fault, [], field, rest, rfl, by simp, missed⟩

section Collecting

variable {given : Entries Json} {fields : List SchemaField}

/-- Fields that are all met are collected, each with its value. -/
theorem collect_of_met (met : ∀ field ∈ fields, SchemaField.MetBy field given) (found : Dictionary Json) :
    ∃ valid, collect given found fields = .ok valid ∧ ∀ name, valid.get? name =
      if name ∈ fields.map (·.name) then given.get? name else found.get? name := by
  -- A name that is declared again is stored with the same value.
  induction fields generalizing found with
  | nil => exact ⟨found, rfl, by simp⟩
  | cons field rest ih =>
    obtain ⟨⟨value, there, fits⟩, others⟩ := List.forall_mem_cons.1 met
    obtain ⟨valid, collected, looked⟩ := ih others (found.insert field.name value)
    refine ⟨valid, by simpa [collect, there, fits] using collected, fun name => ?_⟩
    rw [looked, Dictionary.get?_insert, List.map_cons]
    by_cases same : name = field.name
    · subst same
      simp [there]
    · simp [same]

/-- Collecting stops at the first field that is not met, with what is wrong there. -/
theorem collect_of_missed {before after : List SchemaField} {field : SchemaField} {fault : SchemaFault}
    (met : ∀ earlier ∈ before, SchemaField.MetBy earlier given) (missed : field.MissedBy given fault)
    (found : Dictionary Json) : collect given found (before ++ field :: after) = .error fault := by
  -- The fields before it are collected first.
  induction before generalizing found with
  | nil => cases missed <;> simp [collect, *]
  | cons first rest ih =>
    obtain ⟨⟨value, there, fits⟩, others⟩ := List.forall_mem_cons.1 met
    simpa [collect, there, fits] using ih others (found.insert first.name value)

/-- What is collected depends on the values of declared names only. -/
theorem collect_congr {other : Entries Json}
    (same : ∀ name ∈ fields.map (·.name), other.get? name = given.get? name) (found : Dictionary Json) :
    collect other found fields = collect given found fields := by
  -- By induction on the fields: each is looked up by its name alone.
  induction fields generalizing found with
  | nil => rfl
  | cons field rest ih =>
    simp only [List.map_cons, List.forall_mem_cons] at same
    simp only [collect, same.1]
    cases given.get? field.name with
    | none => rfl
    | some value => simp only [ih same.2]

end Collecting

variable {schema : OutputSchema} {given : Entries Json}

/-- Given fields are refused for the first declared one that they do not meet. -/
theorem validate_of_missed {fault : SchemaFault} (missed : schema.MissedBy given fault) :
    schema.validate given = .error fault := by
  obtain ⟨before, field, after, split, earlier, missed⟩ := missed
  rw [validate, split, collect_of_missed earlier missed]

/-- Fields are not valid exactly when there is a first declared one that they do not meet, which the fault tells. -/
theorem validate_eq_error_iff {fault : SchemaFault} :
    schema.validate given = .error fault ↔ schema.MissedBy given fault := by
  refine ⟨fun failed => ?_, validate_of_missed⟩
  rcases schema.met_or_missed given with met | ⟨other, missed⟩
  · obtain ⟨valid, collected, _⟩ := collect_of_met met Dictionary.empty
    cases collected.symm.trans failed
  · cases (validate_of_missed missed).symm.trans failed
    exact missed

/-- Fields are valid exactly when they meet all that are declared, and the result has these and no others. -/
theorem validate_eq_ok_iff {valid : Dictionary Json} : schema.validate given = .ok valid ↔
    schema.MetBy given ∧ ∀ name, valid.get? name = if name ∈ schema.fieldNames then given.get? name else none := by
  -- Either all fields are met, and are collected, or the first that is not stops it.
  constructor
  · intro succeeded
    rcases schema.met_or_missed given with met | ⟨fault, missed⟩
    · obtain ⟨collected, same, looked⟩ := collect_of_met met Dictionary.empty
      cases same.symm.trans succeeded
      exact ⟨met, looked⟩
    · cases (validate_of_missed missed).symm.trans succeeded
  · rintro ⟨met, looked⟩
    obtain ⟨collected, same, found⟩ := collect_of_met met Dictionary.empty
    have equal : collected = valid := Dictionary.ext_get? fun name => (found name).trans (looked name).symm
    exact same.trans (congrArg _ equal)

/-- Fields are valid exactly when they meet all that are declared. -/
theorem validate_isOk_iff : (∃ valid, schema.validate given = .ok valid) ↔ schema.MetBy given := by
  constructor
  · rintro ⟨valid, succeeded⟩
    exact (validate_eq_ok_iff.1 succeeded).1
  · intro met
    obtain ⟨valid, collected, _⟩ := collect_of_met met Dictionary.empty
    exact ⟨valid, collected⟩

/-- Fields are judged by the values of declared names only. -/
theorem validate_congr {other : Entries Json}
    (same : ∀ name ∈ schema.fieldNames, other.get? name = given.get? name) :
    schema.validate other = schema.validate given := collect_congr same Dictionary.empty

/-- A valid result is the given map restricted to the declared names. -/
theorem eq_restrict_of_validate {given valid : Dictionary Json}
    (succeeded : schema.validate given.entries = .ok valid) : valid = given.restrict schema.fieldNames := by
  refine Dictionary.ext_get? fun name => ?_
  rw [(validate_eq_ok_iff.1 succeeded).2, Dictionary.get?_restrict]
  rfl

/-- A valid result is valid, and stays as it is. -/
theorem validate_of_validate {valid : Dictionary Json} (succeeded : schema.validate given = .ok valid) :
    schema.validate valid.entries = .ok valid := by
  -- It has the declared names with the values that were given.
  rw [← succeeded]
  refine validate_congr fun name declared => ?_
  have looked := (validate_eq_ok_iff.1 succeeded).2 name
  rwa [if_pos declared] at looked

/-- Values of undeclared names do not matter, whether they are added or take the place of others. -/
theorem validate_laidOver {given extra : Dictionary Json}
    (undeclared : ∀ name, extra.contains name = true → name ∉ schema.fieldNames) :
    schema.validate (extra.laidOver given).entries = schema.validate given.entries := by
  refine validate_congr fun name declared => ?_
  have absent : extra.get? name = none := by
    have missing := mt (undeclared name) (not_not_intro declared)
    simpa [Dictionary.contains] using missing
  have looked := extra.get?_laidOver given name
  rwa [absent, Option.none_or] at looked

end OutputSchema

end PipelineTrial
