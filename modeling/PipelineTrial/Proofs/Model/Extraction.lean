import PipelineTrial.Proofs.Model.Span

/-! An object is found and read in a reply whatever prose, blanks and fences stand around it. -/

namespace PipelineTrial

open Json (inBraces)

/-- Prose surrounds an object when no opening brace stands before its text and no closing one after it. -/
theorem surrounds_of_parse? {text : String} {fields : List (String × Json)}
    (parsed : Json.parse? text = some (.object fields)) :
    ∃ body, Json.parse? (String.ofList (inBraces body)) = some (.object fields) ∧
      ∀ before after : String, '{' ∉ before.toList → '}' ∉ after.toList →
        Surrounds body (before ++ text ++ after).toList := by
  -- The blanks of the text itself hold no braces.
  obtain ⟨-, start, body, rest, spelled, blankBefore, blankAfter, core⟩ :=
    Json.parse?_inBraces parsed
  refine ⟨body, core, fun before after opens closes => ?_⟩
  refine ⟨before.toList ++ start, rest ++ after.toList, by simp [spelled], ?_, ?_⟩
  · intro found
    rcases List.mem_append.1 found with inBefore | inStart
    · exact opens inBefore
    · exact absurd (blankBefore '{' inStart) (by decide)
  · intro found
    rcases List.mem_append.1 found with inRest | inAfter
    · exact absurd (blankAfter '}' inRest) (by decide)
    · exact closes inAfter

/-- A schema judges an object in prose as it judges the same fields given at once. -/
theorem interpretReply_surrounded (schema : OutputSchema) {text : String}
    {fields : List (String × Json)} (parsed : Json.parse? text = some (.object fields)) :
    ∃ content : Dictionary Json, content.entries = fields ∧
      ∀ before after : String, '{' ∉ before.toList → '}' ∉ after.toList →
        interpretReply (.text (before ++ text ++ after)) (some schema) =
            interpretReply (.fields content) (some schema) ∧
          ((∃ valid, schema.validate fields = .ok valid ∧
              interpretReply (.fields content) (some schema) = .ok (.ofDictionary valid)) ∨
            ∃ fault, schema.validate fields = .error fault ∧
              interpretReply (.fields content) (some schema) =
                .error (.unexpectedReply fault.message)) := by
  -- The object that is found writes the same fields, and both replies go on to the same check.
  obtain ⟨ascending, -⟩ := Json.parse?_inBraces parsed
  obtain ⟨body, core, surrounds⟩ := surrounds_of_parse? parsed
  refine ⟨⟨fields, ascending⟩, rfl, fun before after opens closes => ?_⟩
  have found := (surrounds before after opens closes).extractObject?
  simp only [interpretReply, parseStructured, found, core]
  cases judged : schema.validate fields with
  | ok valid => exact ⟨rfl, .inl ⟨valid, rfl, rfl⟩⟩
  | error fault => exact ⟨rfl, .inr ⟨fault, rfl, rfl⟩⟩

/-- An object whose text holds braces of its own. -/
def verdictText : String := " \x7b\"passed\": true, \"note\": \"\x7d\x7b\"\x7d\n"

/-- The object is found in a fence with a stray brace on either side. -/
theorem interpretReply_surrounded_verdict :
    Json.parse? verdictText =
        some (.object [("note", .text "\x7d\x7b"), ("passed", .boolean true)]) ∧
      ∃ content : Dictionary Json,
        content.entries = [("note", .text "\x7d\x7b"), ("passed", .boolean true)] ∧
        interpretReply (.text ("\x60\x60\x60json\n \x7d" ++ verdictText ++ "\x60\x60\x60\x7b"))
            (some ⟨[⟨"passed", .boolean⟩]⟩) =
          interpretReply (.fields content) (some ⟨[⟨"passed", .boolean⟩]⟩) := by
  have parsed : Json.parse? verdictText =
      some (.object [("note", .text "\x7d\x7b"), ("passed", .boolean true)]) := by decide +kernel
  obtain ⟨content, same, judged⟩ := interpretReply_surrounded ⟨[⟨"passed", .boolean⟩]⟩ parsed
  exact ⟨parsed, content, same, (judged _ _ (by decide) (by decide)).1⟩

end PipelineTrial
