import PipelineTrial.Environment

/-! Texts without references stand for themselves in every environment. -/

namespace PipelineTrial

/-- Whether a reference starts anywhere in a text. -/
def HasReference (raw : String) : Prop :=
  -- What comes before it does not matter.
  ∃ before after, raw.toList = before ++ after ∧ (readReference after).isSome = true

/-- A reference starts with a dollar. -/
theorem mem_of_hasReference {raw : String} (holds : HasReference raw) : '$' ∈ raw.toList := by
  -- No reference is read anywhere else.
  obtain ⟨before, after, same, found⟩ := holds
  rw [same]
  refine List.mem_append_right _ ?_
  unfold readReference at found
  split at found
  · exact List.mem_cons_self
  · cases found

/-- A text in which no mark starts is cut into its characters. -/
theorem cutPieces_of_unmarked {α : Type} {read : MarkReader α} {chars : List Char}
    (unmarked : ∀ before after, chars = before ++ after → read after = none) :
    cutPieces read chars = chars.map Piece.literal := by
  -- Each character starts no mark.
  induction chars with
  | nil => simp [cutPieces]
  | cons char rest ih =>
    have here := unmarked [] (char :: rest) rfl
    have later := ih fun before after same => unmarked (char :: before) after (by simp [same])
    rw [cutPieces]
    simp [here, later]

/-- Characters stand for themselves. -/
theorem Environment.expandAll_literals (environment : Environment) (chars : List Char) :
    environment.expandAll (chars.map Piece.literal) = .ok chars := by
  induction chars with
  | nil => rfl
  | cons char rest ih => simp [expandAll, expand, ih]

/-- A text without a reference is resolved to itself. -/
theorem resolveVariables_of_not_hasReference {raw : String} (plain : ¬HasReference raw)
    (environment : Environment) : resolveVariables raw environment = .ok raw := by
  -- It is cut into its characters.
  have unmarked (before after : List Char) (same : raw.toList = before ++ after) :
      readReference after = none := by
    cases found : readReference after with
    | none => rfl
    | some pair => exact absurd ⟨before, after, same, by simp [found]⟩ plain
  simp [resolveVariables, cutPieces_of_unmarked unmarked, environment.expandAll_literals]

end PipelineTrial
