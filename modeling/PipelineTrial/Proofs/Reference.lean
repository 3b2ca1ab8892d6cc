import PipelineTrial.Environment
import PipelineTrial.Proofs.Dictionary
import PipelineTrial.Proofs.Text.Pieces

/-! References are read as they are written, and a text is resolved in one pass over those that it holds. -/

namespace PipelineTrial

/-- The forms of a reference: a name in braces behind a dollar, alone or with a default up to the closing brace. -/
inductive Reference.IsWritten : Reference → List Char → Prop where
  | plain {name : String} (named : IsName name.toList) :
      IsWritten ⟨name, none⟩ ('$' :: '{' :: (name.toList ++ ['}']))
  | defaulted {name fallback : String} (named : IsName name.toList) (unclosed : '}' ∉ fallback.toList) :
      IsWritten ⟨name, some fallback⟩ ('$' :: '{' :: (name.toList ++ ':' :: (fallback.toList ++ ['}'])))

section Reading

variable {afterBrace name rest : List Char}

/-- A default ends at the first closing brace. -/
private theorem span_fallback {fallback : List Char} (unclosed : '}' ∉ fallback) (rest : List Char) :
    (fallback ++ '}' :: rest).takeWhile (· != '}') = fallback ∧
      (fallback ++ '}' :: rest).dropWhile (· != '}') = '}' :: rest := by
  -- No character of the default stops the run.
  have passes : ∀ char ∈ fallback, (char != '}') = true := by
    intro char member
    simpa using fun same : char = '}' => unclosed (same ▸ member)
  rw [List.takeWhile_append_of_pos passes, List.dropWhile_append_of_pos passes]
  simp

/-- A name before a closing brace is a reference without a default. -/
private theorem readReference_plain {inside : ('}' :: rest).length < afterBrace.length}
    (read : readName afterBrace = some (name, ⟨'}' :: rest, inside⟩)) :
    ∃ shorter, readReference ('$' :: '{' :: afterBrace) =
      some (⟨String.ofList name, none⟩, ⟨rest, shorter⟩) := by
  refine ⟨by simp only [List.length_cons] at inside ⊢; omega, ?_⟩
  unfold readReference
  simp only [read]

/-- A name before a colon is a reference with the default that follows. -/
private theorem readReference_defaulted {fallback : List Char} (unclosed : '}' ∉ fallback)
    {inside : (':' :: (fallback ++ '}' :: rest)).length < afterBrace.length}
    (read : readName afterBrace = some (name, ⟨':' :: (fallback ++ '}' :: rest), inside⟩)) :
    ∃ shorter, readReference ('$' :: '{' :: afterBrace) =
      some (⟨String.ofList name, some (String.ofList fallback)⟩, ⟨rest, shorter⟩) := by
  -- What follows the colon up to the brace is the default.
  obtain ⟨taken, left⟩ := span_fallback unclosed rest
  refine ⟨by simp only [List.length_cons, List.length_append] at inside ⊢; omega, ?_⟩
  unfold readReference
  simp only [read]
  split
  · next ended =>
    rw [left] at ended
    cases ended
    simp only [taken]
  · next unended => exact absurd left (unended rest)

end Reading

/-- What is read as a reference is written as one. -/
private theorem isWritten_of_readReference {chars rest : List Char} {reference : Reference}
    {shorter : rest.length < chars.length}
    (read : readReference chars = some (reference, ⟨rest, shorter⟩)) :
    ∃ written, reference.IsWritten written ∧ chars = written ++ rest := by
  -- A closing brace or a colon stands behind the name.
  unfold readReference at read
  split at read
  · split at read
    · cases read
    · next found =>
      obtain ⟨named, rfl⟩ := isName_of_readName found
      split at read
      · cases read
        exact ⟨_, .plain (by simpa using named), by simp⟩
      · rename_i afterColon _ _ _
        split at read
        · next ended =>
          cases read
          have whole := (List.takeWhile_append_dropWhile (p := (· != '}')) (l := afterColon)).symm
          rw [ended] at whole
          have unclosed : '}' ∉ afterColon.takeWhile (· != '}') := fun inside => by
            simpa using List.mem_takeWhile_imp inside
          refine ⟨_, .defaulted (by simpa using named) (by simpa using unclosed), ?_⟩
          simp [← whole]
        · cases read
      · cases read
  · cases read

/-- References are read exactly as they are written. -/
theorem readReference_reads : Reads readReference Reference.IsWritten := by
  intro chars reference rest
  constructor
  · rintro ⟨shorter, read⟩
    exact isWritten_of_readReference read
  · rintro ⟨written, spelled, rfl⟩
    -- The name ends at the brace or at the colon, and the default at the first brace behind it.
    cases spelled with
    | @plain name named =>
      obtain ⟨_, read⟩ := readName_append named (by decide : isNameRest '}' = false) rest
      have found := readReference_plain read
      rw [String.ofList_toList] at found
      have spelling : '$' :: '{' :: (name.toList ++ ['}']) ++ rest =
          '$' :: '{' :: (name.toList ++ '}' :: rest) := by simp
      rwa [spelling]
    | @defaulted name fallback named unclosed =>
      obtain ⟨_, read⟩ :=
        readName_append named (by decide : isNameRest ':' = false) (fallback.toList ++ '}' :: rest)
      have found := readReference_defaulted unclosed read
      rw [String.ofList_toList, String.ofList_toList] at found
      have spelling : '$' :: '{' :: (name.toList ++ ':' :: (fallback.toList ++ ['}'])) ++ rest =
          '$' :: '{' :: (name.toList ++ ':' :: (fallback.toList ++ '}' :: rest)) := by simp
      rwa [spelling]

section Resolving

variable {environment : Environment} {pieces : List (Piece Reference)}

namespace Environment

/-- An environment covers a reference that has a default or names one of its variables. -/
def Covers (environment : Environment) (reference : Reference) : Prop :=
  -- A default makes the variable optional.
  reference.fallback = none → environment.contains reference.name = true

/-- The text in the place of a reference: the value of its variable, or else its default. -/
def replacement? (environment : Environment) (reference : Reference) : Option String :=
  -- A set variable wins over the default.
  (environment.get? reference.name).or reference.fallback

/-- Exactly the covered references are replaced. -/
theorem isSome_replacement?_iff {reference : Reference} :
    (environment.replacement? reference).isSome = true ↔ environment.Covers reference := by
  unfold replacement? Covers Dictionary.contains
  cases environment.get? reference.name <;> cases reference.fallback <;> simp

/-- A reference is expanded to the text in its place. -/
private theorem expand_mark (environment : Environment) (reference : Reference) :
    environment.expand (.mark reference) =
      match environment.replacement? reference with
      | some text => .ok text.toList
      | none => .error ⟨reference.name⟩ := by
  simp only [expand, replacement?]
  cases environment.get? reference.name <;> cases reference.fallback <;> rfl

/-- The characters of pieces with a text in the place of each reference, or the first reference without one. -/
def fill (environment : Environment) (pieces : List (Piece Reference)) : Except Reference (List Char) :=
  -- Texts are put in as they are.
  fillPieces (fun reference => (environment.replacement? reference).map String.toList) pieces

/-- The pieces can be filled exactly when all references are covered. -/
theorem fill_eq_ok_iff {chars : List Char} :
    environment.fill pieces = .ok chars ↔
      (∀ reference, .mark reference ∈ pieces → environment.Covers reference) ∧
        chars = filled (fun reference => ((environment.replacement? reference).getD "").toList) pieces := by
  have texts : (fun reference => ((environment.replacement? reference).map String.toList).getD []) =
      fun reference => ((environment.replacement? reference).getD "").toList := by
    funext reference
    cases environment.replacement? reference <;> rfl
  simp only [fill, fillPieces_eq_ok_iff, Option.isSome_map, isSome_replacement?_iff, texts]

/-- The pieces cannot be filled from the first reference on that is not covered. -/
theorem fill_eq_error_iff {reference : Reference} :
    environment.fill pieces = .error reference ↔ ∃ before after, pieces = before ++ .mark reference :: after ∧
      (∀ earlier, .mark earlier ∈ before → environment.Covers earlier) ∧ ¬environment.Covers reference := by
  simp only [fill, fillPieces_eq_error_iff, ← Option.not_isSome_iff_eq_none, Option.isSome_map,
    isSome_replacement?_iff]

/-- Expanding pieces fills them. -/
theorem expandAll_eq (environment : Environment) (pieces : List (Piece Reference)) :
    environment.expandAll pieces = (environment.fill pieces).mapError fun reference => ⟨reference.name⟩ := by
  -- Both stop at the first reference without a text.
  induction pieces with
  | nil => rfl
  | cons piece rest ih =>
    rw [expandAll, ih]
    cases piece with
    | literal char =>
      simp only [expand, fill, fillPieces]
      cases fillPieces _ rest <;> rfl
    | mark reference =>
      simp only [expand_mark, fill, fillPieces]
      cases environment.replacement? reference with
      | none => rfl
      | some text => cases fillPieces _ rest <;> rfl

/-- What comes of a text in an environment once the text is cut into pieces. -/
structure Resolves (environment : Environment) (pieces : List (Piece Reference))
    (outcome : Except MissingVariable String) : Prop where
  succeeds : (∃ resolved, outcome = .ok resolved) ↔
    ∀ reference, .mark reference ∈ pieces → environment.Covers reference
  /-- Each reference is replaced by its text, and no other character changes. -/
  replaced : ∀ resolved, outcome = .ok resolved → resolved.toList =
    filled (fun reference => ((environment.replacement? reference).getD "").toList) pieces
  /-- The first reference that is not covered is reported. -/
  fails : ∀ missing, outcome = .error missing ↔ ∃ before reference after,
    pieces = before ++ .mark reference :: after ∧
      (∀ earlier, .mark earlier ∈ before → environment.Covers earlier) ∧
      ¬environment.Covers reference ∧ missing = ⟨reference.name⟩

/-- The text of filled pieces is what they resolve to, and the name of a reference that has no text is missing. -/
theorem resolves_of_fill {outcome : Except MissingVariable String}
    (told : outcome = ((environment.fill pieces).map String.ofList).mapError fun reference => ⟨reference.name⟩) :
    environment.Resolves pieces outcome := by
  -- The pieces are either filled, or stop at a reference.
  subst told
  cases fills : environment.fill pieces with
  | ok chars =>
    obtain ⟨covered, same⟩ := fill_eq_ok_iff.1 fills
    refine ⟨⟨fun _ => covered, fun _ => ⟨_, rfl⟩⟩, ?_, fun missing => ⟨nofun, ?_⟩⟩
    · rintro resolved ⟨⟩
      rwa [String.toList_ofList]
    · rintro ⟨before, reference, after, rfl, -, uncovered, -⟩
      exact absurd (covered reference (by simp)) uncovered
  | error reference =>
    obtain ⟨before, after, same, covered, uncovered⟩ := fill_eq_error_iff.1 fills
    have bare : ¬∀ other, .mark other ∈ pieces → environment.Covers other :=
      fun all => uncovered (all reference (by simp [same]))
    refine ⟨⟨nofun, fun all => absurd all bare⟩, nofun, fun missing => ⟨?_, ?_⟩⟩
    · rintro ⟨⟩
      exact ⟨before, reference, after, same, covered, uncovered, rfl⟩
    · rintro ⟨before', other, after', same', covered', uncovered', rfl⟩
      have stopped := fill_eq_error_iff.2 ⟨before', after', same', covered', uncovered'⟩
      rw [fills] at stopped
      cases stopped
      rfl

end Environment

/-- A text is resolved by filling its pieces. -/
theorem resolveVariables_eq (raw : String) (environment : Environment) :
    resolveVariables raw environment =
      ((environment.fill (cutPieces readReference raw.toList)).map String.ofList).mapError
        fun reference => ⟨reference.name⟩ := by
  rw [resolveVariables, environment.expandAll_eq]
  cases environment.fill _ <;> rfl

/--
A text is cut in one way at its leftmost references, and resolving it replaces those once.

What stands in their places depends on the environment, and where they are does not.
More variables never make it fail.
-/
theorem resolveVariables_onePass (raw : String) :
    ∃ pieces, (∀ other, CutsInto Reference.IsWritten raw.toList other ↔ other = pieces) ∧
      (∀ environment : Environment, environment.Resolves pieces (resolveVariables raw environment)) ∧
      ∀ smaller larger : Environment, (∀ name, smaller.contains name = true → larger.contains name = true) →
        (∃ resolved, resolveVariables raw smaller = .ok resolved) →
          ∃ resolved, resolveVariables raw larger = .ok resolved := by
  have resolves (environment : Environment) :
      environment.Resolves (cutPieces readReference raw.toList) (resolveVariables raw environment) :=
    -- The pieces are cut from the text alone.
    Environment.resolves_of_fill (resolveVariables_eq raw environment)
  refine ⟨_, fun other => cutsInto_iff readReference_reads, resolves, fun smaller larger more succeeded => ?_⟩
  refine (resolves larger).succeeds.2 fun reference member needed => more _ ?_
  exact (resolves smaller).succeeds.1 succeeded reference member needed

end Resolving

/-- A dollar before a reference whose default looks like the start of another, and a reference without a default. -/
def nestedText : String := "$$\x7bA:$\x7bB\x7d\x7d$\x7bC\x7d"

/-- An environment with a reference for the value of its variable. -/
def nestedEnvironment : Environment := Dictionary.empty.insert "C" "$\x7bA\x7d"

/-- The value and the default are put in as they stand, with one variable more as well as without it. -/
theorem resolveVariables_onePass_nested :
    (∃ pieces, CutsInto Reference.IsWritten nestedText.toList pieces ∧
      nestedEnvironment.Resolves pieces (.ok "$$\x7bB\x7d$\x7bA\x7d")) ∧
    (∀ name, nestedEnvironment.contains name = true → (nestedEnvironment.insert "A" "a").contains name = true) ∧
    (∃ resolved, resolveVariables nestedText nestedEnvironment = .ok resolved) ∧
    ∃ resolved, resolveVariables nestedText (nestedEnvironment.insert "A" "a") = .ok resolved := by
  -- The result is computed, and the larger environment resolves the text as well.
  obtain ⟨pieces, cut, resolves, kept⟩ := resolveVariables_onePass nestedText
  have evaluated : resolveVariables nestedText nestedEnvironment = .ok "$$\x7bB\x7d$\x7bA\x7d" := by decide +kernel
  have more (name : String) (given : nestedEnvironment.contains name = true) :
      (nestedEnvironment.insert "A" "a").contains name = true := by
    rw [Dictionary.contains, Dictionary.get?_insert]
    split
    · rfl
    · exact given
  exact ⟨⟨pieces, (cut pieces).2 rfl, evaluated ▸ resolves nestedEnvironment⟩, more, ⟨_, evaluated⟩,
    kept _ _ more ⟨_, evaluated⟩⟩

end PipelineTrial
