import PipelineTrial.Proofs.Json.Compact
import PipelineTrial.Proofs.Text.Pieces
import PipelineTrial.Template

/-! The placeholders of a template are the names in braces anywhere in it, and rendering asks for those alone. -/

namespace PipelineTrial

/-- A placeholder is a name in braces. -/
def IsPlaceholder (name : String) (written : List Char) : Prop :=
  -- Blanks would not be part of the name.
  IsName name.toList ∧ written = '{' :: (name.toList ++ ['}'])

/-- A template has a placeholder somewhere in it. -/
def HasPlaceholder (template name : String) : Prop :=
  -- What stands around it does not matter.
  ∃ before written after, template.toList = before ++ (written ++ after) ∧ IsPlaceholder name written

/-- Placeholders are read exactly as they are written. -/
theorem readPlaceholder_reads : Reads readPlaceholder IsPlaceholder := by
  -- Only a closing brace may stand behind the name.
  intro chars name rest
  constructor
  · rintro ⟨shorter, read⟩
    unfold readPlaceholder at read
    split at read
    · split at read
      · cases read
      · next found =>
        obtain ⟨named, rfl⟩ := isName_of_readName found
        split at read
        · cases read
          exact ⟨_, ⟨by simpa using named, rfl⟩, by simp⟩
        · cases read
    · cases read
  · rintro ⟨written, ⟨named, rfl⟩, rfl⟩
    obtain ⟨_, read⟩ := readName_append named (by decide : isNameRest '}' = false) rest
    have spelling : '{' :: (name.toList ++ ['}']) ++ rest = '{' :: (name.toList ++ '}' :: rest) := by simp
    rw [spelling]
    refine ⟨by simp only [List.length_cons, List.length_append]; omega, ?_⟩
    unfold readPlaceholder
    simp only [read, String.ofList_toList]

/-- A placeholder that starts inside another one, or behind it, starts behind it. -/
private theorem append_of_isPlaceholder {name other : String} {written spelled before after chars : List Char}
    (marked : IsPlaceholder name written) (found : IsPlaceholder other spelled)
    (same : written ++ chars = before ++ (spelled ++ after)) (inside : before ≠ []) :
    ∃ more, before = written ++ more ∧ chars = more ++ (spelled ++ after) := by
  -- Only the first character of a placeholder is an opening brace.
  obtain ⟨named, rfl⟩ := marked
  obtain ⟨-, rfl⟩ := found
  rcases List.append_eq_append_iff.1 same with ⟨more, split, later⟩ | ⟨tail, split, later⟩
  · exact ⟨more, split, later⟩
  · cases before with
    | nil => exact absurd rfl inside
    | cons first more =>
      cases tail with
      | nil => exact ⟨[], by simpa using split.symm, by simpa using later.symm⟩
      | cons brace rest =>
        obtain ⟨rfl, -⟩ := List.cons.inj later
        have within : '{' ∈ name.toList ++ ['}'] := by
          rw [List.cons_append] at split
          rw [(List.cons.inj split).2]
          simp
        rcases List.mem_append.1 within with inName | last
        · exact absurd inName (named.not_mem (by decide))
        · simp at last

/-- Cutting a template finds every placeholder in it. -/
private theorem mem_of_cutsInto {chars : List Char} {pieces : List (Piece String)}
    (cut : CutsInto IsPlaceholder chars pieces) {name : String} :
    .mark name ∈ pieces ↔
      ∃ before written after, chars = before ++ (written ++ after) ∧ IsPlaceholder name written := by
  -- None is lost inside a mark, since placeholders that overlap are the same.
  induction cut with
  | nil =>
    constructor
    · nofun
    · rintro ⟨before, written, after, same, -, rfl⟩
      simp at same
  | @literal char chars pieces unmarked _ ih =>
    constructor
    · intro member
      obtain ⟨before, written, after, rfl, found⟩ := ih.1 (by simpa using member)
      exact ⟨char :: before, written, after, rfl, found⟩
    · rintro ⟨before, written, after, same, found⟩
      cases before with
      | nil => exact absurd same (unmarked name written after found)
      | cons first more => exact List.mem_cons_of_mem _ (ih.2 ⟨more, written, after, (List.cons.inj same).2, found⟩)
  | @mark value written chars pieces marked _ ih =>
    constructor
    · intro member
      rcases List.mem_cons.1 member with same | later
      · cases same
        exact ⟨[], written, chars, rfl, marked⟩
      · obtain ⟨before, spelled, after, rfl, found⟩ := ih.1 later
        exact ⟨written ++ before, spelled, after, by simp, found⟩
    · rintro ⟨before, spelled, after, same, found⟩
      by_cases start : before = []
      · subst start
        obtain ⟨_, here⟩ := (readPlaceholder_reads _ value chars).2 ⟨written, marked, rfl⟩
        obtain ⟨_, there⟩ := (readPlaceholder_reads _ name after).2 ⟨spelled, found, same⟩
        rw [here] at there
        cases there
        exact List.mem_cons_self
      · obtain ⟨more, -, later⟩ := append_of_isPlaceholder marked found same start
        exact List.mem_cons_of_mem _ (ih.2 ⟨more, spelled, after, later, found⟩)

/-- The marks of a template are its placeholders. -/
theorem mem_templatePieces_iff {template name : String} :
    .mark name ∈ templatePieces template ↔ HasPlaceholder template name :=
  -- A template is cut by reading its placeholders.
  mem_of_cutsInto (cutsInto_cutPieces readPlaceholder_reads _)

section Rendering

variable {value? other? : String → Option Json} {template name : String}

/-- Rendering pieces fills them with what their values show. -/
private theorem renderPieces_eq (value? : String → Option Json) (pieces : List (Piece String)) :
    renderPieces value? pieces = fillPieces (fun name => (value? name).map fun value => value.shown.toList) pieces := by
  -- Both stop at the first name without a value.
  induction pieces with
  | nil => rfl
  | cons piece rest ih =>
    cases piece with
    | literal char =>
      simp only [renderPieces, fillPieces, ih]
      cases fillPieces _ rest <;> rfl
    | mark name =>
      simp only [renderPieces, fillPieces, ih]
      cases value? name with
      | none => rfl
      | some value => cases fillPieces _ rest <;> rfl

/-- A template is rendered exactly when all its placeholders name a value. -/
theorem exists_renderAll_iff :
    (∃ rendered, renderAll template value? = .ok rendered) ↔
      ∀ name, HasPlaceholder template name → (value? name).isSome = true := by
  -- The marks of the pieces are the placeholders.
  simp only [renderAll, renderPieces_eq]
  constructor
  · rintro ⟨rendered, done⟩ name holds
    split at done
    · next filled => simpa using (fillPieces_eq_ok_iff.1 filled).1 name (mem_templatePieces_iff.2 holds)
    · cases done
  · intro known
    rw [fillPieces_eq_ok_iff.2 ⟨fun name member => ?_, rfl⟩]
    · exact ⟨_, rfl⟩
    · simpa using known name (mem_templatePieces_iff.1 member)

/-- Rendering a template fails at the first of its placeholders that names no value. -/
theorem renderAll_eq_error_iff :
    renderAll template value? = .error name ↔ ∃ before after, templatePieces template = before ++ .mark name :: after ∧
      (∀ earlier, .mark earlier ∈ before → (value? earlier).isSome = true) ∧ value? name = none := by
  -- Filling stops at the same placeholder.
  have stops : renderAll template value? = .error name ↔
      fillPieces (fun name => (value? name).map fun value => value.shown.toList) (templatePieces template) =
        .error name := by
    rw [renderAll, renderPieces_eq]
    split <;> simp_all
  simp only [stops, fillPieces_eq_error_iff, Option.isSome_map, Option.map_eq_none_iff]

/-- Rendering fails at a placeholder that names no value. -/
theorem hasPlaceholder_of_renderAll (failed : renderAll template value? = .error name) :
    HasPlaceholder template name ∧ value? name = none := by
  -- It fails at a mark among the pieces.
  obtain ⟨before, after, same, -, absent⟩ := renderAll_eq_error_iff.1 failed
  exact ⟨mem_templatePieces_iff.1 (by simp [same]), absent⟩

/-- What a template is rendered to depends on the values of its placeholders alone. -/
theorem renderAll_congr (agree : ∀ name, HasPlaceholder template name → value? name = other? name) :
    renderAll template value? = renderAll template other? := by
  -- No other name is asked for.
  simp only [renderAll, renderPieces_eq]
  rw [fillPieces_congr fun name member => ?_]
  rw [agree name (mem_templatePieces_iff.1 member)]

/-- The text in the place of a placeholder: what the value of its name shows, or else the placeholder as written. -/
def placed (value? : String → Option Json) (name : String) : List Char :=
  match value? name with
  | some value => value.shown.toList
  | none => '{' :: (name.toList ++ ['}'])

/-- Characters stand for a placeholder: the value of its name if it has one, and else the placeholder itself. -/
inductive StandsFor (name : String) : Option Json → List Char → Prop where
  /-- A text stands there as it is, without quotes and escapes. -/
  | text (value : String) : StandsFor name (some (.text value)) value.toList
  | compact {value : Json} {chars : List Char} (noText : ∀ text, value ≠ .text text)
    (written : Json.Compact value chars) : StandsFor name (some value) chars
  | kept : StandsFor name none ('{' :: (name.toList ++ ['}']))

/-- What is put in the place of a placeholder stands for it: texts as they are, other values as compact JSON. -/
theorem standsFor_placed (value? : String → Option Json) (name : String) :
    StandsFor name (value? name) (placed value? name) := by
  -- Only texts are shown without their quotes.
  unfold placed
  cases value? name with
  | none => exact .kept
  | some value =>
    have compact : (String.ofList (Json.write value)).toList = Json.write value := String.toList_ofList
    cases value with
    | text value => exact .text value
    | null | boolean | integer | float | list | object =>
      refine .compact (fun _ => Json.noConfusion) ?_
      simp only [Json.shown, Json.compact, compact]
      exact Json.compact_write _

/-- A prompt is filled in at its placeholders, and all else is copied. -/
theorem toList_renderKnown (template : String) (value? : String → Option Json) :
    (renderKnown template value?).toList = filled (placed value?) (templatePieces template) := by
  -- Each piece has the same characters on both sides.
  rw [renderKnown, String.toList_ofList, filled]
  refine congrArg (List.flatMap · _) (funext fun piece => ?_)
  cases piece with
  | literal char => rfl
  | mark name => rfl

/-- A template that is rendered is the prompt of the same values. -/
theorem eq_renderKnown_of_renderAll {rendered : String} (done : renderAll template value? = .ok rendered) :
    rendered = renderKnown template value? := by
  -- All its placeholders have values, so none is left as it is written.
  rw [renderAll, renderPieces_eq] at done
  split at done
  · next chars fills =>
    cases done
    obtain ⟨known, rfl⟩ := fillPieces_eq_ok_iff.1 fills
    refine String.toList_inj.1 ?_
    rw [String.toList_ofList, toList_renderKnown]
    refine filled_congr fun name member => ?_
    obtain ⟨value, given⟩ := Option.isSome_iff_exists.1 (Option.isSome_map ▸ known name member)
    simp [placed, given]
  · cases done

end Rendering

end PipelineTrial
