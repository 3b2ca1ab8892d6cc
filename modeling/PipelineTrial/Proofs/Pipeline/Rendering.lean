import PipelineTrial.Proofs.Pipeline.Inputs

/-! The template of an input renders as the prompt over inputs and state, or fails at its first unknown name. -/

namespace PipelineTrial

/-- What comes of a template with given pieces that a node renders over inputs and a state. -/
structure RendersOver (node : Node) (inputs : Inputs) (state : State) (template : String)
    (pieces : List (Piece String)) (outcome : Except InputError String) : Prop where
  fails : (∃ error, outcome = .error error) ↔
    ∃ name, .mark name ∈ pieces ∧ inputs.contains name = false ∧ state.contains name = false
  /-- The first placeholder that names nothing is reported, and no other error. -/
  first : ∀ error, outcome = .error error ↔ ∃ before name after,
    pieces = before ++ .mark name :: after ∧
      (∀ earlier, .mark earlier ∈ before → inputs.contains earlier = true ∨ state.contains earlier = true) ∧
      inputs.contains name = false ∧ state.contains name = false ∧ error = .unresolvedTemplate node.id name
  /-- It is the prompt over both maps. -/
  same : ∀ rendered, outcome = .ok rendered → rendered = renderKnown template (inputs.laidOver state.values).get?

section Rendering

variable {node : Node} {inputs : Inputs} {state : State} {template rendered name : String} {error : InputError}

/-- A name has a value in one of two maps when it has one in either. -/
private theorem isSome_wanted_iff : ((inputs.get? name).or (state.get? name)).isSome = true ↔
    inputs.contains name = true ∨ state.contains name = true := by
  rw [Option.isSome_or, Bool.or_eq_true]
  exact Iff.rfl

/-- A name has no value in either of two maps when it is not among the names of both. -/
private theorem wanted_eq_none_iff : (inputs.get? name).or (state.get? name) = none ↔
    inputs.contains name = false ∧ state.contains name = false := by
  rw [← Option.not_isSome_iff_eq_none, isSome_wanted_iff, not_or, Bool.not_eq_true, Bool.not_eq_true]

/-- A node fails to render a template at the first placeholder that names neither an input nor a variable. -/
theorem Node.render_eq_error_iff : node.render inputs state template = .error error ↔ ∃ before name after,
    templatePieces template = before ++ .mark name :: after ∧
      (∀ earlier, .mark earlier ∈ before → inputs.contains earlier = true ∨ state.contains earlier = true) ∧
      inputs.contains name = false ∧ state.contains name = false ∧ error = .unresolvedTemplate node.id name := by
  -- The node is added to the name that is missing.
  have named : node.render inputs state template = .error error ↔ ∃ name,
      (renderAll template fun wanted => (inputs.get? wanted).or (state.get? wanted)) = .error name ∧
        error = .unresolvedTemplate node.id name := by
    unfold Node.render
    cases renderAll template _ <;> simp [Except.mapError, eq_comm]
  simp only [named, renderAll_eq_error_iff, isSome_wanted_iff, wanted_eq_none_iff]
  constructor
  · rintro ⟨name, ⟨before, after, same, known, unnamed, unset⟩, told⟩
    exact ⟨before, name, after, same, known, unnamed, unset, told⟩
  · rintro ⟨before, name, after, same, known, unnamed, unset, told⟩
    exact ⟨name, ⟨before, after, same, known, unnamed, unset⟩, told⟩

/-- A node renders a template exactly when each of its placeholders names an input or a variable. -/
theorem Node.exists_render_iff : (∃ rendered, node.render inputs state template = .ok rendered) ↔
    ∀ name, .mark name ∈ templatePieces template → inputs.contains name = true ∨ state.contains name = true := by
  -- The marks of the pieces are the placeholders.
  have plain : (∃ rendered, node.render inputs state template = .ok rendered) ↔
      ∃ rendered, (renderAll template fun wanted => (inputs.get? wanted).or (state.get? wanted)) = .ok rendered := by
    unfold Node.render
    cases renderAll template _ <;> simp [Except.mapError]
  simp only [plain, exists_renderAll_iff, mem_templatePieces_iff, isSome_wanted_iff]

/-- What a node renders is the prompt over inputs and variables together. -/
theorem Node.eq_renderKnown_of_render (done : node.render inputs state template = .ok rendered) :
    rendered = renderKnown template (inputs.laidOver state.values).get? := by
  -- The joint map is looked up in the same order.
  have joint : (inputs.laidOver state.values).get? = fun wanted => (inputs.get? wanted).or (state.get? wanted) :=
    funext fun wanted => inputs.get?_laidOver state.values wanted
  rw [joint]
  refine eq_renderKnown_of_renderAll ?_
  unfold Node.render at done
  cases outcome : renderAll template _ with
  | error missing =>
    rw [outcome] at done
    cases done
  | ok text =>
    rw [outcome] at done
    cases done
    rfl

end Rendering

/--
A template is cut in one way at its placeholders, and both kinds of rendering fill those in once and copy all else.

A text is put in as it is, every other value as compact JSON, and neither is read again. A prompt keeps the placeholders
that name no input. The template of an input fails at the first that names neither an input nor a variable, and is else
the prompt over both, of which the inputs win.
-/
theorem render_over (template : String) :
    ∃ pieces, (∀ other, CutsInto IsPlaceholder template.toList other ↔ other = pieces) ∧
      (∀ value? : String → Option Json, ∃ standing : String → List Char,
        (∀ name, StandsFor name (value? name) (standing name)) ∧
          (renderKnown template value?).toList = filled standing pieces) ∧
      ∀ (node : Node) (inputs : Inputs) (state : State),
        RendersOver node inputs state template pieces (node.render inputs state template) := by
  -- The pieces are cut from the template alone.
  have prompt (value? : String → Option Json) : ∃ standing : String → List Char,
      (∀ name, StandsFor name (value? name) (standing name)) ∧
        (renderKnown template value?).toList = filled standing (templatePieces template) :=
    ⟨placed value?, standsFor_placed value?, toList_renderKnown template value?⟩
  refine ⟨templatePieces template, fun other => cutsInto_iff readPlaceholder_reads, prompt,
    fun node inputs state => ⟨?_, fun error => Node.render_eq_error_iff, fun rendered => Node.eq_renderKnown_of_render⟩⟩
  constructor
  · -- A failure names a placeholder without a value.
    rintro ⟨error, failed⟩
    obtain ⟨before, name, after, same, -, unnamed, unset, -⟩ := Node.render_eq_error_iff.1 failed
    exact ⟨name, by simp [same], unnamed, unset⟩
  · -- What is rendered has a value for each of its placeholders.
    rintro ⟨name, member, unnamed, unset⟩
    cases outcome : node.render inputs state template with
    | error error => exact ⟨error, rfl⟩
    | ok rendered =>
      have known := Node.exists_render_iff.1 ⟨rendered, outcome⟩ name member
      simp [unnamed, unset] at known

/-- A template that asks for the inputs of a letter, and for a name that is not among them. -/
def letterTemplate : String := "Dear \x7bwho\x7d, \x7bcount\x7d of \x7bitems\x7d; \x7bother\x7d"

/-- The inputs of a letter: a text that looks like a placeholder, a number below zero and a list. -/
def letterInputs : Inputs :=
  ((Dictionary.empty.insert "who" (.text "\x7bcount\x7d")).insert "count" (.integer (-3))).insert "items"
    (.list [.integer 1, .text "two", .null])

/-- A node that writes letters. -/
def letterNode : Node :=
  ⟨"write", .tool "post" "write", ["who", "count", "items"], [], Dictionary.empty, .abort, .finish⟩

/-- The prompt of a letter shows its text as it is and all else as compact JSON; no input may have it as a template. -/
theorem render_over_letter : ∃ pieces standing,
    CutsInto IsPlaceholder letterTemplate.toList pieces ∧
      (∀ name, StandsFor name (letterInputs.get? name) (standing name)) ∧
      filled standing pieces = "Dear \x7bcount\x7d, -3 of [1,\"two\",null]; \x7bother\x7d".toList ∧
      RendersOver letterNode letterInputs State.empty letterTemplate pieces
        (.error (.unresolvedTemplate "write" "other")) := by
  -- Both texts are computed, and what holds of every template is then said of them.
  obtain ⟨pieces, cuts, prompt, renders⟩ := render_over letterTemplate
  obtain ⟨standing, stands, same⟩ := prompt letterInputs.get?
  have shown : renderKnown letterTemplate letterInputs.get? =
      "Dear \x7bcount\x7d, -3 of [1,\"two\",null]; \x7bother\x7d" := by decide +kernel
  have failed : letterNode.render letterInputs State.empty letterTemplate =
      .error (.unresolvedTemplate "write" "other") := by decide +kernel
  exact ⟨pieces, standing, (cuts pieces).2 rfl, stands, by rw [← same, shown], failed ▸ renders _ _ _⟩

end PipelineTrial
