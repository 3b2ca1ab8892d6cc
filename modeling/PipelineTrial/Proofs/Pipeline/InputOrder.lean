import PipelineTrial.Proofs.Pipeline.Inputs

/-! The order in which a node declares its inputs matters to templates that ask for other templates alone. -/

namespace PipelineTrial

/-- The inputs with one more template rendered over them and the state. -/
def renderOne (state : State) (inputs : Inputs) (entry : String × String) : Option Inputs :=
  -- Inputs win over state variables of the same name.
  (renderAll entry.2 fun wanted => (inputs.get? wanted).or (state.get? wanted)).toOption.map
    fun rendered => inputs.insert entry.1 (.text rendered)

/-- The inputs with all templates rendered one by one. -/
def renderEach (state : State) (inputs : Inputs) : List (String × String) → Option Inputs
  | [] => some inputs
  | entry :: rest => (renderOne state inputs entry).bind fun inputs => renderEach state inputs rest

/-- Rendering templates renders them one by one. -/
theorem toOption_renderTemplates (node : Node) (state : State) (inputs : Inputs) (templates : List (String × String)) :
    (renderTemplates node state inputs templates).toOption = renderEach state inputs templates := by
  -- Only the report of a failure is left out.
  induction templates generalizing inputs with
  | nil => rfl
  | cons entry rest ih =>
    rw [renderTemplates, Node.render, renderEach, renderOne]
    cases renderAll entry.2 fun wanted => (inputs.get? wanted).or (state.get? wanted) with
    | error missing => rfl
    | ok rendered => exact ih _

/-- A template does not see an input that it has no placeholder for. -/
private theorem renderOne_insert {state : State} {inputs : Inputs} {entry : String × String} {name : String}
    (unasked : ¬HasPlaceholder entry.2 name) (different : entry.1 ≠ name) (value : Json) :
    renderOne state (inputs.insert name value) entry =
      (renderOne state inputs entry).map fun resolved => resolved.insert name value := by
  -- All placeholders have the same values as before.
  have alike : renderAll entry.2 (fun wanted => ((inputs.insert name value).get? wanted).or (state.get? wanted)) =
      renderAll entry.2 fun wanted => (inputs.get? wanted).or (state.get? wanted) := by
    refine renderAll_congr fun wanted holds => ?_
    have other : wanted ≠ name := fun same => unasked (same ▸ holds)
    rw [Dictionary.get?_insert, if_neg other]
  rw [renderOne, renderOne, alike, Option.map_map]
  refine congrArg (Option.map · _) (funext fun rendered => ?_)
  exact inputs.insert_comm different.symm _ _

/-- Rendering a template stores a value under its name. -/
private theorem of_renderOne {state : State} {inputs resolved : Inputs} {entry : String × String}
    (done : renderOne state inputs entry = some resolved) : ∃ value, resolved = inputs.insert entry.1 value := by
  obtain ⟨rendered, -, rfl⟩ := Option.map_eq_some_iff.1 done
  exact ⟨_, rfl⟩

/-- Two templates are rendered alike in either order if neither asks for the other. -/
private theorem renderOne_comm {state : State} {first second : String × String} (inputs : Inputs)
    (different : first.1 ≠ second.1) (unasked : ¬HasPlaceholder first.2 second.1)
    (unasking : ¬HasPlaceholder second.2 first.1) :
    ((renderOne state inputs first).bind fun inputs => renderOne state inputs second) =
      (renderOne state inputs second).bind fun inputs => renderOne state inputs first := by
  -- Each comes to the same before and after the other, and fails in both places or in neither.
  have firstAlike (value : Json) : renderOne state (inputs.insert second.1 value) first =
      (renderOne state inputs first).map (·.insert second.1 value) := renderOne_insert unasked different value
  have secondAlike (value : Json) : renderOne state (inputs.insert first.1 value) second =
      (renderOne state inputs second).map (·.insert first.1 value) := renderOne_insert unasking different.symm value
  cases one : renderOne state inputs first with
  | none =>
    cases two : renderOne state inputs second with
    | none => rfl
    | some resolved =>
      obtain ⟨value, rfl⟩ := of_renderOne two
      simp [firstAlike, one]
  | some earlier =>
    obtain ⟨value, rfl⟩ := of_renderOne one
    cases two : renderOne state inputs second with
    | none => simp [secondAlike, two]
    | some later =>
      obtain ⟨new, rfl⟩ := of_renderOne two
      simp [firstAlike, secondAlike, one, two, inputs.insert_comm different]

/-- No template of the node asks for an input that the node renders from another template. -/
def Node.TemplatesApart (node : Node) : Prop :=
  -- A template may ask for its own input, which it finds in the state.
  ∀ name template, node.Renders name template → ∀ wanted, HasPlaceholder template wanted → wanted ≠ name →
    ∀ other, ¬node.Renders wanted other

/-- Templates that are apart are rendered to the same inputs in any order, or fail in every order. -/
private theorem renderEach_perm {node : Node} (apart : node.TemplatesApart) (state : State)
    {templates others : List (String × String)} (same : templates.Perm others)
    (rendered : ∀ entry ∈ templates, node.Renders entry.1 entry.2) (inputs : Inputs) :
    renderEach state inputs templates = renderEach state inputs others := by
  -- Two templates next to each other may change places.
  induction same generalizing inputs with
  | nil => rfl
  | cons entry _ ih =>
    simp only [renderEach]
    congr 1
    exact funext fun resolved => ih (fun other member => rendered other (List.mem_cons_of_mem _ member)) resolved
  | swap second first rest =>
    have ofFirst := rendered first (by simp)
    have ofSecond := rendered second (by simp)
    simp only [renderEach]
    rw [← Option.bind_assoc, ← Option.bind_assoc]
    by_cases equal : first.1 = second.1
    · have both : first = second := by
        have templatesEqual := ofFirst.2.symm.trans (equal ▸ ofSecond.2)
        exact Prod.ext equal (InputSource.template.inj templatesEqual)
      rw [both]
    · rw [renderOne_comm inputs (Ne.symm equal) ?_ ?_]
      · exact fun holds => apart _ _ ofSecond _ holds equal _ ofFirst
      · exact fun holds => apart _ _ ofFirst _ holds (Ne.symm equal) _ ofSecond
  | trans first _ ih ih' =>
    rw [ih rendered, ih' fun entry member => rendered entry (first.mem_iff.2 member)]

/-- An outcome with its fault left out is its result. -/
private theorem toOption_eq_some_iff {ε α : Type} {outcome : Except ε α} {result : α} :
    outcome.toOption = some result ↔ outcome = .ok result := by
  cases outcome <;> simp [Except.toOption]

section Reordering

variable {node : Node} {state : State} {inputs : Inputs} {reordered : List String}

/-- With all variables known, what is resolved comes from rendering each template over the stored values. -/
private theorem toOption_of_known (known : node.KnowsVariables state) :
    (resolveInputs node state).toOption =
      renderEach state (node.store state Dictionary.empty node.inputs) (node.inputs.filterMap node.template?) := by
  rw [resolveInputs_eq, knowsVariables_iff.2 known]
  exact toOption_renderTemplates _ _ _ _

/-- With a variable unknown, nothing is resolved. -/
private theorem toOption_of_unknown (unknown : ¬node.KnowsVariables state) :
    (resolveInputs node state).toOption = none := by
  rw [resolveInputs_eq]
  cases searched : node.inputs.findSome? (node.absent? state) with
  | none => exact absurd (knowsVariables_iff.1 searched) unknown
  | some source => rfl

/-- The values that are stored before the rendering do not depend on the order of inputs. -/
private theorem store_reordered (state : State) (same : node.inputs.Perm reordered) :
    ({ node with inputs := reordered } : Node).store state Dictionary.empty reordered =
      node.store state Dictionary.empty node.inputs := by
  -- Whether a name is an input does not depend on the order, and neither does its source.
  refine Dictionary.ext_get? fun name => ?_
  rw [Node.get?_store, Node.get?_store, if_congr same.mem_iff.symm rfl rfl]
  rfl

/-- Which variables a node reads does not depend on the order of its inputs. -/
private theorem readsVariable_reordered (same : node.inputs.Perm reordered) {name source : String} :
    ({ node with inputs := reordered } : Node).ReadsVariable name source ↔ node.ReadsVariable name source :=
  and_congr_left' same.mem_iff.symm

/-- An input that is rendered is rendered in every order. -/
private theorem renders_reordered (same : node.inputs.Perm reordered) {name template : String} :
    ({ node with inputs := reordered } : Node).Renders name template ↔ node.Renders name template :=
  and_congr_left' same.mem_iff.symm

/-- An input that is known before the rendering is known so in every order. -/
private theorem supplies_reordered (same : node.inputs.Perm reordered) {name : String} :
    ({ node with inputs := reordered } : Node).Supplies name ↔ node.Supplies name :=
  and_congr_left' same.mem_iff.symm

/-- Variables that are known in one order are known in all of them. -/
private theorem knowsVariables_reordered (same : node.inputs.Perm reordered) :
    ({ node with inputs := reordered } : Node).KnowsVariables state ↔ node.KnowsVariables state := by
  simp only [Node.KnowsVariables, readsVariable_reordered same]

/-- Placeholders that are known in one order are known in all of them. -/
private theorem knowsPlaceholders_reordered (same : node.inputs.Perm reordered) :
    ({ node with inputs := reordered } : Node).KnowsPlaceholders state ↔ node.KnowsPlaceholders state := by
  simp only [Node.KnowsPlaceholders, renders_reordered same, supplies_reordered same]

/-- Templates that are apart come to the same inputs in every order, if they come to any. -/
private theorem toOption_reordered (same : node.inputs.Perm reordered) (apart : node.TemplatesApart) :
    (resolveInputs node state).toOption = (resolveInputs { node with inputs := reordered } state).toOption := by
  -- A variable without a value fails in every order.
  by_cases known : node.KnowsVariables state
  · have stored := store_reordered state same
    rw [toOption_of_known known, toOption_of_known ((knowsVariables_reordered same).2 known)]
    change _ = renderEach state (Node.store _ state Dictionary.empty reordered) (reordered.filterMap node.template?)
    rw [stored]
    exact renderEach_perm apart state (same.filterMap _) (fun entry listed => mem_templates_iff.1 listed) _
  · rw [toOption_of_unknown known, toOption_of_unknown (known ∘ (knowsVariables_reordered same).1)]

/-- A template that is rendered first finds its placeholders in the state or among the stored values. -/
private theorem known_of_first {name template : String} {rest : List String} (first : node.inputs = name :: rest)
    (given : node.sourceOf name = .template template) (resolved : resolveInputs node state = .ok inputs)
    {wanted : String} (holds : HasPlaceholder template wanted) :
    (state.get? wanted).isSome = true ∨ node.Supplies wanted := by
  -- Nothing has been rendered yet that it could find.
  obtain ⟨known, -⟩ := rendered_of_resolveInputs resolved
  have front : node.template? name = some (name, template) := by simp [Node.template?, given]
  have done := toOption_of_known known
  rw [resolved, first, List.filterMap_cons, front, ← first] at done
  obtain ⟨later, rendered, -⟩ := Option.bind_eq_some_iff.1 done.symm
  obtain ⟨text, shown, -⟩ := Option.map_eq_some_iff.1 rendered
  have found := exists_renderAll_iff.1 ⟨text, toOption_eq_some_iff.1 shown⟩ wanted holds
  rw [Option.isSome_or, Bool.or_eq_true] at found
  rcases found with stored | valued
  · refine .inr (by_contra fun unsupplied => ?_)
    rw [(get?_store_eq_none_iff known).2 unsupplied] at stored
    cases stored
  · exact .inl valued

end Reordering

/-- What two orders of the same inputs have in common. -/
structure Node.AgreesWith (node other : Node) (state : State) : Prop where
  unknown : (∃ id source, resolveInputs node state = .error (.unknownVariable id source)) ↔
    ∃ id source, resolveInputs other state = .error (.unknownVariable id source)
  declared : ∀ inputs others, resolveInputs node state = .ok inputs → resolveInputs other state = .ok others →
    ∀ name, name ∈ inputs.keys ↔ name ∈ others.keys
  /-- Variables and literals give the same values. -/
  supplied : ∀ inputs others, resolveInputs node state = .ok inputs → resolveInputs other state = .ok others →
    ∀ name, node.Supplies name → inputs.get? name = others.get? name
  /-- Templates give the same texts, or fail in both orders, unless they ask for each other. -/
  rendered : node.TemplatesApart →
    ∀ inputs, resolveInputs node state = .ok inputs ↔ resolveInputs other state = .ok inputs

/-- A node agrees with itself in another order of its inputs. -/
private theorem agreesWith_reordered {node : Node} {reordered : List String} (state : State)
    (same : node.inputs.Perm reordered) : node.AgreesWith { node with inputs := reordered } state where
  unknown := by
    -- What a single input has for its value does not depend on its place.
    rw [exists_unknown_iff (resolvesTo_resolveInputs _ _), exists_unknown_iff (resolvesTo_resolveInputs _ _)]
    simp only [readsVariable_reordered same]
  declared inputs others resolved other name := by
    rw [(given_of_resolveInputs resolved).declared, (given_of_resolveInputs other).declared]
    exact same.mem_iff
  supplied inputs others resolved other name supplies := by
    rw [get?_of_supplies resolved supplies, get?_of_supplies other ((supplies_reordered same).2 supplies)]
    rfl
  rendered apart inputs := by
    rw [← toOption_eq_some_iff, ← toOption_eq_some_iff, toOption_reordered same apart]

/-- The inputs of a node are resolved in every order exactly when all is known before the rendering. -/
private theorem resolved_reordered_iff {node : Node} {state : State} :
    (∀ reordered, node.inputs.Perm reordered →
        ∃ inputs, resolveInputs { node with inputs := reordered } state = .ok inputs) ↔
      node.KnowsVariables state ∧ node.KnowsPlaceholders state := by
  constructor
  · -- A template is rendered first in the order that declares its input first.
    intro all
    obtain ⟨inputs, resolved⟩ := all node.inputs (.refl _)
    refine ⟨(rendered_of_resolveInputs resolved).1, fun name template renders wanted holds => ?_⟩
    have same := List.perm_cons_erase renders.1
    obtain ⟨others, other⟩ := all _ same
    have given : ({ node with inputs := name :: node.inputs.erase name } : Node).sourceOf name =
        .template template := renders.2
    exact (known_of_first rfl given other holds).imp_right (supplies_reordered same).1
  · -- What is known in one order is known in all of them.
    rintro ⟨variablesKnown, placeholdersKnown⟩ reordered same
    exact exists_of_known (resolvesTo_resolveInputs _ _) ((knowsVariables_reordered same).2 variablesKnown)
      ((knowsPlaceholders_reordered same).2 placeholdersKnown)

/--
Declaring the inputs of a node in another order changes nothing if no template asks for another template's input.

All orders succeed exactly when each placeholder names a variable with a value or an input known before the rendering.
-/
theorem resolveInputs_reordered (node : Node) (state : State) :
    (∀ reordered, node.inputs.Perm reordered → node.AgreesWith { node with inputs := reordered } state) ∧
    ((∀ reordered, node.inputs.Perm reordered →
        ∃ inputs, resolveInputs { node with inputs := reordered } state = .ok inputs) ↔
      node.KnowsVariables state ∧ node.KnowsPlaceholders state) :=
  ⟨fun _ same => agreesWith_reordered state same, resolved_reordered_iff⟩

/-- The greeting is the same in the other order of its inputs. -/
theorem resolveInputs_reordered_greeting :
    ["message", "user"].Perm ["user", "message"] ∧ (greetingNode ["message", "user"]).TemplatesApart ∧
      ∃ inputs, resolveInputs (greetingNode ["message", "user"]) greetingState = .ok inputs ∧
        resolveInputs { greetingNode ["message", "user"] with inputs := ["user", "message"] } greetingState =
          .ok inputs := by
  -- The only template asks for the user, who is read from a variable.
  have same : ["message", "user"].Perm ["user", "message"] := .swap _ _ _
  have apart : (greetingNode ["message", "user"]).TemplatesApart := by
    intro name template renders wanted holds _ other rendered
    have given := rendered.2
    rw [asked_of_greeting renders holds, sourceOf_greetingNode, if_neg (by decide), if_neg (by decide)] at given
    cases given
  have resolved : resolveInputs (greetingNode ["message", "user"]) greetingState =
      .ok ((Dictionary.empty.insert "user" (.text "bob")).insert "message" (.text "hi bob")) := by decide +kernel
  have agrees := (resolveInputs_reordered (greetingNode ["message", "user"]) greetingState).1 _ same
  exact ⟨same, apart, _, resolved, (agrees.rendered apart _).1 resolved⟩

/-- A node with two inputs, each rendered from a template, of which one asks for the other. -/
def askingNode (inputs : List String) : Node :=
  -- The second template asks for nothing.
  ⟨"greet", .tool "kit" "op", inputs, [],
    (Dictionary.empty.insert "a" (.template "\x7bb\x7d")).insert "b" (.template "x"), .abort, .finish⟩

/-- An input is rendered if the one that it asks for is declared before it, and fails if it is declared behind it. -/
theorem resolveInputs_sees_order :
    ["a", "b"].Perm ["b", "a"] ∧
      resolveInputs (askingNode ["a", "b"]) State.empty = .error (.unresolvedTemplate "greet" "b") ∧
      ∃ inputs, resolveInputs { askingNode ["a", "b"] with inputs := ["b", "a"] } State.empty = .ok inputs := by
  have evaluated : resolveInputs { askingNode ["a", "b"] with inputs := ["b", "a"] } State.empty =
      .ok ((Dictionary.empty.insert "b" (.text "x")).insert "a" (.text "x")) := by decide +kernel
  exact ⟨.swap _ _ _, by decide +kernel, _, evaluated⟩

end PipelineTrial
