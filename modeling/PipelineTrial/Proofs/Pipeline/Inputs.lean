import PipelineTrial.Pipeline.Inputs
import PipelineTrial.Proofs.Dictionary
import PipelineTrial.Proofs.Template

/-! The inputs of a node come from their sources, variables and literals before templates, and fail in that order. -/

namespace PipelineTrial

namespace Node

/-- The variable without a value that an input is read from. -/
def absent? (node : Node) (state : State) (name : String) : Option String :=
  -- Literals and templates are read from no variable.
  match node.sourceOf name with
  | .variable source => if (state.get? source).isSome then none else some source
  | _ => none

/-- A variable without a value is found where an input is read from it. -/
theorem absent?_eq_some_iff {node : Node} {state : State} {name source : String} :
    node.absent? state name = some source ↔ node.sourceOf name = .variable source ∧ state.get? source = none := by
  -- Only a variable is looked up.
  unfold absent?
  rcases node.sourceOf name with other | literal | template
  · dsimp only
    constructor
    · intro found
      split at found
      · cases found
      · next missing =>
        cases found
        exact ⟨rfl, by simpa using missing⟩
    · rintro ⟨same, missing⟩
      cases same
      simp [missing]
  · simp
  · simp

/-- No such variable is found where an input is read from one with a value, or from none. -/
theorem absent?_eq_none_iff {node : Node} {state : State} {name : String} :
    node.absent? state name = none ↔
      ∀ source, node.sourceOf name = .variable source → (state.get? source).isSome = true := by
  rw [Option.eq_none_iff_forall_ne_some]
  refine forall_congr' fun source => ?_
  rw [Ne, absent?_eq_some_iff, not_and, ← Ne, Option.ne_none_iff_isSome]

/-- The value of an input that is not rendered. -/
def value? (node : Node) (state : State) (name : String) : Option Json :=
  -- A template has no value of its own.
  match node.sourceOf name with
  | .variable source => state.get? source
  | .fixed literal => some literal
  | .template _ => none

/-- The template of an input that is rendered, under the name of the input. -/
def template? (node : Node) (name : String) : Option (String × String) :=
  match node.sourceOf name with
  | .template template => some (name, template)
  | _ => none

/-- Inputs with the values of those among some names that are not rendered. -/
def store (node : Node) (state : State) (inputs : Inputs) : List String → Inputs
  | [] => inputs
  | name :: rest =>
    -- Names are stored from left to right.
    match node.value? state name with
    | some value => node.store state (inputs.insert name value) rest
    | none => node.store state inputs rest

/-- A stored name has the value from its source. -/
theorem get?_store (node : Node) (state : State) (inputs : Inputs) (names : List String) (name : String) :
    (node.store state inputs names).get? name =
      if name ∈ names then (node.value? state name).or (inputs.get? name) else inputs.get? name := by
  -- A name that is stored again gets the same value.
  induction names generalizing inputs with
  | nil => simp [store]
  | cons first rest ih =>
    rw [store]
    by_cases now : name = first
    · subst now
      cases given : node.value? state name <;> simp [ih, given, Dictionary.get?_insert]
    · cases node.value? state first <;> simp [ih, now, Dictionary.get?_insert]

end Node

/-- Values are found for all names, with the templates left over, unless one is read from a variable without a value. -/
theorem resolveValues_eq (node : Node) (state : State) (inputs : Inputs) (names : List String) :
    resolveValues node state inputs names =
      match names.findSome? (node.absent? state) with
      | some source => .error (.unknownVariable node.id source)
      | none => .ok (node.store state inputs names, names.filterMap node.template?) := by
  -- The source of the first name decides what is done with it.
  induction names generalizing inputs with
  | nil => rfl
  | cons name rest ih =>
    rw [resolveValues]
    rcases given : node.sourceOf name with source | literal | template
    · cases found : state.get? source with
      | none => simp [Node.absent?, given, found]
      | some value => simp [Node.absent?, Node.value?, Node.template?, Node.store, given, found, ih]
    · simp [Node.absent?, Node.value?, Node.template?, Node.store, given, ih]
    · simp only [ih]
      cases first : rest.findSome? (node.absent? state) <;>
        simp [Node.absent?, Node.value?, Node.template?, Node.store, given, first]

section Rendering

variable {node : Node} {state : State} {inputs resolved : Inputs} {templates : List (String × String)}

/-- Templates are rendered one by one, and each that is rendered counts as an input for the others. -/
theorem renderTemplates_cons (node : Node) (state : State) (inputs : Inputs) (entry : String × String) :
    renderTemplates node state inputs (entry :: templates) =
      (node.render inputs state entry.2).bind fun rendered =>
        renderTemplates node state (inputs.insert entry.1 (.text rendered)) templates := by
  rw [renderTemplates]
  cases node.render inputs state entry.2 <;> rfl

/-- Rendered templates start with a rendered first one, which the others may ask for. -/
private theorem of_renderTemplates_cons {entry : String × String}
    (done : renderTemplates node state inputs (entry :: templates) = .ok resolved) :
    ∃ rendered, renderTemplates node state (inputs.insert entry.1 (.text rendered)) templates = .ok resolved := by
  -- A first template that fails would end the rendering.
  rw [renderTemplates_cons] at done
  cases first : node.render inputs state entry.2 with
  | error error =>
    rw [first] at done
    cases done
  | ok rendered =>
    rw [first] at done
    exact ⟨rendered, done⟩

/-- Rendering leaves all inputs alone that have no template. -/
theorem get?_renderTemplates {name : String} (plain : name ∉ templates.map (·.1))
    (done : renderTemplates node state inputs templates = .ok resolved) : resolved.get? name = inputs.get? name := by
  -- Each step stores under the name of its template.
  induction templates generalizing inputs with
  | nil =>
    cases done
    rfl
  | cons entry rest ih =>
    obtain ⟨different, later⟩ := List.ne_and_not_mem_of_not_mem_cons plain
    obtain ⟨rendered, rest⟩ := of_renderTemplates_cons done
    rw [ih later rest, Dictionary.get?_insert, if_neg different]

/-- Rendering gives the input of each template a text. -/
theorem text_of_renderTemplates {name : String} (member : name ∈ templates.map (·.1))
    (done : renderTemplates node state inputs templates = .ok resolved) :
    ∃ rendered, resolved.get? name = some (.text rendered) := by
  -- The last template of a name counts.
  induction templates generalizing inputs with
  | nil => cases member
  | cons entry rest ih =>
    obtain ⟨rendered, done⟩ := of_renderTemplates_cons done
    by_cases again : name ∈ rest.map (·.1)
    · exact ih again done
    · have now : name = entry.1 := by simpa [again] using member
      refine ⟨rendered, ?_⟩
      rw [get?_renderTemplates again done, Dictionary.get?_insert, if_pos now]

/-- Rendering fails only at a placeholder that names neither an input so far nor a variable with a value. -/
theorem placeholder_of_renderTemplates {error : InputError}
    (failed : renderTemplates node state inputs templates = .error error) :
    ∃ entry ∈ templates, ∃ missing, HasPlaceholder entry.2 missing ∧ inputs.get? missing = none ∧
      state.get? missing = none ∧ error = .unresolvedTemplate node.id missing := by
  -- Inputs that are rendered before only add names.
  induction templates generalizing inputs with
  | nil => cases failed
  | cons entry rest ih =>
    rw [renderTemplates_cons, Node.render] at failed
    cases outcome : renderAll entry.2 _ with
    | error missing =>
      rw [outcome] at failed
      cases failed
      obtain ⟨holds, absent⟩ := hasPlaceholder_of_renderAll outcome
      obtain ⟨unresolved, unknown⟩ := Option.or_eq_none_iff.1 absent
      exact ⟨entry, List.mem_cons_self, missing, holds, unresolved, unknown, rfl⟩
    | ok rendered =>
      rw [outcome] at failed
      obtain ⟨other, member, missing, holds, absent, unknown, same⟩ := ih failed
      rw [Dictionary.get?_insert] at absent
      split at absent
      · cases absent
      · exact ⟨other, List.mem_cons_of_mem _ member, missing, holds, absent, unknown, same⟩

end Rendering

/-- The inputs of a node are the values from its sources with its templates rendered over them. -/
theorem resolveInputs_eq (node : Node) (state : State) :
    resolveInputs node state =
      match node.inputs.findSome? (node.absent? state) with
      | some source => .error (.unknownVariable node.id source)
      | none => renderTemplates node state (node.store state Dictionary.empty node.inputs)
        (node.inputs.filterMap node.template?) := by
  rw [resolveInputs, resolveValues_eq]
  cases node.inputs.findSome? (node.absent? state) <;> rfl

namespace Node

/-- A node declares an input that it reads from a variable of the state. -/
def ReadsVariable (node : Node) (name source : String) : Prop :=
  name ∈ node.inputs ∧ node.sourceOf name = .variable source

/-- A node declares an input that it renders from a template. -/
def Renders (node : Node) (name template : String) : Prop :=
  name ∈ node.inputs ∧ node.sourceOf name = .template template

/-- A node declares an input that it has before it renders any template. -/
def Supplies (node : Node) (name : String) : Prop :=
  -- It comes from a variable or is fixed.
  name ∈ node.inputs ∧ ∀ template, node.sourceOf name ≠ .template template

/-- The first of the variables that a node reads, in the order of its inputs, that has no value. -/
def FirstUnknown (node : Node) (state : State) (source : String) : Prop :=
  -- All variables read before it have a value.
  ∃ before name after, node.inputs = before ++ name :: after ∧ node.sourceOf name = .variable source ∧
    state.get? source = none ∧
    ∀ earlier ∈ before, ∀ known, node.sourceOf earlier = .variable known → (state.get? known).isSome = true

/-- All variables that a node reads have values. -/
def KnowsVariables (node : Node) (state : State) : Prop :=
  ∀ name source, node.ReadsVariable name source → (state.get? source).isSome = true

/-- All placeholders in the templates of a node name variables with values, or inputs known before the rendering. -/
def KnowsPlaceholders (node : Node) (state : State) : Prop :=
  ∀ name template, node.Renders name template → ∀ wanted, HasPlaceholder template wanted →
    (state.get? wanted).isSome = true ∨ node.Supplies wanted

/-- Resolved inputs are those that the node declares, each from its source. -/
structure Given (node : Node) (state : State) (inputs : Inputs) : Prop where
  declared : ∀ name, name ∈ inputs.keys ↔ name ∈ node.inputs
  read : ∀ name source, node.ReadsVariable name source →
    ∃ value, state.get? source = some value ∧ inputs.get? name = some value
  literals : ∀ name literal, name ∈ node.inputs → node.sourceOf name = .fixed literal →
    inputs.get? name = some literal
  templates : ∀ name template, node.Renders name template → ∃ rendered, inputs.get? name = some (.text rendered)

end Node

/-- An input has a template exactly when it is rendered from it. -/
theorem mem_templates_iff {node : Node} {entry : String × String} :
    entry ∈ node.inputs.filterMap node.template? ↔ node.Renders entry.1 entry.2 := by
  -- A template is listed under the name of its input.
  obtain ⟨name, template⟩ := entry
  simp only [List.mem_filterMap, Node.template?, Node.Renders]
  constructor
  · rintro ⟨other, member, same⟩
    split at same
    · next given =>
      cases same
      exact ⟨member, given⟩
    · cases same
  · rintro ⟨member, given⟩
    exact ⟨name, member, by simp [given]⟩

/-- An input is named by a template exactly when it is rendered from one. -/
private theorem mem_templateNames_iff {node : Node} {name : String} :
    name ∈ (node.inputs.filterMap node.template?).map (·.1) ↔ ∃ template, node.Renders name template := by
  constructor
  · intro member
    obtain ⟨entry, listed, rfl⟩ := List.mem_map.1 member
    exact ⟨entry.2, mem_templates_iff.1 listed⟩
  · rintro ⟨template, renders⟩
    exact List.mem_map.2 ⟨(name, template), mem_templates_iff.2 renders, rfl⟩

/-- The search for a variable without a value finds the first one. -/
private theorem firstUnknown_iff {node : Node} {state : State} {source : String} :
    node.inputs.findSome? (node.absent? state) = some source ↔ node.FirstUnknown state source := by
  simp only [List.findSome?_eq_some_iff, Node.absent?_eq_some_iff, Node.absent?_eq_none_iff, Node.FirstUnknown,
    and_assoc]

/-- The search for a variable without a value is in vain when all of them have one. -/
theorem knowsVariables_iff {node : Node} {state : State} :
    node.inputs.findSome? (node.absent? state) = none ↔ node.KnowsVariables state := by
  simp only [List.findSome?_eq_none_iff, Node.absent?_eq_none_iff, Node.KnowsVariables, Node.ReadsVariable, and_imp]
  exact forall_congr' fun name => forall_comm

/-- An input is stored before the rendering exactly when the node supplies it and knows its value. -/
theorem get?_store_eq_none_iff {node : Node} {state : State} {name : String} (known : node.KnowsVariables state) :
    (node.store state Dictionary.empty node.inputs).get? name = none ↔ ¬node.Supplies name := by
  -- Templates alone have no value.
  rw [node.get?_store, Dictionary.get?_empty, Option.or_none, Node.Supplies, Node.value?]
  by_cases member : name ∈ node.inputs
  · rcases given : node.sourceOf name with source | literal | template
    · simpa [member, Option.isSome_iff_ne_none] using known name source ⟨member, given⟩
    · simp [member]
    · simp [member]
  · simp [member]

section Resolved

variable {node : Node} {state : State} {inputs : Inputs} {name : String}

/-- Inputs are resolved over known variables by rendering the templates over the values. -/
theorem rendered_of_resolveInputs (resolved : resolveInputs node state = .ok inputs) :
    node.KnowsVariables state ∧
      renderTemplates node state (node.store state Dictionary.empty node.inputs)
        (node.inputs.filterMap node.template?) = .ok inputs := by
  -- A variable without a value would have been found first.
  rw [resolveInputs_eq] at resolved
  split at resolved
  · cases resolved
  · next searched => exact ⟨knowsVariables_iff.1 searched, resolved⟩

/-- An input that is not rendered has the value from its source, and a name that is no input has none. -/
theorem get?_of_unrendered (resolved : resolveInputs node state = .ok inputs)
    (unrendered : ∀ template, ¬node.Renders name template) :
    inputs.get? name = if name ∈ node.inputs then node.value? state name else none := by
  -- It has the value that it had before the rendering.
  obtain ⟨-, done⟩ := rendered_of_resolveInputs resolved
  have plain : name ∉ (node.inputs.filterMap node.template?).map (·.1) := fun listed => by
    obtain ⟨template, renders⟩ := mem_templateNames_iff.1 listed
    exact unrendered template renders
  rw [get?_renderTemplates plain done, node.get?_store, Dictionary.get?_empty, Option.or_none]

/-- An input from a variable or a literal has its value. -/
theorem get?_of_supplies (resolved : resolveInputs node state = .ok inputs) (supplies : node.Supplies name) :
    inputs.get? name = node.value? state name := by
  rw [get?_of_unrendered resolved fun template renders => supplies.2 template renders.2, if_pos supplies.1]

/-- An input that is rendered is a text. -/
theorem text_of_renders (resolved : resolveInputs node state = .ok inputs) {template : String}
    (renders : node.Renders name template) : ∃ rendered, inputs.get? name = some (.text rendered) :=
  text_of_renderTemplates (mem_templateNames_iff.2 ⟨template, renders⟩) (rendered_of_resolveInputs resolved).2

/-- Each input that a node declares is resolved. -/
theorem contains_of_mem_inputs (resolved : resolveInputs node state = .ok inputs) (member : name ∈ node.inputs) :
    inputs.contains name = true := by
  -- The source of the input tells where its value comes from.
  obtain ⟨known, -⟩ := rendered_of_resolveInputs resolved
  rw [Dictionary.contains]
  rcases given : node.sourceOf name with source | literal | template
  · rw [get?_of_supplies resolved ⟨member, by simp [given]⟩, Node.value?, given]
    exact known name source ⟨member, given⟩
  · rw [get?_of_supplies resolved ⟨member, by simp [given]⟩, Node.value?, given]
    rfl
  · obtain ⟨text, same⟩ := text_of_renders resolved ⟨member, given⟩
    rw [same]
    rfl

/-- Inputs that are resolved come from their sources. -/
theorem given_of_resolveInputs (resolved : resolveInputs node state = .ok inputs) : node.Given state inputs where
  declared name := by
    rw [Dictionary.mem_keys_iff]
    constructor
    · -- A name that is no input is neither stored nor rendered.
      intro found
      by_contra undeclared
      have missing := get?_of_unrendered resolved fun template renders => undeclared renders.1
      rw [if_neg undeclared] at missing
      rw [Dictionary.contains, missing] at found
      cases found
    · exact contains_of_mem_inputs resolved
  read name source reads := by
    have supplies : node.Supplies name := ⟨reads.1, by simp [reads.2]⟩
    obtain ⟨value, found⟩ := Option.isSome_iff_exists.1 ((rendered_of_resolveInputs resolved).1 name source reads)
    refine ⟨value, found, ?_⟩
    rw [get?_of_supplies resolved supplies, Node.value?, reads.2]
    exact found
  literals name literal member given := by
    have supplies : node.Supplies name := ⟨member, by simp [given]⟩
    rw [get?_of_supplies resolved supplies, Node.value?, given]
  templates name template renders := text_of_renders resolved renders

end Resolved

/-- The ways in which resolving the inputs of a node ends. -/
inductive Node.ResolvesTo (node : Node) (state : State) : Except InputError Inputs → Prop where
  | inputs {inputs : Inputs} (given : node.Given state inputs) : ResolvesTo node state (.ok inputs)
  | unknown {source : String} (first : node.FirstUnknown state source) :
      ResolvesTo node state (.error (.unknownVariable node.id source))
  /-- All variables have values, and a placeholder names nothing that is known before the rendering. -/
  | unrendered {name template missing : String}
      (known : node.KnowsVariables state) (renders : node.Renders name template)
      (holds : HasPlaceholder template missing) (absent : state.get? missing = none)
      (unsupplied : ¬node.Supplies missing) :
      ResolvesTo node state (.error (.unresolvedTemplate node.id missing))

/-- Resolving the inputs of a node ends in one of these ways. -/
theorem resolvesTo_resolveInputs (node : Node) (state : State) : node.ResolvesTo state (resolveInputs node state) := by
  -- The search for a variable without a value comes first, and then the rendering.
  cases outcome : resolveInputs node state with
  | ok inputs => exact .inputs (given_of_resolveInputs outcome)
  | error error =>
    rw [resolveInputs_eq] at outcome
    split at outcome
    · next searched =>
      cases outcome
      exact .unknown (firstUnknown_iff.1 searched)
    · next searched =>
      have known := knowsVariables_iff.1 searched
      obtain ⟨entry, listed, missing, holds, unstored, absent, rfl⟩ := placeholder_of_renderTemplates outcome
      exact .unrendered known (mem_templates_iff.1 listed) holds absent ((get?_store_eq_none_iff known).1 unstored)

/-- The first variable without a value is read for an input. -/
theorem Node.FirstUnknown.reads {node : Node} {state : State} {source : String}
    (first : node.FirstUnknown state source) :
    ∃ name, node.ReadsVariable name source ∧ state.get? source = none := by
  obtain ⟨before, name, after, same, given, missing, -⟩ := first
  exact ⟨name, ⟨by simp [same], given⟩, missing⟩

/-- A variable is reported as unknown exactly when one that is read has no value. -/
theorem exists_unknown_iff {node : Node} {state : State} {outcome : Except InputError Inputs}
    (ends : node.ResolvesTo state outcome) :
    (∃ id source, outcome = .error (.unknownVariable id source)) ↔
      ∃ name source, node.ReadsVariable name source ∧ state.get? source = none := by
  -- The other ways to end have all variables known.
  constructor
  · rintro ⟨id, source, rfl⟩
    cases ends with
    | unknown first =>
      obtain ⟨name, reads⟩ := first.reads
      exact ⟨name, source, reads⟩
  · rintro ⟨name, source, reads, missing⟩
    cases ends with
    | inputs given =>
      obtain ⟨value, found, -⟩ := given.read name source reads
      rw [missing] at found
      cases found
    | unknown first => exact ⟨_, _, rfl⟩
    | unrendered known _ _ _ _ => exact absurd (known name source reads) (by simp [missing])

/-- Inputs are resolved if all that their sources ask for is known. -/
theorem exists_of_known {node : Node} {state : State} {outcome : Except InputError Inputs}
    (ends : node.ResolvesTo state outcome) (valued : node.KnowsVariables state)
    (placeholders : node.KnowsPlaceholders state) : ∃ inputs, outcome = .ok inputs := by
  -- Each fault is about something that is not known.
  cases ends with
  | inputs given => exact ⟨_, rfl⟩
  | unknown first =>
    obtain ⟨name, reads, missing⟩ := first.reads
    exact absurd (valued name _ reads) (by simp [missing])
  | unrendered _ renders holds absent unsupplied =>
    rcases placeholders _ _ renders _ holds with found | supplied
    · exact absurd found (by simp [absent])
    · exact absurd supplied unsupplied

/-- What comes of resolving the inputs of a node. -/
structure Node.Resolves (node : Node) (state : State) (outcome : Except InputError Inputs) : Prop where
  given : ∀ inputs, outcome = .ok inputs → node.Given state inputs
  /-- A variable without a value is reported whatever the templates are. -/
  unknown : (∃ id source, outcome = .error (.unknownVariable id source)) ↔
    ∃ name source, node.ReadsVariable name source ∧ state.get? source = none
  first : ∀ id source, outcome = .error (.unknownVariable id source) →
    id = node.id ∧ node.FirstUnknown state source
  /-- A placeholder is reported that names neither a variable with a value nor an input known before the rendering. -/
  unrendered : ∀ id missing, outcome = .error (.unresolvedTemplate id missing) → id = node.id ∧
    ∃ name template, node.Renders name template ∧ HasPlaceholder template missing ∧
      state.get? missing = none ∧ ¬node.Supplies missing
  succeeds : node.KnowsVariables state → node.KnowsPlaceholders state → ∃ inputs, outcome = .ok inputs

/-- The inputs of a node are resolved from their sources, or a fault in these is reported, variables first. -/
theorem resolveInputs_fromSources (node : Node) (state : State) : node.Resolves state (resolveInputs node state) := by
  -- Each way to end has its own report.
  have ends := resolvesTo_resolveInputs node state
  have unknown := exists_unknown_iff ends
  have succeeds := exists_of_known ends
  generalize resolveInputs node state = outcome at ends unknown succeeds ⊢
  cases ends with
  | inputs given =>
    refine ⟨?_, unknown, nofun, nofun, succeeds⟩
    rintro inputs ⟨⟩
    exact given
  | unknown first =>
    refine ⟨nofun, unknown, ?_, nofun, succeeds⟩
    rintro id source ⟨⟩
    exact ⟨rfl, first⟩
  | unrendered known renders holds absent unsupplied =>
    refine ⟨nofun, unknown, nofun, ?_, succeeds⟩
    rintro id missing ⟨⟩
    exact ⟨rfl, _, _, renders, holds, absent, unsupplied⟩

/-- A node that greets a user of the state, with a literal that looks like a template. -/
def greetingNode (inputs : List String) : Node :=
  -- The user is read from the variable of that name.
  ⟨"greet", .tool "kit" "op", inputs, [],
    (Dictionary.empty.insert "limit" (.fixed (.text "\x7bcount\x7d"))).insert "message"
      (.template "hi \x7buser\x7d"), .abort, .finish⟩

/-- A state that knows the user. -/
def greetingState : State := State.empty.set "user" (.text "bob")

/-- The node has one template and one literal, and reads all else from variables. -/
theorem sourceOf_greetingNode (inputs : List String) (name : String) :
    (greetingNode inputs).sourceOf name =
      if name = "message" then .template "hi \x7buser\x7d"
      else if name = "limit" then .fixed (.text "\x7bcount\x7d") else .variable name := by
  simp only [Node.sourceOf, greetingNode, Dictionary.get?_insert, Dictionary.get?_empty]
  split
  · rfl
  · split <;> rfl

/-- The node's template asks for the user alone. -/
theorem asked_of_greeting {inputs : List String} {name template wanted : String}
    (renders : (greetingNode inputs).Renders name template) (holds : HasPlaceholder template wanted) :
    wanted = "user" := by
  -- Cutting the template shows its only mark.
  have pieces : templatePieces "hi \x7buser\x7d" =
      [.literal 'h', .literal 'i', .literal ' ', .mark "user"] := by decide +kernel
  have given := renders.2
  rw [sourceOf_greetingNode] at given
  split at given
  · cases given
    simpa [pieces] using mem_templatePieces_iff.2 holds
  · split at given <;> cases given

/-- The inputs of the node are resolved in that state, and in the empty state the user is missed before the greeting. -/
theorem resolveInputs_fromSources_greeting :
    ((greetingNode ["message", "user", "limit"]).KnowsVariables greetingState ∧
      (greetingNode ["message", "user", "limit"]).KnowsPlaceholders greetingState ∧
      ∃ inputs, resolveInputs (greetingNode ["message", "user", "limit"]) greetingState = .ok inputs ∧
        (greetingNode ["message", "user", "limit"]).Given greetingState inputs) ∧
    resolveInputs (greetingNode ["message", "user", "limit"]) State.empty = .error (.unknownVariable "greet" "user") ∧
      (greetingNode ["message", "user", "limit"]).FirstUnknown State.empty "user" := by
  -- The user is the only variable that is read, and the only name that is asked for.
  have known : (greetingNode ["message", "user", "limit"]).KnowsVariables greetingState := by
    rintro name source ⟨member, given⟩
    rw [sourceOf_greetingNode] at given
    split at given
    · cases given
    · split at given
      · cases given
      · next unrendered unfixed =>
        cases given
        obtain rfl : name = "user" := by simpa [greetingNode, unrendered, unfixed] using member
        rfl
  have asked : (greetingNode ["message", "user", "limit"]).KnowsPlaceholders greetingState := by
    intro name template renders wanted holds
    rw [asked_of_greeting renders holds]
    exact .inl rfl
  have resolves := resolveInputs_fromSources (greetingNode ["message", "user", "limit"]) greetingState
  obtain ⟨inputs, resolved⟩ := resolves.succeeds known asked
  have failed : resolveInputs (greetingNode ["message", "user", "limit"]) State.empty =
      .error (.unknownVariable "greet" "user") := by decide +kernel
  have misses := resolveInputs_fromSources (greetingNode ["message", "user", "limit"]) State.empty
  exact ⟨⟨known, asked, inputs, resolved, resolves.given inputs resolved⟩, failed, (misses.first _ _ failed).2⟩

end PipelineTrial
