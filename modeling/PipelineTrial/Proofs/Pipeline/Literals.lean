import PipelineTrial.Proofs.Pipeline.Places

/-! The texts in a loaded definition's literals are those of its document, resolved unless their places enter code. -/

namespace PipelineTrial

open Yaml

/-- A text that a JSON value is, or that an item or a field of it holds. -/
inductive Json.Holds (text : String) : Json → Prop where
  | here : Holds text (.text text)
  | item {items : List Json} {value : Json} : value ∈ items → Holds text value → Holds text (.list items)
  | field {fields : List (String × Json)} {name : String} {value : Json} :
      (name, value) ∈ fields → Holds text value → Holds text (.object fields)

/-- Where the initial value of a variable of a name is written. -/
def InitialPlace (name : String) (place : List Step) : Prop :=
  -- Any key may stand anywhere among the others.
  ∃ state declared value,
    place = [.entry state (some "state"), .entry declared (some name), .entry value (some "value")]

/-- Where a fixed literal is written that is an input of a name of the node at a position. -/
def LiteralPlace (index : Nat) (name : String) (place : List Step) : Prop :=
  -- Nodes are told apart by their position, and all else by keys.
  ∃ nodes sources source value, place = [.entry nodes (some "nodes"), .item index,
    .entry sources (some "input_mapping"), .entry source (some name), .entry value (some "value")]

/-- How a literal comes out of a place of a tree: as the JSON form of what is there once the tree is resolved. -/
structure Yaml.Yields (environment : Environment) (tree resolved : Yaml) (place : List Step) (literal : Json) :
    Prop where
  form : ∃ part, resolved.at? place = some part ∧ part.toJson = .ok literal
  /-- Each text in it comes from one below the place, and comes out as the whole place of that text tells. -/
  texts : ∀ text, literal.Holds text → ∃ inner raw, tree.textAt? (place ++ inner) = some raw ∧
    ResolvesAt environment (place ++ inner) raw text

/-- All texts of a tree are resolved where they stand, except for the code of nodes. -/
def Yaml.ResolvesAll (environment : Environment) (tree resolved : Yaml) : Prop :=
  -- What else goes by the name of code is no exception.
  ∀ place raw, tree.textAt? place = some raw → ¬EntersNodeCode place →
    ∃ text, resolved.textAt? place = some text ∧ resolveVariables raw environment = .ok text

section Conversion

/-- Items have the JSON forms of a list one by one. -/
theorem forall₂_of_itemsToJson {items : List Yaml} {converted : List Json}
    (succeeded : itemsToJson items = .ok converted) :
    List.Forall₂ (fun item value => item.toJson = .ok value) items converted := by
  induction items generalizing converted with
  | nil =>
    cases succeeded
    exact .nil
  | cons item rest ih =>
    obtain ⟨first, read, given⟩ := of_bind_ok succeeded
    obtain ⟨tail, following, given⟩ := of_bind_ok given
    cases given
    exact .cons read (ih following)

/-- A field of converted entries was there before, or it has the JSON form of an entry's value. -/
theorem mem_of_entriesToJson {entries : List (Yaml × Yaml)} {before fields : Entries Json}
    (succeeded : entriesToJson entries before = .ok fields) {pair : String × Json} (member : pair ∈ fields) :
    pair ∈ before ∨ ∃ entry ∈ entries, entry.2.toJson = .ok pair.2 := by
  -- Each entry adds one field, in place of one of its name.
  induction entries generalizing before with
  | nil =>
    cases succeeded
    exact .inl member
  | cons entry rest ih =>
    obtain ⟨name, _, given⟩ := of_bind_ok succeeded
    obtain ⟨converted, read, given⟩ := of_bind_ok given
    rcases ih given with added | ⟨later, there, facts⟩
    · rcases Entries.mem_insert added with rfl | earlier
      · exact .inr ⟨entry, List.mem_cons_self, read⟩
      · exact .inl earlier
    · exact .inr ⟨later, List.mem_cons_of_mem _ there, facts⟩

/-- What a value with a JSON form can be, by that form. -/
theorem toJson_cases {raw : Yaml} {value : Json} (succeeded : raw.toJson = .ok value) :
    match value with
    | .text own => raw = .text own
    | .list converted => ∃ items, raw = .sequence items ∧ itemsToJson items = .ok converted
    | .object fields => (∃ entries, raw = .mapping entries ∧ entriesToJson entries [] = .ok fields) ∨
        ∃ tag content inner, raw = .tagged tag content ∧ content.toJson = .ok inner ∧
          fields = [("!" ++ tag, inner)]
    | _ => True := by
  -- Only a text gives a text, only a list a list, and a mapping or a tag an object.
  cases raw with
  | text own => cases succeeded; rfl
  | sequence items =>
    obtain ⟨converted, read, given⟩ := of_bind_ok succeeded
    cases given
    exact ⟨items, rfl, read⟩
  | mapping entries =>
    obtain ⟨fields, read, given⟩ := of_bind_ok succeeded
    cases given
    exact .inl ⟨entries, rfl, read⟩
  | tagged tag content =>
    obtain ⟨inner, read, given⟩ := of_bind_ok succeeded
    cases given
    exact .inr ⟨tag, content, inner, rfl, read, rfl⟩
  | float number =>
    rw [toJson] at succeeded
    split at succeeded <;> cases succeeded <;> trivial
  | null => cases succeeded; trivial
  | boolean own => cases succeeded; trivial
  | integer own => cases succeeded; trivial

/-- A text that stands behind a step is a text of the value. -/
theorem textAt?_of_step {value part : Yaml} {step : Step} {text : String} (stepped : value.step? step = some part)
    (found : ∃ place, part.textAt? place = some text) : ∃ place, value.textAt? place = some text := by
  obtain ⟨place, there⟩ := found
  refine ⟨step :: place, ?_⟩
  rw [textAt?, at?, stepped]
  exact there

/-- A text in the JSON form of a value stands at a place of the value. -/
theorem textAt?_of_toJson {text : String} {value : Json} (holds : value.Holds text) : ∀ {raw : Yaml},
    raw.toJson = .ok value → ∃ place, raw.textAt? place = some text := by
  -- Items and fields are reached by one step, and what is under a tag by none.
  induction holds with
  | here =>
    intro raw succeeded
    cases toJson_cases succeeded
    exact ⟨[], rfl⟩
  | item member _ ih =>
    intro raw succeeded
    obtain ⟨items, rfl, read⟩ := toJson_cases succeeded
    obtain ⟨part, there, form⟩ := exists_of_forall₂ (forall₂_of_itemsToJson read) member
    obtain ⟨index, found⟩ := List.getElem?_of_mem there
    have stepped : (Yaml.sequence items).step? (.item index) = some part := found
    exact textAt?_of_step stepped (ih form)
  | field member _ ih =>
    intro raw succeeded
    rcases toJson_cases succeeded with ⟨entries, rfl, read⟩ | ⟨tag, content, inner, rfl, read, rfl⟩
    · rcases mem_of_entriesToJson read member with before | ⟨entry, there, form⟩
      · cases before
      · obtain ⟨index, found⟩ := List.getElem?_of_mem there
        have stepped : (Yaml.mapping entries).step? (.entry index entry.1.text?) = some entry.2 :=
          step?_of_getElem? found
        exact textAt?_of_step stepped (ih form)
    · cases List.mem_singleton.1 member
      obtain ⟨place, found⟩ := ih read
      cases place with
      | nil => exact ⟨[], found⟩
      | cons step rest => exact ⟨step :: rest, by cases step <;> exact found⟩

end Conversion

/-- A value that has the JSON form of what is at a place of a resolved tree comes out of that place. -/
theorem yields_of_substitute {environment : Environment} {tree resolved part : Yaml} {place : List Step}
    {literal : Json} (succeeded : substitute environment false tree = .ok resolved)
    (reached : resolved.at? place = some part) (form : part.toJson = .ok literal) :
    tree.Yields environment resolved place literal := by
  -- Every text of the resolved tree has come out of one at its place.
  refine ⟨⟨part, reached, form⟩, fun text holds => ?_⟩
  obtain ⟨inner, found⟩ := textAt?_of_toJson holds form
  have both := textAt?_of_substitute succeeded (place ++ inner)
  rw [textAt?_append reached, found] at both
  obtain ⟨raw, there, comesOut⟩ := exists_of_rel both
  exact ⟨inner, raw, there, comesOut⟩

/-- All texts are resolved exactly when resolving leaves those alone that are code by their place, but not of a node. -/
theorem resolvesAll_iff {environment : Environment} {tree resolved : Yaml}
    (succeeded : substitute environment false tree = .ok resolved) : tree.ResolvesAll environment resolved ↔
      ∀ place raw, tree.textAt? place = some raw → EntersCode place → ¬EntersNodeCode place →
        resolveVariables raw environment = .ok raw := by
  constructor
  · -- A text under a code key comes out as it was, so resolving it has to change nothing.
    intro all place raw there enters apart
    obtain ⟨text, found, resolves⟩ := all place raw there apart
    have both := textAt?_of_substitute succeeded place
    rw [there, found] at both
    cases both with
    | some comesOut => rwa [comesOut.kept enters] at resolves
  · -- A text comes out resolved, or as it was under a code key, where resolving changes nothing.
    intro plain place raw there apart
    have both := textAt?_of_substitute succeeded place
    rw [there] at both
    generalize resolved.textAt? place = found at both
    cases both with
    | some comesOut =>
      refine ⟨_, rfl, ?_⟩
      by_cases enters : EntersCode place
      · rw [comesOut.kept enters]
        exact plain place raw there enters apart
      · exact comesOut.resolved enters

section Definitions

variable {root : Yaml} {definition : Definition}

/-- An initial value has the JSON form of what is at its place. -/
theorem initialPlace_of_convertDocument (succeeded : convertDocument root = .ok definition)
    {declared : StateVariable} (member : declared ∈ definition.stateVariables) {value : Json}
    (given : declared.initial = some value) :
    ∃ place part, InitialPlace declared.name place ∧ root.at? place = some part ∧ part.toJson = .ok value := by
  -- It is read from the value key of the variable's entry under the state key.
  have read := readsDefinition_of_convertDocument succeeded
  have readings := forall₂_of_convertVariables (convertVariables_of_optionalVariables read.stateVariables)
  obtain ⟨entry, there, named, reads⟩ := exists_of_forall₂ readings member
  obtain ⟨state, listed, inside⟩ := lookup_of_mem_stateEntries there
  obtain ⟨_, part, found, form⟩ := (initial_of_convertVariable reads).2 value given
  obtain ⟨first, toState⟩ := step?_of_lookup listed
  obtain ⟨second, placed⟩ := List.getElem?_of_mem inside
  have toEntry := step?_of_getElem? placed
  obtain ⟨third, toValue⟩ := step?_of_lookup found
  rw [named] at toEntry
  refine ⟨_, part, ⟨first, second, third, rfl⟩, ?_, form⟩
  simp only [at?, toState, toEntry, toValue, Option.bind_some]

/-- A fixed literal has the JSON form of what is at its place. -/
theorem literalPlace_of_convertDocument (succeeded : convertDocument root = .ok definition) {index : Nat}
    {node : Node} (there : definition.nodes[index]? = some node) {name : String} {literal : Json}
    (fixed : node.sources.get? name = some (.fixed literal)) :
    ∃ place part, LiteralPlace index name place ∧ root.at? place = some part ∧ part.toJson = .ok literal := by
  -- It is read from the value key of the source's entry in the item at the node's position.
  have read := readsDefinition_of_convertDocument succeeded
  obtain ⟨items, listed, _, converted⟩ := read.nodes
  have readings := rel_getElem?_of_forall₂ (forall₂_of_convertNodes converted) index
  rw [there] at readings
  obtain ⟨item, toItem, reads⟩ := exists_of_rel readings
  have readNode := readsNode_of_convertNode reads
  obtain ⟨written, found, entry, inside, named, source⟩ := get?_of_optionalSources readNode.sources fixed
  obtain ⟨part, given, form⟩ := lookup_of_convertSource source
  obtain ⟨first, toNodes⟩ := step?_of_lookup listed
  have onItem : (Yaml.sequence items).step? (.item index) = some item := toItem
  obtain ⟨second, toSources⟩ := step?_of_lookup found
  obtain ⟨third, placed⟩ := List.getElem?_of_mem inside
  have toEntry := step?_of_getElem? placed
  obtain ⟨fourth, toValue⟩ := step?_of_lookup given
  rw [named] at toEntry
  refine ⟨_, part, ⟨first, second, third, fourth, rfl⟩, ?_, form⟩
  simp only [at?, toNodes, onItem, toSources, toEntry, toValue, Option.bind_some]

end Definitions

/-- What a definition has of the texts of the tree from which it is read once the references in that are resolved. -/
structure LoadsTexts (environment : Environment) (tree resolved : Yaml) (definition : Definition) : Prop where
  converted : convertDocument resolved = .ok definition
  /-- Texts stand at the same places of both trees. -/
  texts : ∀ place, Option.Rel (ResolvesAt environment place) (tree.textAt? place) (resolved.textAt? place)
  /-- No text is spared but the code of nodes, unless it stands under the code key of another list's item. -/
  spared : tree.ResolvesAll environment resolved ↔ ∀ place raw, tree.textAt? place = some raw →
    EntersCode place → ¬EntersNodeCode place → resolveVariables raw environment = .ok raw
  initial : ∀ declared ∈ definition.stateVariables, ∀ value, declared.initial = some value →
    ∃ place, InitialPlace declared.name place ∧ tree.Yields environment resolved place value
  literals : ∀ (index : Nat) (node : Node), definition.nodes[index]? = some node → ∀ name literal,
    node.sources.get? name = some (.fixed literal) →
      ∃ place, LiteralPlace index name place ∧ tree.Yields environment resolved place literal

/--
Loading a document resolves the texts in it where they stand, whatever lists and mappings they are in.

Only texts stay as they are whose places enter code: the code of nodes, and all that a literal has under the code key of
a list's item.
-/
theorem loadPipeline_resolves_texts {document : String} {environment : Environment} {definition : Definition}
    (loaded : loadPipeline document environment = .ok definition) :
    ∃ tree resolved, readDocument document = .ok tree ∧ substitute environment false tree = .ok resolved ∧
      LoadsTexts environment tree resolved definition := by
  -- A literal is read from one place, and what is below it has come out by its own place.
  obtain ⟨tree, resolved, read, substituted, converted⟩ := convertDocument_of_loadPipeline loaded
  refine ⟨tree, resolved, read, substituted, converted, textAt?_of_substitute substituted,
    resolvesAll_iff substituted, fun declared member value given => ?_,
    fun index node there name literal fixed => ?_⟩
  · obtain ⟨place, part, written, reached, form⟩ := initialPlace_of_convertDocument converted member given
    exact ⟨place, written, yields_of_substitute substituted reached form⟩
  · obtain ⟨place, part, written, reached, form⟩ := literalPlace_of_convertDocument converted there fixed
    exact ⟨place, written, yields_of_substitute substituted reached form⟩

/-- A document whose variable starts with a list of one item, with a reference to the same variable under two keys. -/
def rowsDocument : String :=
  -- One of the keys is that of code.
  "\x7b\"name\":\"a\",\"entry_point\":\"b\",\"state\":\x7b\"rows\":\x7b\"type\":\"list\",\"value\":" ++
    "[\x7b\"note\":\"$\x7bX\x7d\",\"code\":\"$\x7bX\x7d\"\x7d]\x7d\x7d," ++
    "\"nodes\":[\x7b\"id\":\"b\",\"type\":\"code\",\"code\":\"1\"\x7d]\x7d"

/-- The tree of such a document with a text under each of the keys. -/
def rowsTree (note code : String) : Yaml :=
  -- It has four fields.
  .mapping [(.text "name", .text "a"), (.text "entry_point", .text "b"),
    (.text "state", .mapping [(.text "rows", .mapping [(.text "type", .text "list"),
      (.text "value", .sequence [.mapping [(.text "note", .text note), (.text "code", .text code)]])])]),
    (.text "nodes", .sequence
      [.mapping [(.text "id", .text "b"), (.text "type", .text "code"), (.text "code", .text "1")]])]

set_option maxRecDepth 20000 in
/-- The document has its tree. -/
theorem readDocument_rowsDocument :
    readDocument rowsDocument = .ok (rowsTree "$\x7bX\x7d" "$\x7bX\x7d") := by decide +kernel

/-- An environment with a value for the variable. -/
def rowsEnvironment : Environment := Dictionary.empty.insert "X" "1"

/-- The reference is resolved under one of the keys alone. -/
theorem substitute_rowsTree : substitute rowsEnvironment false (rowsTree "$\x7bX\x7d" "$\x7bX\x7d") =
    .ok (rowsTree "1" "$\x7bX\x7d") := by decide +kernel

/-- The definition in the document. -/
def rowsDefinition : Definition :=
  -- Its variable starts with a reference under the key of code.
  ⟨"a", none, [⟨"rows", .list, some (.list [.object [("code", .text "$\x7bX\x7d"), ("note", .text "1")]])⟩], "b",
    [⟨"b", .code "1", [], [], Dictionary.empty, .abort, .finish⟩]⟩

/-- The document is loaded with a reference in it. -/
theorem loadPipeline_rowsDocument : loadPipeline rowsDocument rowsEnvironment = .ok rowsDefinition := by
  have converted : convertDocument (rowsTree "1" "$\x7bX\x7d") = .ok rowsDefinition := rfl
  rw [loadPipeline, readDocument_rowsDocument]
  simp only [loadTree, substitute_rowsTree, converted]
  rfl

/-- One text of the document comes out resolved and the other as it stands, and both do so by their places. -/
theorem loadPipeline_resolves_texts_rowsDocument :
    loadPipeline rowsDocument rowsEnvironment = .ok rowsDefinition ∧
      LoadsTexts rowsEnvironment (rowsTree "$\x7bX\x7d" "$\x7bX\x7d") (rowsTree "1" "$\x7bX\x7d") rowsDefinition := by
  -- The tree and what it is resolved to are known.
  obtain ⟨tree, resolved, read, substituted, loads⟩ := loadPipeline_resolves_texts loadPipeline_rowsDocument
  rw [readDocument_rowsDocument] at read
  cases read
  rw [substitute_rowsTree] at substituted
  cases substituted
  exact ⟨loadPipeline_rowsDocument, loads⟩

/-- The document is loaded although not all texts in it are resolved: one is left that is no code of a node. -/
theorem loadPipeline_leaves_reference :
    loadPipeline rowsDocument rowsEnvironment = .ok rowsDefinition ∧
      ¬∀ tree resolved, readDocument rowsDocument = .ok tree →
        substitute rowsEnvironment false tree = .ok resolved → tree.ResolvesAll rowsEnvironment resolved := by
  -- It stands under the code key of the item in the variable's list.
  refine ⟨loadPipeline_rowsDocument, fun promised => ?_⟩
  have all := promised _ _ readDocument_rowsDocument substitute_rowsTree
  have apart : ¬EntersNodeCode [.entry 2 (some "state"), .entry 0 (some "rows"), .entry 1 (some "value"),
      .item 0, .entry 1 (some "code")] := by
    simp [EntersNodeCode]
  obtain ⟨text, there, resolves⟩ := all _ "$\x7bX\x7d" rfl apart
  cases there
  have given : resolveVariables "$\x7bX\x7d" rowsEnvironment = .ok "1" := by decide +kernel
  rw [given] at resolves
  exact absurd (Except.ok.inj resolves) (by decide)

end PipelineTrial
