import PipelineTrial.Pipeline.Loading
import PipelineTrial.Proofs.Environment
import PipelineTrial.Proofs.Pipeline.Document
import PipelineTrial.Proofs.Yaml.Equality

/-! Resolving the references in a document changes texts alone, one by one, and no code. -/

namespace PipelineTrial

/-- A text in a value, and whether references in it are resolved. -/
structure TextLeaf where
  text : String
  refers : Bool
  deriving DecidableEq

namespace TextLeaf

/-- A text that stands for itself, whatever it holds. -/
def kept (leaf : TextLeaf) : TextLeaf := { leaf with refers := false }

/-- A text with its references resolved, if they are. -/
def resolve (environment : Environment) (leaf : TextLeaf) : Except MissingVariable TextLeaf :=
  -- Only texts outside of code refer to variables.
  if leaf.refers then
    match resolveVariables leaf.text environment with
    | .ok resolved => .ok { leaf with text := resolved }
    | .error missing => .error missing
  else .ok leaf

/-- Texts with their references resolved, or the failure of the first that cannot be. -/
def resolveAll (environment : Environment) : List TextLeaf → Except MissingVariable (List TextLeaf)
  | [] => .ok []
  | leaf :: rest =>
    match leaf.resolve environment with
    | .error missing => .error missing
    | .ok resolved =>
      match resolveAll environment rest with
      | .error missing => .error missing
      | .ok tail => .ok (resolved :: tail)

end TextLeaf

namespace Yaml

mutual

/-- A value with all texts in it blank, keys aside. -/
def shape : Yaml → Yaml
  | .text _ => .text ""
  | .sequence items => .sequence (itemShapes items)
  | .mapping entries => .mapping (entryShapes entries)
  | .tagged tag content => .tagged tag (shape content)
  | .null => .null
  | .boolean value => .boolean value
  | .integer value => .integer value
  | .float value => .float value

/-- Items with all texts in them blank. -/
def itemShapes : List Yaml → List Yaml
  | [] => []
  | item :: rest => shape item :: itemShapes rest

/-- Entries with all texts in their values blank. -/
def entryShapes : List (Yaml × Yaml) → List (Yaml × Yaml)
  | [] => []
  | (key, value) :: rest => (key, shape value) :: entryShapes rest

end

mutual

/-- The texts in a value in document order, keys aside; `inList` tells whether it is an item of a list. -/
def leaves (inList : Bool) : Yaml → List TextLeaf
  | .text raw => [⟨raw, true⟩]
  | .sequence items => itemLeaves items
  | .mapping entries => entryLeaves inList entries
  | .tagged _ content => leaves inList content
  | .null => []
  | .boolean _ => []
  | .integer _ => []
  | .float _ => []

/-- The texts in items. -/
def itemLeaves : List Yaml → List TextLeaf
  | [] => []
  | item :: rest => leaves true item ++ itemLeaves rest

/-- The texts in the values of entries, where all that belongs to code stands for itself. -/
def entryLeaves (inList : Bool) : List (Yaml × Yaml) → List TextLeaf
  | [] => []
  | (key, value) :: rest =>
    (if holdsCode inList key then (leaves false value).map TextLeaf.kept else leaves false value) ++
      entryLeaves inList rest

end

end Yaml

section Leaves

variable {environment : Environment}

/-- Texts that stand for themselves are resolved to themselves. -/
theorem TextLeaf.resolveAll_kept (leaves : List TextLeaf) :
    resolveAll environment (leaves.map kept) = .ok (leaves.map kept) := by
  induction leaves with
  | nil => rfl
  | cons leaf rest ih => simp [resolveAll, ih, resolve, kept]

/-- Texts behind others are resolved when those are. -/
theorem TextLeaf.resolveAll_append (first second : List TextLeaf) :
    resolveAll environment (first ++ second) =
      match resolveAll environment first with
      | .error missing => .error missing
      | .ok resolved =>
        match resolveAll environment second with
        | .error missing => .error missing
        | .ok tail => .ok (resolved ++ tail) := by
  -- By induction on the texts in front: the first that fails stops both sides.
  induction first with
  | nil => cases same : resolveAll environment second <;> simp [resolveAll, same]
  | cons leaf rest ih =>
    simp only [List.cons_append, resolveAll, ih]
    cases leaf.resolve environment with
    | error missing => rfl
    | ok resolved =>
      cases resolveAll environment rest with
      | error missing => rfl
      | ok others => cases resolveAll environment second <;> rfl

/-- Two outcomes with the same reading both fail alike, or both succeed with the same reading. -/
private theorem outcomes_of_map_eq {α β γ : Type} {first : Except MissingVariable α}
    {second : Except MissingVariable β} {read : α → γ} {readOther : β → γ}
    (same : first.map read = second.map readOther) :
    (∃ missing, first = .error missing ∧ second = .error missing) ∨
      ∃ left right, first = .ok left ∧ second = .ok right ∧ read left = readOther right := by
  -- A failure differs from every success.
  cases first with
  | error missing =>
    cases second with
    | error other =>
      cases same
      exact .inl ⟨_, rfl, rfl⟩
    | ok right => cases same
  | ok left =>
    cases second with
    | error other => cases same
    | ok right => exact .inr ⟨left, right, rfl, rfl, Except.ok.inj same⟩

mutual

/-- A value is resolved as the texts in it are, and keeps its shape. -/
theorem substitute_map (inList : Bool) : ∀ value : Yaml,
    (substitute environment inList value).map (fun resolved => (resolved.shape, resolved.leaves inList)) =
      (TextLeaf.resolveAll environment (value.leaves inList)).map fun leaves => (value.shape, leaves)
  | .text raw => by
    simp only [substitute, Yaml.leaves, TextLeaf.resolveAll, TextLeaf.resolve, if_true]
    cases resolveVariables raw environment <;> rfl
  | .sequence items => by
    -- Items and entries fail or succeed as their texts do, and the value with them.
    obtain ⟨missing, failed, stopped⟩ | ⟨resolved, leaves, found, read, same⟩ :=
      outcomes_of_map_eq (substituteItems_map items)
    · simp only [substitute, Yaml.leaves, failed, stopped, Except.map]
    · obtain ⟨shapes, rfl⟩ := Prod.mk.inj same
      simp only [substitute, Yaml.leaves, Yaml.shape, found, read, shapes, Except.map]
  | .mapping entries => by
    obtain ⟨missing, failed, stopped⟩ | ⟨resolved, leaves, found, read, same⟩ :=
      outcomes_of_map_eq (substituteEntries_map inList entries)
    · simp only [substitute, Yaml.leaves, failed, stopped, Except.map]
    · obtain ⟨shapes, rfl⟩ := Prod.mk.inj same
      simp only [substitute, Yaml.leaves, Yaml.shape, found, read, shapes, Except.map]
  | .tagged tag content => by
    obtain ⟨missing, failed, stopped⟩ | ⟨resolved, leaves, found, read, same⟩ :=
      outcomes_of_map_eq (substitute_map inList content)
    · simp only [substitute, Yaml.leaves, failed, stopped, Except.map]
    · obtain ⟨shapes, rfl⟩ := Prod.mk.inj same
      simp only [substitute, Yaml.leaves, Yaml.shape, found, read, shapes, Except.map]
  | .null => rfl
  | .boolean _ => rfl
  | .integer _ => rfl
  | .float _ => rfl

/-- Items are resolved as the texts in them are. -/
theorem substituteItems_map : ∀ items : List Yaml,
    (substituteItems environment items).map
        (fun resolved => (Yaml.itemShapes resolved, Yaml.itemLeaves resolved)) =
      (TextLeaf.resolveAll environment (Yaml.itemLeaves items)).map fun leaves =>
        (Yaml.itemShapes items, leaves)
  | [] => rfl
  | item :: rest => by
    simp only [substituteItems, Yaml.itemLeaves, TextLeaf.resolveAll_append]
    -- The item comes first, then the others; a failure of either is one of both sides.
    obtain ⟨missing, failed, stopped⟩ | ⟨first, leaves, found, read, same⟩ :=
      outcomes_of_map_eq (substitute_map true item)
    · simp only [failed, stopped, Except.map]
    · obtain ⟨shape, rfl⟩ := Prod.mk.inj same
      obtain ⟨missing, failed, stopped⟩ | ⟨others, leaves, foundRest, readRest, sameRest⟩ :=
        outcomes_of_map_eq (substituteItems_map rest)
      · simp only [found, read, failed, stopped, Except.map]
      · obtain ⟨shapes, rfl⟩ := Prod.mk.inj sameRest
        simp only [found, read, foundRest, readRest, Yaml.itemShapes, Yaml.itemLeaves, shape, shapes, Except.map]

/-- Entries are resolved as the texts in their values are, and keep their keys. -/
theorem substituteEntries_map (inList : Bool) : ∀ entries : List (Yaml × Yaml),
    (substituteEntries environment inList entries).map
        (fun resolved => (Yaml.entryShapes resolved, Yaml.entryLeaves inList resolved)) =
      (TextLeaf.resolveAll environment (Yaml.entryLeaves inList entries)).map fun leaves =>
        (Yaml.entryShapes entries, leaves)
  | [] => rfl
  | (key, value) :: rest => by
    have others := outcomes_of_map_eq (substituteEntries_map inList rest)
    simp only [substituteEntries, Yaml.entryLeaves, TextLeaf.resolveAll_append]
    -- A value that is code is kept, and its texts are kept as well.
    cases holds : holdsCode inList key with
    | true =>
      simp only [if_true, TextLeaf.resolveAll_kept]
      obtain ⟨missing, failed, stopped⟩ | ⟨tail, leaves, found, read, same⟩ := others
      · simp only [failed, stopped, Except.map]
      · obtain ⟨shapes, rfl⟩ := Prod.mk.inj same
        simp only [found, read, Yaml.entryShapes, Yaml.entryLeaves, holds, if_true, shapes, Except.map]
    | false =>
      simp only [Bool.false_eq_true, if_false]
      obtain ⟨missing, failed, stopped⟩ | ⟨first, leaves, found, read, same⟩ :=
        outcomes_of_map_eq (substitute_map false value)
      · simp only [failed, stopped, Except.map]
      · obtain ⟨shape, rfl⟩ := Prod.mk.inj same
        obtain ⟨missing, failed, stopped⟩ | ⟨tail, leaves, foundRest, readRest, sameRest⟩ := others
        · simp only [found, read, failed, stopped, Except.map]
        · obtain ⟨shapes, rfl⟩ := Prod.mk.inj sameRest
          simp only [found, read, foundRest, readRest, Yaml.entryShapes, Yaml.entryLeaves, holds,
            Bool.false_eq_true, if_false, shape, shapes, Except.map]

end

mutual

/-- A value is resolved to itself when all texts in it are that refer to variables. -/
theorem substitute_of_plain (inList : Bool) : ∀ value : Yaml,
    (∀ leaf ∈ value.leaves inList, leaf.refers = true → resolveVariables leaf.text environment = .ok leaf.text) →
      substitute environment inList value = .ok value
  | .text raw, plain => by
    have same := plain ⟨raw, true⟩ (by simp [Yaml.leaves]) rfl
    simp only [substitute, same]
  | .sequence items, plain => by
    simp only [substitute, substituteItems_of_plain items plain]
  | .mapping entries, plain => by
    simp only [substitute, substituteEntries_of_plain inList entries plain]
  | .tagged tag content, plain => by
    simp only [substitute, substitute_of_plain inList content plain]
  | .null, _ => rfl
  | .boolean _, _ => rfl
  | .integer _, _ => rfl
  | .float _, _ => rfl

/-- Items are resolved to themselves when all texts in them are. -/
theorem substituteItems_of_plain : ∀ items : List Yaml,
    (∀ leaf ∈ Yaml.itemLeaves items, leaf.refers = true →
      resolveVariables leaf.text environment = .ok leaf.text) →
      substituteItems environment items = .ok items
  | [], _ => rfl
  | item :: rest, plain => by
    have first := substitute_of_plain true item fun leaf member => plain leaf (List.mem_append_left _ member)
    have others := substituteItems_of_plain rest fun leaf member => plain leaf (List.mem_append_right _ member)
    simp only [substituteItems, first, others]

/-- Entries are resolved to themselves when all texts in their values are. -/
theorem substituteEntries_of_plain (inList : Bool) : ∀ entries : List (Yaml × Yaml),
    (∀ leaf ∈ Yaml.entryLeaves inList entries, leaf.refers = true →
      resolveVariables leaf.text environment = .ok leaf.text) →
      substituteEntries environment inList entries = .ok entries
  | [], _ => rfl
  | (key, value) :: rest, plain => by
    have others := substituteEntries_of_plain inList rest fun leaf member =>
      plain leaf (List.mem_append_right _ member)
    -- Texts in code need not be plain, as they are not resolved.
    cases holds : holdsCode inList key with
    | true => simp only [substituteEntries, holds, if_true, others]
    | false =>
      have first := substitute_of_plain false value fun leaf member =>
        plain leaf (List.mem_append_left _ (by simpa [holds] using member))
      simp only [substituteEntries, holds, Bool.false_eq_true, if_false, first, others]

end

end Leaves

namespace Yaml

/-- The payloads under the code key of the items under the node key, as far as they have one. -/
def nodeCodes (root : Yaml) : List (Option Yaml) :=
  -- Tags on the document, the list and its items do not matter.
  match lookup "nodes" root.fields with
  | none => []
  | some nodes => nodes.items.map fun item => lookup codeKey item.fields

end Yaml

section Codes

variable {environment : Environment} {inList : Bool}

/-- How a value is resolved by its kind, below its tags. -/
inductive ResolvedByKind (environment : Environment) (inList : Bool) : Yaml → Yaml → Prop where
  | null : ResolvedByKind environment inList .null .null
  | boolean (own : Bool) : ResolvedByKind environment inList (.boolean own) (.boolean own)
  | integer (own : Int) : ResolvedByKind environment inList (.integer own) (.integer own)
  | float (own : Float) : ResolvedByKind environment inList (.float own) (.float own)
  | text {raw text : String} (resolves : resolveVariables raw environment = .ok text) :
    ResolvedByKind environment inList (.text raw) (.text text)
  | sequence {items resolved : List Yaml} (each : substituteItems environment items = .ok resolved) :
    ResolvedByKind environment inList (.sequence items) (.sequence resolved)
  | mapping {entries resolved : List (Yaml × Yaml)}
    (each : substituteEntries environment inList entries = .ok resolved) :
    ResolvedByKind environment inList (.mapping entries) (.mapping resolved)
  | tagged {tag : String} {content resolved : Yaml} (inside : ResolvedByKind environment inList content resolved) :
    ResolvedByKind environment inList (.tagged tag content) (.tagged tag resolved)

/-- A value that is resolved is resolved by its kind. -/
theorem resolvedByKind_of_substitute : ∀ {value resolved : Yaml},
    substitute environment inList value = .ok resolved → ResolvedByKind environment inList value resolved
  -- A failure below is one of the whole, and only a tag has a value of any kind below it.
  | .tagged _ _, _, succeeded => by
    simp only [substitute] at succeeded
    split at succeeded <;> cases succeeded
    exact .tagged (resolvedByKind_of_substitute ‹_›)
  | .mapping _, _, succeeded => by
    simp only [substitute] at succeeded
    split at succeeded <;> cases succeeded
    exact .mapping ‹_›
  | .sequence _, _, succeeded => by
    simp only [substitute] at succeeded
    split at succeeded <;> cases succeeded
    exact .sequence ‹_›
  | .text _, _, succeeded => by
    simp only [substitute] at succeeded
    split at succeeded <;> cases succeeded
    exact .text ‹_›
  | .null, _, succeeded => by cases succeeded; exact .null
  | .boolean own, _, succeeded => by cases succeeded; exact .boolean own
  | .integer own, _, succeeded => by cases succeeded; exact .integer own
  | .float own, _, succeeded => by cases succeeded; exact .float own

/-- The entries of a value are resolved with it. -/
theorem fields_of_substitute {value resolved : Yaml} (succeeded : substitute environment inList value = .ok resolved) :
    substituteEntries environment inList value.fields = .ok resolved.fields := by
  -- A mapping has entries, and what is tagged has those below the tag.
  have byKind := resolvedByKind_of_substitute succeeded
  clear succeeded
  induction byKind with
  | mapping each => exact each
  | tagged _ ih => exact ih
  | _ => rfl

/-- The items of a value are resolved with it. -/
theorem items_of_substitute {value resolved : Yaml} (succeeded : substitute environment inList value = .ok resolved) :
    substituteItems environment value.items = .ok resolved.items := by
  -- A list has items, and what is tagged has those below the tag.
  have byKind := resolvedByKind_of_substitute succeeded
  clear succeeded
  induction byKind with
  | sequence each => exact each
  | tagged _ ih => exact ih
  | _ => rfl

/-- Resolved entries are a first one with its key, left as it is if it holds code, and the others. -/
theorem of_substituteEntries_cons {key value : Yaml} {rest resolved : List (Yaml × Yaml)}
    (succeeded : substituteEntries environment inList ((key, value) :: rest) = .ok resolved) :
    ∃ first tail, resolved = (key, first) :: tail ∧ substituteEntries environment inList rest = .ok tail ∧
      if holdsCode inList key then first = value else substitute environment false value = .ok first := by
  -- Any failure is one of all entries.
  simp only [substituteEntries] at succeeded
  split at succeeded
  · next holds =>
    split at succeeded <;> cases succeeded
    exact ⟨value, _, rfl, ‹_›, by rw [if_pos holds]⟩
  · next apart =>
    split at succeeded
    · cases succeeded
    · split at succeeded <;> cases succeeded
      exact ⟨_, _, rfl, ‹_›, by rw [if_neg apart]; assumption⟩

/-- What is under a key before entries are resolved is there resolved after that, unless it is code. -/
theorem lookup_of_substituteEntries (name : String) : ∀ {entries resolved : List (Yaml × Yaml)},
    substituteEntries environment inList entries = .ok resolved →
      match Yaml.lookup name entries with
      | none => Yaml.lookup name resolved = none
      | some value => ∃ other, Yaml.lookup name resolved = some other ∧
        if holdsCode inList (.text name) then other = value
          else substitute environment false value = .ok other
  | [], _, succeeded => by
    cases succeeded
    rfl
  | (key, value) :: rest, _, succeeded => by
    obtain ⟨first, tail, rfl, following, resolved⟩ := of_substituteEntries_cons succeeded
    have later := lookup_of_substituteEntries name following
    -- Only a key that is a text can be the name, and keys stay as they are.
    cases key with
    | text own =>
      simp only [Yaml.lookup]
      by_cases same : own = name
      · subst same
        simp only [if_true]
        exact ⟨first, rfl, resolved⟩
      · simpa only [if_neg same] using later
    | _ => exact later

/-- Items have the same code payloads before and after they are resolved. -/
theorem codes_of_substituteItems : ∀ {items resolved : List Yaml},
    substituteItems environment items = .ok resolved →
      resolved.map (fun item => Yaml.lookup codeKey item.fields) =
        items.map fun item => Yaml.lookup codeKey item.fields
  | [], _, succeeded => by
    cases succeeded
    rfl
  | item :: rest, _, succeeded => by
    simp only [substituteItems] at succeeded
    split at succeeded
    · cases succeeded
    · next first found =>
      split at succeeded <;> cases succeeded
      -- The code of an item is an entry of it, which is kept.
      have later := codes_of_substituteItems ‹_›
      have here := lookup_of_substituteEntries codeKey (fields_of_substitute found)
      rw [List.map_cons, List.map_cons, later]
      refine congrArg (· :: _) ?_
      cases code : Yaml.lookup codeKey item.fields with
      | none => simpa only [code] using here
      | some payload =>
        simp only [code] at here
        obtain ⟨other, there, kept⟩ := here
        rw [if_pos (by decide)] at kept
        rw [there, kept]

/-- Resolving a document leaves the code payloads of its nodes as they are. -/
theorem nodeCodes_of_substitute {root resolved : Yaml}
    (succeeded : substitute environment inList root = .ok resolved) : resolved.nodeCodes = root.nodeCodes := by
  -- The node key is not the code key, so its items are resolved.
  have found := lookup_of_substituteEntries "nodes" (fields_of_substitute succeeded)
  have apart : holdsCode inList (.text "nodes") = false := by cases inList <;> decide
  unfold Yaml.nodeCodes
  cases nodes : Yaml.lookup "nodes" root.fields with
  | none =>
    simp only [nodes] at found
    simp only [found]
  | some list =>
    simp only [nodes, apart, Bool.false_eq_true, if_false] at found
    obtain ⟨other, there, resolved⟩ := found
    simp only [there]
    exact codes_of_substituteItems (items_of_substitute resolved)

end Codes

/-- How a text comes out of the resolution of a document: it stands for itself, or its references are resolved. -/
structure TextLeaf.Resolves (environment : Environment) (before after : TextLeaf) : Prop where
  refers : after.refers = before.refers
  resolved : before.refers = true → resolveVariables before.text environment = .ok after.text
  kept : before.refers = false → after.text = before.text

section Outcomes

variable {environment : Environment}

/-- A text is resolved as its references are, if they are. -/
theorem TextLeaf.resolves_of_resolve {before after : TextLeaf}
    (succeeded : before.resolve environment = .ok after) : before.Resolves environment after := by
  -- A text that stands for itself always is.
  unfold resolve at succeeded
  split at succeeded
  · next refers =>
    split at succeeded
    · next resolved found =>
      cases succeeded
      exact ⟨rfl, fun _ => found, fun kept => absurd refers (by simp [kept])⟩
    · cases succeeded
  · next apart =>
    cases succeeded
    exact ⟨rfl, fun refers => absurd refers apart, fun _ => rfl⟩

/-- Texts are resolved one by one. -/
theorem TextLeaf.resolves_of_resolveAll {leaves resolved : List TextLeaf}
    (succeeded : resolveAll environment leaves = .ok resolved) :
    List.Forall₂ (Resolves environment) leaves resolved := by
  -- Each of them comes out.
  induction leaves generalizing resolved with
  | nil =>
    cases succeeded
    exact .nil
  | cons leaf rest ih =>
    simp only [resolveAll] at succeeded
    split at succeeded
    · cases succeeded
    · next first found =>
      split at succeeded <;> cases succeeded
      exact .cons (resolves_of_resolve found) (ih ‹_›)

/-- A text fails when its references are resolved and one of them cannot be. -/
theorem TextLeaf.resolve_eq_error {leaf : TextLeaf} {missing : MissingVariable} :
    leaf.resolve environment = .error missing ↔
      leaf.refers = true ∧ resolveVariables leaf.text environment = .error missing := by
  unfold resolve
  cases leaf.refers <;> cases resolveVariables leaf.text environment <;> simp

/-- A text is resolved when its references can be, if they are. -/
theorem TextLeaf.exists_resolve_iff {leaf : TextLeaf} : (∃ resolved, leaf.resolve environment = .ok resolved) ↔
    (leaf.refers = true → ∃ text, resolveVariables leaf.text environment = .ok text) := by
  unfold resolve
  cases leaf.refers <;> cases resolveVariables leaf.text environment <;> simp

/-- A text in a list with one in front is that one, or stands behind it. -/
private theorem exists_leaf_cons_iff {first : TextLeaf} {rest : List TextLeaf}
    {holds : List TextLeaf → TextLeaf → Prop} :
    (∃ before leaf after, first :: rest = before ++ leaf :: after ∧ holds before leaf) ↔
      holds [] first ∨ ∃ before leaf after, rest = before ++ leaf :: after ∧ holds (first :: before) leaf := by
  constructor
  · rintro ⟨before, leaf, after, same, facts⟩
    cases before with
    | nil =>
      cases same
      exact .inl facts
    | cons head tail =>
      cases same
      exact .inr ⟨tail, leaf, after, rfl, facts⟩
  · rintro (facts | ⟨before, leaf, after, rfl, facts⟩)
    · exact ⟨[], first, rest, rfl, facts⟩
    · exact ⟨first :: before, leaf, after, rfl, facts⟩

/-- Texts fail as the first of them does that cannot be resolved. -/
theorem TextLeaf.resolveAll_eq_error {leaves : List TextLeaf} {missing : MissingVariable} :
    resolveAll environment leaves = .error missing ↔ ∃ before leaf after, leaves = before ++ leaf :: after ∧
      (∀ earlier ∈ before, earlier.refers = true →
        ∃ text, resolveVariables earlier.text environment = .ok text) ∧
      leaf.refers = true ∧ resolveVariables leaf.text environment = .error missing := by
  simp only [← exists_resolve_iff, ← resolve_eq_error]
  -- The first text fails, or all depends on the others.
  induction leaves with
  | nil => simp [resolveAll]
  | cons first rest ih =>
    rw [exists_leaf_cons_iff]
    cases found : first.resolve environment with
    | error own => simp [resolveAll, found]
    | ok resolved =>
      have onward : resolveAll environment (first :: rest) = .error missing ↔
          resolveAll environment rest = .error missing := by
        simp only [resolveAll, found]
        cases resolveAll environment rest <;> simp
      rw [onward, ih]
      simp [found]

end Outcomes

/-- How a tree comes out of the resolution of its references: no more than texts outside of code are changed. -/
structure Substituted (environment : Environment) (inList : Bool) (tree resolved : Yaml) : Prop where
  shape : resolved.shape = tree.shape
  leaves : List.Forall₂ (TextLeaf.Resolves environment) (tree.leaves inList) (resolved.leaves inList)
  codes : resolved.nodeCodes = tree.nodeCodes

section Loading

variable {environment : Environment}

/-- A tree that is resolved keeps its shape and its code, and its texts come out one by one. -/
theorem substituted_of_substitute {inList : Bool} {tree resolved : Yaml}
    (succeeded : substitute environment inList tree = .ok resolved) :
    Substituted environment inList tree resolved := by
  -- The texts in the tree have been resolved in order.
  have agreed := @substitute_map environment inList tree
  obtain ⟨_, failed, _⟩ | ⟨own, leaves, found, read, same⟩ := outcomes_of_map_eq agreed
  · rw [succeeded] at failed
    cases failed
  · rw [succeeded] at found
    cases found
    obtain ⟨shape, rfl⟩ := Prod.mk.inj same
    exact ⟨shape, TextLeaf.resolves_of_resolveAll read, nodeCodes_of_substitute succeeded⟩

/-- A tree fails to be resolved as the texts in it do. -/
theorem substitute_eq_error {inList : Bool} {tree : Yaml} {missing : MissingVariable} :
    substitute environment inList tree = .error missing ↔
      TextLeaf.resolveAll environment (tree.leaves inList) = .error missing := by
  -- Both fail alike or not at all.
  obtain ⟨own, failed, stopped⟩ | ⟨_, _, found, read, _⟩ :=
    outcomes_of_map_eq (@substitute_map environment inList tree)
  · simp only [failed, stopped, Except.error.injEq]
  · simp only [found, read, reduceCtorEq]

/-- The code of a node that is read from a document tree is the payload that its item has there. -/
theorem codes_of_convertDocument {root : Yaml} {definition : Definition}
    (succeeded : convertDocument root = .ok definition) {index : Nat} {node : Node} {payload : String}
    (found : definition.nodes[index]? = some node) (code : node.kind = .code payload) :
    ∃ value, root.nodeCodes[index]? = some (some value) ∧ value.scalarText? = some payload := by
  -- The node is read from the item at its place, and its code from the code field.
  obtain ⟨items, listed, _, converted⟩ := (readsDefinition_of_convertDocument succeeded).nodes
  have pairs := rel_getElem?_of_forall₂ (forall₂_of_convertNodes converted) index
  rw [found] at pairs
  obtain ⟨item, there, reads⟩ := exists_of_rel pairs
  have kind := (readsNode_of_convertNode reads).kind
  rw [code] at kind
  obtain ⟨value, held, text⟩ := lookup_of_requiredText (code_of_convertKind kind)
  have list : root.nodeCodes = items.map fun item => Yaml.lookup codeKey item.fields := by
    simp only [Yaml.nodeCodes, listed]
    rfl
  refine ⟨value, ?_, text⟩
  rw [list, List.getElem?_map, there, Option.map_some]
  exact congrArg some held

/-- A definition that is loaded is read from the tree of its document once the references in it are resolved. -/
theorem convertDocument_of_loadPipeline {document : String} {definition : Definition}
    (loaded : loadPipeline document environment = .ok definition) :
    ∃ tree resolved, readDocument document = .ok tree ∧ substitute environment false tree = .ok resolved ∧
      convertDocument resolved = .ok definition := by
  -- A failure at any stage is one of the whole.
  unfold loadPipeline at loaded
  split at loaded
  · cases loaded
  · next tree read =>
    unfold loadTree at loaded
    split at loaded
    · cases loaded
    · next resolved substituted =>
      cases converted : convertDocument resolved with
      | error fault =>
        rw [converted] at loaded
        cases loaded
      | ok own =>
        rw [converted] at loaded
        cases loaded
        exact ⟨tree, resolved, read, substituted, converted⟩

/-- The code of a node that is loaded is the payload that its item has in the document. -/
theorem codes_of_loadPipeline {document : String} {definition : Definition}
    (loaded : loadPipeline document environment = .ok definition) :
    ∃ tree, readDocument document = .ok tree ∧ ∀ (index : Nat) (node : Node) (payload : String),
      definition.nodes[index]? = some node → node.kind = .code payload →
        ∃ value, tree.nodeCodes[index]? = some (some value) ∧ value.scalarText? = some payload := by
  -- Its references have been resolved before it was converted, which leaves code as it is.
  obtain ⟨tree, resolved, read, substituted, converted⟩ := convertDocument_of_loadPipeline loaded
  refine ⟨tree, read, fun index node payload found code => ?_⟩
  rw [← nodeCodes_of_substitute substituted]
  exact codes_of_convertDocument converted found code

/-- A document that refers to no variable is loaded as it is parsed. -/
theorem loadPipeline_of_plain {document : String}
    (plain : ∀ tree, readDocument document = .ok tree → ∀ leaf ∈ tree.leaves false, leaf.refers = true →
      ¬HasReference leaf.text) :
    loadPipeline document environment = (parsePipeline document).mapError DocumentError.toPipelineError := by
  -- Its tree is resolved to itself.
  unfold loadPipeline parsePipeline
  cases read : readDocument document with
  | error fault => rfl
  | ok tree =>
    have same : substitute environment false tree = .ok tree :=
      substitute_of_plain false tree fun leaf member refers =>
        resolveVariables_of_not_hasReference (plain tree read leaf member refers) environment
    simp only [loadTree, same]
    rfl

end Loading

/--
Resolving the references in a tree changes only texts that are no part of code, each by itself.

It fails as the first of them does. So code is loaded as it stands in its document, and a document without references is
loaded in every environment as it is parsed.
-/
theorem substitution_confined (environment : Environment) :
    (∀ inList tree resolved, substitute environment inList tree = .ok resolved →
      Substituted environment inList tree resolved) ∧
    (∀ inList tree missing, substitute environment inList tree = .error missing ↔
      ∃ before leaf after, tree.leaves inList = before ++ leaf :: after ∧
        (∀ earlier ∈ before, earlier.refers = true →
          ∃ text, resolveVariables earlier.text environment = .ok text) ∧
        leaf.refers = true ∧ resolveVariables leaf.text environment = .error missing) ∧
    (∀ document definition, loadPipeline document environment = .ok definition →
      ∃ tree, readDocument document = .ok tree ∧ ∀ (index : Nat) (node : Node) (payload : String),
        definition.nodes[index]? = some node → node.kind = .code payload →
          ∃ value, tree.nodeCodes[index]? = some (some value) ∧ value.scalarText? = some payload) ∧
    (∀ document, (∀ tree, readDocument document = .ok tree → ∀ leaf ∈ tree.leaves false,
        leaf.refers = true → ¬HasReference leaf.text) →
      loadPipeline document environment =
        (parsePipeline document).mapError DocumentError.toPipelineError) := by
  -- A tree fails to be resolved as the texts in it do, one after another.
  refine ⟨fun inList tree resolved => substituted_of_substitute, fun inList tree missing => ?_,
    fun document definition => codes_of_loadPipeline, fun document => loadPipeline_of_plain⟩
  rw [substitute_eq_error, TextLeaf.resolveAll_eq_error]

/-- A document of one node of code that holds what is a reference elsewhere. -/
def codeDocument : String :=
  -- The node names no variable but in its code.
  "\x7b\"name\":\"a\",\"entry_point\":\"b\",\"nodes\":" ++
    "[\x7b\"id\":\"b\",\"type\":\"code\",\"code\":\"$\x7bX\x7d\"\x7d]\x7d"

/-- The tree of such a document with a name. -/
def codeTree (name : String) : Yaml :=
  -- It has three fields.
  .mapping [(.text "name", .text name), (.text "entry_point", .text "b"), (.text "nodes", .sequence
    [.mapping [(.text "id", .text "b"), (.text "type", .text "code"), (.text "code", .text "$\x7bX\x7d")]])]

set_option maxRecDepth 20000 in
/-- The document has its tree. -/
theorem readDocument_codeDocument : readDocument codeDocument = .ok (codeTree "a") := by decide +kernel

/-- The definition in the document. -/
def codeDefinition : Definition :=
  -- All but its code is as it would be unless given.
  ⟨"a", none, [], "b", [⟨"b", .code "$\x7bX\x7d", [], [], Dictionary.empty, .abort, .finish⟩]⟩

/-- The document is loaded without any variable. -/
theorem loadPipeline_codeDocument : loadPipeline codeDocument Dictionary.empty = .ok codeDefinition := by
  rw [loadPipeline, readDocument_codeDocument]
  decide +kernel

/-- A name is resolved once while code is not, and a document that refers to nothing is loaded everywhere alike. -/
theorem substitution_confined_codeDocument :
    Substituted (Dictionary.empty.insert "X" "\x7d: $\x7bY\x7d") false (codeTree "$\x7bX\x7d")
        (codeTree "\x7d: $\x7bY\x7d") ∧
      (∃ value, (codeTree "a").nodeCodes[0]? = some (some value) ∧
        value.scalarText? = some "$\x7bX\x7d") ∧
      ∀ environment, loadPipeline codeDocument environment =
        (parsePipeline codeDocument).mapError DocumentError.toPipelineError := by
  -- Its only reference is the one in its code.
  refine ⟨(substitution_confined _).1 false _ _ (by decide +kernel), ?_, fun environment => ?_⟩
  · obtain ⟨tree, read, codes⟩ :=
      (substitution_confined Dictionary.empty).2.2.1 codeDocument _ loadPipeline_codeDocument
    rw [readDocument_codeDocument] at read
    cases read
    exact codes 0 _ _ rfl rfl
  · refine (substitution_confined environment).2.2.2 codeDocument fun tree read leaf member refers => ?_
    rw [readDocument_codeDocument] at read
    cases read
    have dollarless : ∀ leaf ∈ (codeTree "a").leaves false, leaf.refers = true → '$' ∉ leaf.text.toList := by
      decide
    exact fun holds => dollarless leaf member refers (mem_of_hasReference holds)

end PipelineTrial
