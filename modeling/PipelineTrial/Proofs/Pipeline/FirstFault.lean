import PipelineTrial.Proofs.Pipeline.Document

/-! The nodes of a document are read in order up to the first that has a fault of its own or repeats an id. -/

namespace PipelineTrial

namespace Yaml

/-- Entries with a value in place of the one under a name. -/
def replace (name : String) (value : Yaml) : List (Yaml × Yaml) → List (Yaml × Yaml)
  | [] => []
  | (.text key, old) :: rest => (.text key, if key = name then value else old) :: replace name value rest
  | entry :: rest => entry :: replace name value rest

/-- Only what is under the name is replaced. -/
theorem lookup_replace (name other : String) (value : Yaml) (entries : List (Yaml × Yaml)) :
    lookup other (replace name value entries) =
      if other = name then (lookup name entries).map fun _ => value else lookup other entries := by
  -- By induction on the entries: all that are keyed by the name get the value.
  fun_induction replace name value entries with
  | case1 => simp [lookup]
  | case2 key old rest ih =>
    rw [lookup, lookup, lookup, ih]
    grind
  | case3 entry rest noText ih =>
    obtain ⟨key, old⟩ := entry
    cases key with
    | text key => exact absurd rfl (noText key old)
    | _ => exact ih

/-- A mapping, tags aside, with a value in place of the one under a name. -/
def replaceField (name : String) : Yaml → Yaml → Yaml
  | .mapping entries, value => .mapping (replace name value entries)
  | .tagged tag content, value => .tagged tag (replaceField name content value)
  | other, _ => other

/-- The fields are those of the mapping before, with the value in place of the one under the name. -/
theorem fields_replaceField (name : String) (root value : Yaml) :
    (root.replaceField name value).fields = replace name value root.fields := by
  -- Tags stay as they are.
  fun_induction replaceField name root value with
  | case1 entries value => rfl
  | case2 tag content value ih => exact ih
  | case3 other value noMapping noTag =>
    cases other with
    | mapping entries => exact absurd rfl (noMapping entries)
    | tagged tag content => exact absurd rfl (noTag tag content)
    | _ => rfl

end Yaml

/-- What a document declares besides its nodes. -/
structure Heading where
  name : String
  description : Option String
  stateVariables : List StateVariable
  entryPoint : String

/-- The definition with a heading and nodes. -/
def Heading.withNodes (heading : Heading) (nodes : List Node) : Definition :=
  ⟨heading.name, heading.description, heading.stateVariables, heading.entryPoint, nodes⟩

/-- A document has a heading over a list of items, of which there is at least one. -/
structure Heading.Heads (heading : Heading) (root : Yaml) (items : List Yaml) : Prop where
  name : requiredText root.fields "name" = .ok heading.name
  description : optionalText root.fields "description" = .ok heading.description
  stateVariables : optionalVariables root.fields = .ok heading.stateVariables
  entryPoint : requiredText root.fields "entry_point" = .ok heading.entryPoint
  listed : Yaml.lookup "nodes" root.fields = some (.sequence items)
  filled : items ≠ []

/-- A fault of the item at a place: its own, or that its id is the one of an item before. -/
inductive ItemFault (items : List Yaml) (place : Nat) : DocumentError → Prop where
  | own {item : Yaml} {error : DocumentError} :
      items[place]? = some item → convertNode item = .error error →
      ItemFault items place ⟨.field "nodes" :: .item place :: error.path, error.fault⟩
  | repeated {item before : Yaml} {node other : Node} {earlier : Nat} :
      items[place]? = some item → convertNode item = .ok node → earlier < place →
      items[earlier]? = some before → convertNode before = .ok other → other.id = node.id →
      ItemFault items place ⟨[.field "nodes", .item place, .field "id"], .duplicateId node.id⟩

/-- A fault of the first item that has one. -/
structure FirstFault (items : List Yaml) (place : Nat) (error : DocumentError) : Prop where
  fault : ItemFault items place error
  least : ∀ later other, ItemFault items later other → place ≤ later

section Faults

variable {items before after : List Yaml} {place : Nat} {error other : DocumentError}

/-- An item has at most one fault. -/
theorem ItemFault.unique (fault : ItemFault items place error) (same : ItemFault items place other) :
    error = other := by
  -- An item that repeats an id has no fault of its own.
  cases fault with
  | own found failed =>
    cases same with
    | own again failedAgain =>
      cases found.symm.trans again
      cases failed.symm.trans failedAgain
      rfl
    | repeated again converted _ _ _ _ =>
      cases found.symm.trans again
      cases failed.symm.trans converted
  | repeated found converted _ _ _ _ =>
    cases same with
    | own again failed =>
      cases found.symm.trans again
      cases failed.symm.trans converted
    | repeated again convertedAgain _ _ _ _ =>
      cases found.symm.trans again
      cases converted.symm.trans convertedAgain
      rfl

/-- Only one item is the first with a fault. -/
theorem FirstFault.unique {later : Nat} (first : FirstFault items place error)
    (same : FirstFault items later other) : place = later ∧ error = other := by
  obtain rfl := Nat.le_antisymm (first.least _ _ same.fault) (same.least _ _ first.fault)
  exact ⟨rfl, first.fault.unique same.fault⟩

/-- Whether an item has a fault depends on nothing after it. -/
theorem ItemFault.of_append (fault : ItemFault (before ++ after) place error) (inside : place < before.length) :
    ItemFault before place error := by
  cases fault with
  | own found failed =>
    rw [List.getElem?_append_left inside] at found
    exact .own found failed
  | repeated found converted earlier foundEarlier convertedEarlier same =>
    rw [List.getElem?_append_left inside] at found
    rw [List.getElem?_append_left (Nat.lt_trans earlier inside)] at foundEarlier
    exact .repeated found converted earlier foundEarlier convertedEarlier same

/-- Items that convert to nodes with different ids have no fault. -/
theorem not_itemFault {nodes : List Node}
    (read : List.Forall₂ (fun item node => convertNode item = .ok node) items nodes)
    (distinct : (nodes.map (·.id)).Nodup) : ¬ItemFault items place error := by
  -- The node of an item stands at the same place.
  have node_at {place : Nat} {item : Yaml} (found : items[place]? = some item) :
      ∃ node, nodes[place]? = some node ∧ convertNode item = .ok node :=
    exists_rel_of_some (found ▸ rel_getElem?_of_forall₂ read place)
  intro fault
  cases fault with
  | own found failed =>
    obtain ⟨node, _, converted⟩ := node_at found
    cases failed.symm.trans converted
  | @repeated _ _ _ _ earlier found converted before foundEarlier convertedEarlier same =>
    obtain ⟨node, there, again⟩ := node_at found
    obtain ⟨other, thereEarlier, againEarlier⟩ := node_at foundEarlier
    cases converted.symm.trans again
    cases convertedEarlier.symm.trans againEarlier
    have inside : earlier < (nodes.map (·.id)).length := by
      rw [List.length_map]
      exact (List.getElem?_eq_some_iff.1 thereEarlier).1
    have equal : (nodes.map (·.id))[earlier]? = (nodes.map (·.id))[place]? := by
      rw [List.getElem?_map, List.getElem?_map, there, thereEarlier, Option.map_some, Option.map_some, same]
    exact Nat.ne_of_lt before ((List.getElem?_inj inside distinct).1 equal)

end Faults

/-- After an item that converts, reading goes on unless its id was seen before. -/
theorem convertNodes_cons {item : Yaml} {node : Node} (converted : convertNode item = .ok node) (index : Nat)
    (seen : List String) (rest : List Yaml) :
    convertNodes index seen (item :: rest) =
      if node.id ∈ seen then .error ⟨[.item index, .field "id"], .duplicateId node.id⟩
      else (convertNodes (index + 1) (node.id :: seen) rest).map (node :: ·) := by
  rw [convertNodes, converted]
  rfl

/-- Items that convert to nodes with different ids, none of them seen before, are read as these nodes. -/
theorem convertNodes_of_forall₂ {index : Nat} {seen : List String} {items : List Yaml} {nodes : List Node}
    (read : List.Forall₂ (fun item node => convertNode item = .ok node) items nodes)
    (distinct : (nodes.map (·.id)).Nodup) (unseen : ∀ node ∈ nodes, node.id ∉ seen) :
    convertNodes index seen items = .ok nodes := by
  -- The ids seen grow by each node.
  induction read generalizing index seen with
  | nil => rfl
  | @cons item node rest tail converted _ ih =>
    obtain ⟨fresh, distinct⟩ := List.nodup_cons.1 distinct
    obtain ⟨first, others⟩ := List.forall_mem_cons.1 unseen
    have following : convertNodes (index + 1) (node.id :: seen) rest = .ok tail := by
      refine ih distinct fun later member again => ?_
      rcases List.mem_cons.1 again with same | again
      · exact fresh (List.mem_map.2 ⟨later, member, same⟩)
      · exact others later member again
    rw [convertNodes_cons converted, if_neg first, following]
    rfl

/-- Reading fails at an item after others that are read, either by its own fault or because its id was seen. -/
theorem split_of_convertNodes {index : Nat} {seen : List String} {items : List Yaml} {error : DocumentError}
    (failed : convertNodes index seen items = .error error) :
    ∃ before item after nodes, items = before ++ item :: after ∧ convertNodes index seen before = .ok nodes ∧
      ((∃ own, convertNode item = .error own ∧ error = own.under (.item (index + before.length))) ∨
        ∃ node, convertNode item = .ok node ∧ (node.id ∈ seen ∨ node.id ∈ nodes.map (·.id)) ∧
          error = ⟨[.item (index + before.length), .field "id"], .duplicateId node.id⟩) := by
  -- The induction moves the items that are read to the front.
  induction items generalizing index seen with
  | nil => cases failed
  | cons item rest ih =>
    cases converted : convertNode item with
    | error own =>
      rw [convertNodes, converted] at failed
      cases failed
      exact ⟨[], item, rest, [], rfl, rfl, .inl ⟨own, converted, rfl⟩⟩
    | ok node =>
      rw [convertNodes_cons converted] at failed
      split at failed
      · next known =>
        cases failed
        exact ⟨[], item, rest, [], rfl, rfl, .inr ⟨node, converted, .inl known, rfl⟩⟩
      · next fresh =>
        have later : convertNodes (index + 1) (node.id :: seen) rest = .error error := by
          cases following : convertNodes (index + 1) (node.id :: seen) rest with
          | ok nodes =>
            rw [following] at failed
            cases failed
          | error other =>
            rw [following] at failed
            cases failed
            rfl
        obtain ⟨before, faulty, after, nodes, rfl, read, fault⟩ := ih later
        refine ⟨item :: before, faulty, after, node :: nodes, rfl, ?_, ?_⟩
        · rw [convertNodes_cons converted, if_neg fresh, read]
          rfl
        · rw [List.length_cons, Nat.add_comm before.length, ← Nat.add_assoc]
          refine fault.imp_right fun ⟨other, convertedOther, known, told⟩ => ⟨other, convertedOther, ?_, told⟩
          -- Among the ids seen later is that of the node at the front.
          rcases known with known | known
          · rcases List.mem_cons.1 known with same | known
            · exact .inr (same ▸ List.mem_cons_self)
            · exact .inl known
          · exact .inr (List.mem_cons_of_mem _ known)

/-- Reading the nodes of a document fails with the first fault, and all items before it are read. -/
theorem firstFault_of_convertNodes {items : List Yaml} {error : DocumentError}
    (failed : convertNodes 0 [] items = .error error) :
    ∃ place nodes, FirstFault items place (error.under (.field "nodes")) ∧
      convertNodes 0 [] (items.take place) = .ok nodes := by
  obtain ⟨before, item, after, nodes, rfl, read, fault⟩ := split_of_convertNodes failed
  rw [Nat.zero_add] at fault
  have found : (before ++ item :: after)[before.length]? = some item := by simp
  refine ⟨before.length, nodes, ⟨?_, fun later other faulty => ?_⟩, by rwa [List.take_left]⟩
  · rcases fault with ⟨own, converted, rfl⟩ | ⟨node, converted, known, rfl⟩
    · exact .own found converted
    · -- Nothing was seen before the first item, so the id is the one of an item that was read.
      obtain ⟨other, member, same⟩ := List.mem_map.1 (known.resolve_left List.not_mem_nil)
      obtain ⟨earlier, there⟩ := List.getElem?_of_mem member
      obtain ⟨first, foundFirst, convertedFirst⟩ :=
        exists_of_rel (there ▸ rel_getElem?_of_forall₂ (forall₂_of_convertNodes read) earlier)
      have inside : earlier < before.length := (List.getElem?_eq_some_iff.1 foundFirst).1
      rw [← List.getElem?_append_left inside] at foundFirst
      exact .repeated found converted inside foundFirst convertedFirst same
  · -- The items before have no fault.
    by_contra early
    exact not_itemFault (forall₂_of_convertNodes read) (nodup_of_convertNodes read).1
      (faulty.of_append (Nat.lt_of_not_le early))

/-- The first fault of items is the error of reading them, and all items before are read. -/
theorem FirstFault.convertNodes_eq {items : List Yaml} {place : Nat} {error : DocumentError}
    (first : FirstFault items place error) :
    (convertNodes 0 [] items).within (.field "nodes") = .error error ∧
      ∃ nodes, convertNodes 0 [] (items.take place) = .ok nodes := by
  cases read : convertNodes 0 [] items with
  | ok nodes => exact absurd first.fault (not_itemFault (forall₂_of_convertNodes read) (nodup_of_convertNodes read).1)
  | error inner =>
    -- There is no other first fault.
    obtain ⟨other, nodes, same, readBefore⟩ := firstFault_of_convertNodes read
    obtain ⟨rfl, rfl⟩ := first.unique same
    exact ⟨rfl, nodes, readBefore⟩

/-- The text of a field depends on nothing else. -/
theorem optionalText_congr {left right : DocumentFields} {name : String}
    (same : Yaml.lookup name left = Yaml.lookup name right) : optionalText left name = optionalText right name := by
  rw [optionalText, optionalText, same]

/-- A required text depends on nothing but its field. -/
theorem requiredText_congr {left right : DocumentFields} {name : String}
    (same : Yaml.lookup name left = Yaml.lookup name right) : requiredText left name = requiredText right name := by
  rw [requiredText, requiredText, optionalText_congr same]

section Documents

variable {root : Yaml} {heading : Heading} {items : List Yaml}

/-- A document with a heading is converted by reading its nodes. -/
theorem Heading.Heads.convertDocument_eq (heads : heading.Heads root items) :
    convertDocument root = ((convertNodes 0 [] items).within (.field "nodes")).map heading.withNodes := by
  -- A document that has a name is a mapping.
  cases entries : root.entries? with
  | none =>
    have named := heads.name
    rw [Yaml.fields, entries] at named
    cases named
  | some fields =>
    have mapping : requireMapping root = .ok root.fields := by
      rw [requireMapping, Yaml.fields, entries]
      rfl
    have listed : nodeItems root.fields = .ok items := by
      rw [nodeItems, heads.listed]
      cases items with
      | nil => exact absurd rfl heads.filled
      | cons item rest => rfl
    simp only [convertDocument, mapping, heads.name, heads.description, heads.stateVariables, heads.entryPoint, listed,
      Converted.within, bind, Except.bind]
    cases convertNodes 0 [] items <;> rfl

/-- A document has the same heading over other items. -/
theorem Heading.Heads.replaceField (heads : heading.Heads root items) {others : List Yaml} (filled : others ≠ []) :
    heading.Heads (root.replaceField "nodes" (.sequence others)) others := by
  -- The heading is under other names.
  have same {name : String} (other : name ≠ "nodes") :
      Yaml.lookup name (root.replaceField "nodes" (.sequence others)).fields = Yaml.lookup name root.fields := by
    rw [Yaml.fields_replaceField, Yaml.lookup_replace, if_neg other]
  refine ⟨?_, ?_, ?_, ?_, ?_, filled⟩
  · rw [requiredText_congr (same (by decide)), heads.name]
  · rw [optionalText_congr (same (by decide)), heads.description]
  · rw [optionalVariables, same (by decide)]
    exact heads.stateVariables
  · rw [requiredText_congr (same (by decide)), heads.entryPoint]
  · rw [Yaml.fields_replaceField, Yaml.lookup_replace, if_pos rfl, heads.listed]
    rfl

/-- A document is accepted exactly when each item converts to a node and all ids differ. -/
theorem Heading.Heads.convertDocument_ok_iff (heads : heading.Heads root items) {definition : Definition} :
    convertDocument root = .ok definition ↔ ∃ nodes, definition = heading.withNodes nodes ∧
      List.Forall₂ (fun item node => convertNode item = .ok node) items nodes ∧ (nodes.map (·.id)).Nodup := by
  -- Behind a proper heading only the items can fail.
  rw [heads.convertDocument_eq]
  constructor
  · intro accepted
    cases read : convertNodes 0 [] items with
    | ok nodes =>
      rw [read] at accepted
      cases accepted
      exact ⟨nodes, rfl, forall₂_of_convertNodes read, (nodup_of_convertNodes read).1⟩
    | error inner =>
      rw [read] at accepted
      cases accepted
  · rintro ⟨nodes, rfl, read, distinct⟩
    rw [convertNodes_of_forall₂ read distinct fun _ _ => List.not_mem_nil]
    rfl

/-- A document is refused with the fault of the first item that has one. -/
theorem Heading.Heads.convertDocument_error_iff (heads : heading.Heads root items) {error : DocumentError} :
    convertDocument root = .error error ↔ ∃ place, FirstFault items place error := by
  -- Behind a proper heading only the items can fail.
  rw [heads.convertDocument_eq]
  constructor
  · intro refused
    cases read : convertNodes 0 [] items with
    | ok nodes =>
      rw [read] at refused
      cases refused
    | error inner =>
      rw [read] at refused
      cases refused
      obtain ⟨place, _, first, _⟩ := firstFault_of_convertNodes read
      exact ⟨place, first⟩
  · rintro ⟨place, first⟩
    rw [first.convertNodes_eq.1]
    rfl

/-- A document is accepted with only the items before the first that has a fault. -/
theorem Heading.Heads.convertDocument_take (heads : heading.Heads root items) {place : Nat} {error : DocumentError}
    (first : FirstFault items place error) (later : 0 < place) :
    ∃ nodes, convertDocument (root.replaceField "nodes" (.sequence (items.take place))) =
      .ok (heading.withNodes nodes) := by
  have filled : items.take place ≠ [] := by
    rw [Ne, List.take_eq_nil_iff]
    exact not_or.2 ⟨Nat.ne_of_gt later, heads.filled⟩
  obtain ⟨_, nodes, read⟩ := first.convertNodes_eq
  rw [(heads.replaceField filled).convertDocument_eq, read]
  exact ⟨nodes, rfl⟩

end Documents

/-- The path to a fault of an item starts with the place of the item among the nodes. -/
theorem ItemFault.pathText_eq {items : List Yaml} {place : Nat} {error : DocumentError}
    (fault : ItemFault items place error) :
    pathText error.path = "nodes[" ++ toString place ++ "]" ++ pathTail (error.path.drop 2) := by
  have start : "nodes[" = "nodes" ++ "[" := rfl
  cases fault <;> simp only [start, pathText, pathTail, List.drop, String.append_assoc]

/--
A document whose other fields convert is accepted exactly when each item converts to a node and all ids differ.

Otherwise the error is the fault of the first item that has one, and with only the items before, if there are any, the
document is accepted.
-/
theorem convertDocument_firstFault {root : Yaml} {heading : Heading} {items : List Yaml}
    (heads : heading.Heads root items) :
    (∀ definition, convertDocument root = .ok definition ↔ ∃ nodes, definition = heading.withNodes nodes ∧
      List.Forall₂ (fun item node => convertNode item = .ok node) items nodes ∧ (nodes.map (·.id)).Nodup) ∧
    (∀ error, convertDocument root = .error error ↔ ∃ place, FirstFault items place error) ∧
    ∀ place error, FirstFault items place error →
      pathText error.path = "nodes[" ++ toString place ++ "]" ++ pathTail (error.path.drop 2) ∧
      (0 < place → ∃ nodes, convertDocument (root.replaceField "nodes" (.sequence (items.take place))) =
        .ok (heading.withNodes nodes)) := by
  refine ⟨?_, ?_, ?_⟩
  · intro definition
    exact heads.convertDocument_ok_iff
  · intro error
    exact heads.convertDocument_error_iff
  · intro place error first
    have text := first.fault.pathText_eq
    exact ⟨text, heads.convertDocument_take first⟩

/-- The item of a node that leads nowhere. -/
def plainItem (id : String) : Yaml :=
  .mapping [(.text "id", .text id), (.text "type", .text "code"), (.text "code", .text "1")]

/-- Items of which the second repeats the id of the first, and the third is no node. -/
def faultyItems : List Yaml := [plainItem "a", plainItem "a", .null]

/-- A document with these items. -/
def faultyTree : Yaml :=
  .mapping [(.text "nodes", .sequence faultyItems), (.text "name", .text "n"), (.text "entry_point", .text "a")]

/-- The document is refused for the second item, and accepted with the first alone. -/
theorem convertDocument_firstFault_faultyTree :
    Heading.Heads ⟨"n", none, [], "a"⟩ faultyTree faultyItems ∧
      convertDocument faultyTree = .error ⟨[.field "nodes", .item 1, .field "id"], .duplicateId "a"⟩ ∧
      ∃ nodes, convertDocument (faultyTree.replaceField "nodes" (.sequence [plainItem "a"])) =
        .ok (Heading.withNodes ⟨"n", none, [], "a"⟩ nodes) := by
  have heads : Heading.Heads ⟨"n", none, [], "a"⟩ faultyTree faultyItems :=
    ⟨rfl, rfl, rfl, rfl, rfl, List.cons_ne_nil _ _⟩
  have converted : convertNode (plainItem "a") =
    .ok ⟨"a", .code "1", [], [], Dictionary.empty, .abort, .finish⟩ := rfl
  have first : FirstFault faultyItems 1 ⟨[.field "nodes", .item 1, .field "id"], .duplicateId "a"⟩ := by
    have fault := ItemFault.repeated (rfl : faultyItems[1]? = _) converted Nat.one_pos rfl converted rfl
    refine ⟨fault, fun later other earlier => Nat.pos_of_ne_zero fun front => ?_⟩
    -- The item at the front has no fault.
    subst front
    cases earlier with
    | own found failed =>
      cases found
      cases failed
    | repeated _ _ before _ _ _ => cases before
  obtain ⟨_, refused, before⟩ := convertDocument_firstFault heads
  exact ⟨heads, (refused _).2 ⟨1, first⟩, (before 1 _ first).2 Nat.one_pos⟩

end PipelineTrial
