import PipelineTrial.Pipeline.Loading
import PipelineTrial.Proofs.Pipeline.Places

/-! In the tree of a document the keys of every mapping differ. -/

namespace PipelineTrial

namespace Yaml

/-- No key of an entry is equal to that of an entry before it. -/
def DifferByKey (entries : List (Yaml × Yaml)) : Prop :=
  -- The values make no difference.
  (entries.map (·.1)).Pairwise fun earlier later => sameKey later earlier = false

/-- At each place in a value the keys of the entries differ. -/
def KeysDiffer (value : Yaml) : Prop := ∀ place part, value.at? place = some part → DifferByKey part.fields

/-- Keys differ in a value when those of its entries do, and all in its parts. -/
theorem keysDiffer_of_parts {value : Yaml} (differ : DifferByKey value.fields)
    (items : ∀ item ∈ value.items, item.KeysDiffer) (entries : ∀ entry ∈ value.fields, entry.2.KeysDiffer) :
    value.KeysDiffer := by
  -- A place is the value itself or leads through one of its parts.
  intro place part reached
  cases place with
  | nil =>
    cases reached
    exact differ
  | cons step rest =>
    obtain ⟨inner, stepped, onward⟩ := Option.bind_eq_some_iff.1 reached
    cases step with
    -- A step to an item, which is one of the items.
    | item index => exact items inner (List.mem_of_getElem? stepped) rest part onward
    -- A step to an entry leads to its value, when the key is that of the entry.
    | entry index key =>
      obtain ⟨entry, there, named⟩ := Option.bind_eq_some_iff.1 stepped
      split at named
      · cases named
        exact entries entry (List.mem_of_getElem? there) rest part onward
      · cases named

/-- A value without parts, such as a scalar. -/
structure IsPlain (value : Yaml) : Prop where
  items : value.items = []
  fields : value.fields = []

/-- Keys differ where there are none. -/
theorem IsPlain.keysDiffer {value : Yaml} (plain : value.IsPlain) : value.KeysDiffer := by
  -- There is no entry and no part.
  refine keysDiffer_of_parts ?_ ?_ ?_
  · rw [plain.fields]
    exact .nil
  · simp [plain.items]
  · simp [plain.fields]

/-- A whole number has no parts. -/
theorem isPlain_of_integerValue {number : Int} {value : Yaml} (read : integerValue number = .ok value) :
    value.IsPlain := by
  -- A number outside the range is a fault.
  unfold integerValue at read
  split at read
  · cases read
    exact ⟨rfl, rfl⟩
  · cases read

/-- A scalar without a tag has no parts. -/
theorem isPlain_of_plainValue {content : String} {value : Yaml} (read : plainValue content = .ok value) :
    value.IsPlain := by
  -- It is null, a boolean, a number or a text.
  unfold plainValue at read
  split at read
  · -- Nothing, or a word for null.
    cases read
    exact ⟨rfl, rfl⟩
  split at read
  · -- A word for a boolean.
    cases read
    exact ⟨rfl, rfl⟩
  split at read
  · -- A whole number.
    exact isPlain_of_integerValue read
  split at read
  · -- Digits behind a leading zero are a text.
    cases read
    exact ⟨rfl, rfl⟩
  -- Any other number, or a text.
  split at read <;> cases read <;> exact ⟨rfl, rfl⟩

/-- What is read with a default that is a fault is there. -/
theorem some_of_getD {found : Option (Reading Yaml)} {fault : ReadFault} {value : Yaml}
    (read : found.getD (.error fault) = .ok value) : found = some (.ok value) := by
  -- The default would have been a fault.
  cases found with
  | none => cases read
  | some reading => exact congrArg some read

/-- A scalar with the tag of a type has no parts. -/
theorem isPlain_of_typedValue {tag content : String} {value : Yaml} (read : typedValue tag content = .ok value) :
    value.IsPlain := by
  -- A text that is no value of the type is a fault.
  unfold typedValue at read
  split at read
  · -- A boolean.
    obtain ⟨_, _, same⟩ := Option.map_eq_some_iff.1 (some_of_getD read)
    cases same
    exact ⟨rfl, rfl⟩
  split at read
  · -- A whole number.
    obtain ⟨_, _, same⟩ := Option.map_eq_some_iff.1 (some_of_getD read)
    exact isPlain_of_integerValue same
  split at read
  · -- Any other number.
    obtain ⟨_, _, same⟩ := Option.map_eq_some_iff.1 (some_of_getD read)
    cases same
    exact ⟨rfl, rfl⟩
  split at read
  · -- Null.
    have same := some_of_getD read
    split at same <;> cases same
    exact ⟨rfl, rfl⟩
  · -- The tag means nothing here, and the scalar is a text.
    cases read
    exact ⟨rfl, rfl⟩

namespace EventTable

/-- A scalar has no parts. -/
theorem isPlain_of_scalarValue {tag : Option String} {content : String} {isPlain : Bool} {value : Yaml}
    (read : scalarValue tag content isPlain = .ok value) : value.IsPlain := by
  -- Only a plain scalar that no tag gives a type is looked at closely.
  unfold scalarValue at read
  split at read
  · -- There is a tag, which is local or names a type.
    split at read
    · split at read
      · exact isPlain_of_plainValue read
      · cases read
        exact ⟨rfl, rfl⟩
    · exact isPlain_of_typedValue read
  · -- There is no tag.
    split at read
    · exact isPlain_of_plainValue read
    · cases read
      exact ⟨rfl, rfl⟩

/-- A tag does not change the keys in a value. -/
theorem keysDiffer_withTag {event : Event} {value : Yaml} (differ : value.KeysDiffer) :
    (withTag event value).KeysDiffer := by
  -- The parts of a tagged value are those of the value.
  unfold withTag
  split
  · intro place part reached
    cases place with
    -- The tagged value has the entries of the value.
    | nil =>
      cases reached
      exact differ [] value rfl
    | cons step rest => exact differ (step :: rest) part (by cases step <;> exact reached)
  · exact differ

/-- What is composed within a bound on the work: keys differ in a value, in all items, and in the entries of a mapping. -/
structure ComposesKeys (table : EventTable) (fuel : Nat) : Prop where
  value : ∀ {depth place followed composed}, table.compose depth fuel place followed = .ok composed →
    composed.value.KeysDiffer
  items : ∀ {depth place followed composed}, table.composeItems depth fuel place followed = .ok composed →
    ∀ item ∈ composed.value, item.KeysDiffer
  entries : ∀ {depth seen place followed composed},
    table.composeEntries depth fuel seen place followed = .ok composed →
      DifferByKey composed.value ∧ (∀ entry ∈ composed.value, entry.2.KeysDiffer) ∧
        ∀ entry ∈ composed.value, ∀ key ∈ seen, sameKey entry.1 key = false

section Steps

variable {table : EventTable} {fuel depth place followed : Nat} {seen : List Yaml}

/-- Keys differ in a value when they do in what is composed with less work. -/
theorem ComposesKeys.compose (less : table.ComposesKeys fuel) {composed : Composed Yaml}
    (succeeded : table.compose depth (fuel + 1) place followed = .ok composed) : composed.value.KeysDiffer := by
  -- The event at the place tells what is composed.
  unfold EventTable.compose at succeeded
  split at succeeded
  · -- Behind all events there is nothing but null.
    cases succeeded
    exact IsPlain.keysDiffer ⟨rfl, rfl⟩
  · -- An alias is what its anchor stands for, which is composed again.
    split at succeeded
    · cases succeeded
    split at succeeded
    · cases succeeded
    · obtain ⟨node, found, given⟩ := of_bind_ok succeeded
      cases given
      have differ := less.value found
      exact differ
  · -- A scalar has no parts.
    obtain ⟨value, read, given⟩ := of_bind_ok succeeded
    cases given
    exact keysDiffer_withTag (isPlain_of_scalarValue read).keysDiffer
  · -- A list has no entries, and keys differ in its items.
    split at succeeded
    · cases succeeded
    · obtain ⟨items, found, given⟩ := of_bind_ok succeeded
      cases given
      have differ := less.items found
      exact keysDiffer_withTag (keysDiffer_of_parts .nil differ fun _ none => absurd none List.not_mem_nil)
  · -- A mapping has no items, and keys differ in its entries and among them.
    split at succeeded
    · cases succeeded
    · obtain ⟨entries, found, given⟩ := of_bind_ok succeeded
      cases given
      obtain ⟨differ, values, _⟩ := less.entries found
      exact keysDiffer_withTag (keysDiffer_of_parts differ (fun _ none => absurd none List.not_mem_nil) values)
  · -- No other event begins a value.
    cases succeeded

/-- Keys differ in all items when they do in what is composed with less work. -/
theorem ComposesKeys.composeItems (less : table.ComposesKeys fuel) {composed : Composed (List Yaml)}
    (succeeded : table.composeItems depth (fuel + 1) place followed = .ok composed) :
    ∀ item ∈ composed.value, item.KeysDiffer := by
  -- Each item is a value of its own.
  unfold EventTable.composeItems at succeeded
  split at succeeded
  · -- The list ends.
    cases succeeded
    exact fun _ none => absurd none List.not_mem_nil
  · -- An item, and the items behind it.
    obtain ⟨item, read, given⟩ := of_bind_ok succeeded
    obtain ⟨rest, following, given⟩ := of_bind_ok given
    cases given
    exact List.forall_mem_cons.2 ⟨less.value read, less.items following⟩

/-- Keys differ in the entries of a mapping, and from those before, when they do in what is composed with less work. -/
theorem ComposesKeys.composeEntries (less : table.ComposesKeys fuel) {composed : Composed (List (Yaml × Yaml))}
    (succeeded : table.composeEntries depth (fuel + 1) seen place followed = .ok composed) :
    DifferByKey composed.value ∧ (∀ entry ∈ composed.value, entry.2.KeysDiffer) ∧
      ∀ entry ∈ composed.value, ∀ key ∈ seen, sameKey entry.1 key = false := by
  -- The key of each entry is seen by those after it.
  unfold EventTable.composeEntries at succeeded
  split at succeeded
  · -- The mapping ends.
    cases succeeded
    exact ⟨.nil, fun _ none => absurd none List.not_mem_nil, fun _ none => absurd none List.not_mem_nil⟩
  · -- An entry, whose key must not have been seen before, and the entries behind it.
    obtain ⟨key, readKey, given⟩ := of_bind_ok succeeded
    split at given
    · cases given
    · next fresh =>
      obtain ⟨value, read, given⟩ := of_bind_ok given
      obtain ⟨rest, following, given⟩ := of_bind_ok given
      cases given
      obtain ⟨differ, values, apart⟩ := less.entries following
      refine ⟨List.pairwise_cons.2 ⟨?_, differ⟩, List.forall_mem_cons.2 ⟨less.value read, values⟩,
        List.forall_mem_cons.2 ⟨?_, ?_⟩⟩
      · -- The keys behind the first differ from it, as they have seen it.
        intro later member
        obtain ⟨entry, memberEntry, rfl⟩ := List.mem_map.1 member
        exact apart entry memberEntry key.value List.mem_cons_self
      · -- The first key has been checked against those before it.
        intro earlier member
        exact eq_false_of_ne_true fun same => fresh (List.any_eq_true.2 ⟨earlier, member, same⟩)
      · -- The keys behind the first have seen all that it has seen.
        intro later member earlier memberEarlier
        exact apart later member earlier (List.mem_cons_of_mem _ memberEarlier)

end Steps

/-- Keys differ in whatever is composed. -/
theorem composesKeys (table : EventTable) (fuel : Nat) : table.ComposesKeys fuel := by
  -- Each part of a value is composed with less work.
  induction fuel with
  | zero =>
    -- Without work nothing is composed.
    refine ⟨?_, ?_, ?_⟩
    · intro depth place followed composed succeeded
      unfold EventTable.compose at succeeded
      cases succeeded
    · intro depth place followed composed succeeded
      unfold EventTable.composeItems at succeeded
      cases succeeded
    · intro depth seen place followed composed succeeded
      unfold EventTable.composeEntries at succeeded
      cases succeeded
  -- With more work each of the three takes one step.
  | succ fuel ih => exact ⟨ih.compose, ih.composeItems, ih.composeEntries⟩

end EventTable

/-- Keys differ in the tree of a document text. -/
theorem keysDiffer_of_parse {text : String} {tree : Yaml} (read : parse text = .ok tree) : tree.KeysDiffer := by
  -- The tree is composed from the events of the text.
  obtain ⟨found, _, given⟩ := of_bind_ok read
  obtain ⟨table, _, given⟩ := of_bind_ok given
  obtain ⟨composed, root, given⟩ := of_bind_ok given
  cases given
  exact (table.composesKeys _).value root

/-- Entries keep their keys when the references in them are resolved. -/
theorem keys_of_substituteEntries {environment : Environment} {inList : Bool} {entries resolved : List (Yaml × Yaml)}
    (succeeded : substituteEntries environment inList entries = .ok resolved) :
    resolved.map (·.1) = entries.map (·.1) := by
  -- The entries belong together one by one.
  have pairs := forall₂_of_substituteEntries succeeded
  clear succeeded
  induction pairs with
  | nil => rfl
  | cons first _ ih => rw [List.map_cons, List.map_cons, first.1, ih]

/-- Keys still differ when the references in a value are resolved, as keys stay as they are. -/
theorem KeysDiffer.substitute {environment : Environment} {inList : Bool} {value resolved : Yaml}
    (differ : value.KeysDiffer) (succeeded : substitute environment inList value = .ok resolved) :
    resolved.KeysDiffer := by
  -- What stands at a place was resolved from what stood there.
  intro place other reached
  obtain ⟨part, found, facts⟩ := exists_of_rel (reached ▸ at?_of_substitute succeeded place)
  have before := differ place part found
  split at facts
  · -- Behind the key of code nothing is resolved.
    subst facts
    exact before
  · -- Anywhere else the keys are those of before.
    obtain ⟨inside, inner⟩ := facts
    rw [DifferByKey, keys_of_substituteEntries (fields_of_substitute inner)]
    exact before

/-- A tree that is converted when a document is parsed, or loaded in an environment. -/
inductive IsRead (tree : Yaml) : Prop where
  | parsed (document : String) : readDocument document = .ok tree → IsRead tree
  | loaded (document : String) (environment : Environment) (written : Yaml) :
      readDocument document = .ok written → PipelineTrial.substitute environment false written = .ok tree → IsRead tree

/-- Keys differ in the tree of a document that can be read. -/
theorem keysDiffer_of_readDocument {document : String} {tree : Yaml} (read : readDocument document = .ok tree) :
    tree.KeysDiffer := by
  -- Only a text that is parsed has a tree.
  unfold readDocument at read
  split at read
  · next found =>
    cases read
    exact keysDiffer_of_parse found
  · cases read

/-- Keys differ in every tree that is converted. -/
theorem IsRead.keysDiffer {tree : Yaml} (read : tree.IsRead) : tree.KeysDiffer := by
  -- References may be resolved before the tree is converted.
  cases read with
  | parsed document found => exact keysDiffer_of_readDocument found
  | loaded document environment written found resolved =>
    exact (keysDiffer_of_readDocument found).substitute resolved

/-- Keys that are texts without tags are all different. -/
theorem DifferByKey.nodup {entries : List (Yaml × Yaml)} (differ : DifferByKey entries)
    (texts : ∀ entry ∈ entries, ∃ name, entry.1 = .text name) : (entries.map (·.1)).Nodup := by
  -- Texts that differ as keys differ.
  refine List.Pairwise.imp_of_mem ?_ differ
  intro earlier later member _ apart same
  obtain ⟨entry, memberEntry, rfl⟩ := List.mem_map.1 member
  obtain ⟨name, text⟩ := texts entry memberEntry
  rw [← same, text] at apart
  simp [sameKey] at apart

end Yaml

end PipelineTrial
