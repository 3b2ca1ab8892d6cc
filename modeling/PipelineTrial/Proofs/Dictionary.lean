import Mathlib.Data.List.Nodup
import PipelineTrial.Dictionary

/-! Looking names up in finite maps: what each operation does to the view, and that the view says all. -/

namespace PipelineTrial

namespace Entries

variable {α : Type}

/-- A stored value is found under its own name, and every other name is left alone. -/
theorem get?_insert (name other : String) (value : α) (entries : Entries α) :
    (entries.insert name value).get? other =
      if other = name then some value else entries.get? other := by
  -- The new entry stands before every entry of the same name.
  induction entries with
  | nil => simp [insert, get?, eq_comm]
  | cons head rest ih =>
    obtain ⟨key, old⟩ := head
    simp only [insert]
    split
    · simp [get?, eq_comm]
    · split
      · next same =>
        subst same
        by_cases found : key = other
        · simp [get?, found]
        · simp [get?, found, Ne.symm found]
      · next different =>
        by_cases found : key = other
        · subst found
          simp [get?, different]
        · simpa [get?, found] using ih

/-- An erased name has no value, and every other name is left alone. -/
theorem get?_erase (name other : String) (entries : Entries α) :
    (entries.erase name).get? other = if other = name then none else entries.get? other := by
  -- Each entry is either dropped by its name or kept.
  induction entries with
  | nil => simp [erase, get?]
  | cons head rest ih =>
    obtain ⟨key, old⟩ := head
    by_cases dropped : key = name
    · subst dropped
      by_cases found : other = key
      · simpa [erase, found] using ih
      · simpa [erase, get?, found, Ne.symm found] using ih
    · by_cases found : key = other
      · subst found
        simp [erase, get?, dropped]
      · simpa [erase, get?, dropped, found] using ih

/-- A name below the first of ascending names has no value. -/
theorem get?_eq_none_of_below {name : String} {entries : Entries α}
    (below : ∀ pair ∈ entries, name < pair.1) : entries.get? name = none := by
  -- No entry can have the name, as no name is below itself.
  induction entries with
  | nil => rfl
  | cons head rest ih =>
    have different : head.1 ≠ name := by
      intro same
      exact String.lt_irrefl name (same ▸ below head List.mem_cons_self)
    simpa [get?, different] using ih fun pair member => below pair (List.mem_cons_of_mem _ member)

/-- Ascending entries are equal when every name has the same value in both. -/
theorem eq_of_get?_eq {left right : Entries α} (leftAscending : left.Ascending)
    (rightAscending : right.Ascending) (same : ∀ name, left.get? name = right.get? name) :
    left = right := by
  -- The least name of either side must be the least of the other, and then the rests agree.
  induction left generalizing right with
  | nil =>
    cases right with
    | nil => rfl
    | cons head rest => simpa [get?] using same head.1
  | cons head rest ih =>
    obtain ⟨key, value⟩ := head
    obtain ⟨above, restAscending⟩ := List.pairwise_cons.1 leftAscending
    cases right with
    | nil => simpa [get?] using same key
    | cons other others =>
      obtain ⟨key', value'⟩ := other
      obtain ⟨above', othersAscending⟩ := List.pairwise_cons.1 rightAscending
      have keys : key = key' := by
        rcases Std.lt_trichotomy key key' with less | equal | more
        · have missing : get? key ((key', value') :: others) = none := get?_eq_none_of_below
            (List.forall_mem_cons.2 ⟨less, fun pair member => String.lt_trans less (above' pair member)⟩)
          simpa [get?, missing] using (same key).trans missing
        · exact equal
        · have missing : get? key' ((key, value) :: rest) = none := get?_eq_none_of_below
            (List.forall_mem_cons.2 ⟨more, fun pair member => String.lt_trans more (above pair member)⟩)
          simpa [get?, missing] using (same key').symm.trans missing
      subst keys
      have values : value = value' := by simpa [get?] using same key
      subst values
      have rests : ∀ name, get? name rest = get? name others := by
        intro name
        by_cases first : key = name
        · subst first
          rw [get?_eq_none_of_below fun pair member => above pair member,
            get?_eq_none_of_below fun pair member => above' pair member]
        · simpa [get?, first] using same name
      rw [ih restAscending othersAscending rests]

/-- Among the entries of listed names, a listed name is looked up as among all, and no other has a value. -/
theorem get?_filter (name : String) (names : List String) (entries : Entries α) :
    get? name (entries.filter fun entry => entry.1 ∈ names) =
      if name ∈ names then entries.get? name else none := by
  -- An entry is kept or dropped by its name alone.
  induction entries with
  | nil => simp [get?]
  | cons head rest ih =>
    obtain ⟨key, value⟩ := head
    by_cases same : key = name
    · subst same
      by_cases listed : key ∈ names
      · simp [get?, listed]
      · simpa [listed] using ih
    · by_cases kept : key ∈ names
      · simpa [get?, kept, same] using ih
      · simpa [get?, kept, same] using ih

/-- Entries built from any list have their names in order. -/
theorem ascending_ofList (pairs : List (String × α)) : (ofList pairs).Ascending := by
  -- Each insertion keeps the order.
  suffices kept : ∀ built : Entries α, built.Ascending →
      (pairs.foldl (fun built pair => insert pair.1 pair.2 built) built).Ascending from
    kept [] List.Pairwise.nil
  induction pairs with
  | nil => exact fun _ ascending => ascending
  | cons pair rest ih => exact fun built ascending => ih _ (ascending_insert ascending)

/-- Ascending names are different names. -/
theorem nodup_keys {entries : Entries α} (ascending : entries.Ascending) : entries.keys.Nodup := by
  refine List.pairwise_map.2 (List.Pairwise.imp ?_ ascending)
  intro left right below same
  exact String.lt_irrefl right.1 (same ▸ below)

/-- The names are those that have a value. -/
theorem mem_keys_iff {name : String} {entries : Entries α} :
    name ∈ entries.keys ↔ entries.contains name = true := by
  -- Looking a name up stops at its first entry.
  induction entries with
  | nil => simp [keys, contains, get?]
  | cons head rest ih =>
    obtain ⟨key, value⟩ := head
    simp only [keys, contains, get?, List.map_cons, List.mem_cons] at ih ⊢
    by_cases same : key = name
    · simp [same]
    · simpa [same, Ne.symm same] using ih

end Entries

namespace Dictionary

variable {α : Type}

/-- Maps are equal when every name has the same value in both. -/
theorem ext_get? {left right : Dictionary α}
    (same : ∀ name, left.get? name = right.get? name) : left = right := by
  -- The proofs of order carry no data.
  obtain ⟨entries, ascending⟩ := left
  obtain ⟨others, othersAscending⟩ := right
  have entriesEqual : entries = others := Entries.eq_of_get?_eq ascending othersAscending same
  subst entriesEqual
  rfl

/-- The map without entries has no values. -/
@[simp] theorem get?_empty (name : String) : (empty : Dictionary α).get? name = none := rfl

/-- A stored value is found under its own name, and every other name is left alone. -/
theorem get?_insert (dictionary : Dictionary α) (name other : String) (value : α) :
    (dictionary.insert name value).get? other =
      if other = name then some value else dictionary.get? other :=
  -- The entries carry the view.
  Entries.get?_insert name other value dictionary.entries

/-- An erased name has no value, and every other name is left alone. -/
theorem get?_erase (dictionary : Dictionary α) (name other : String) :
    (dictionary.erase name).get? other = if other = name then none else dictionary.get? other :=
  -- The entries carry the view.
  Entries.get?_erase name other dictionary.entries

/-- Values stored under two names may be stored in either order. -/
theorem insert_comm (dictionary : Dictionary α) {name other : String}
    (different : name ≠ other) (value new : α) :
    (dictionary.insert name value).insert other new = (dictionary.insert other new).insert name value := by
  -- Either way both names have their values.
  refine ext_get? fun wanted => ?_
  simp only [get?_insert]
  by_cases first : wanted = name
  · subst first
    simp [different]
  · simp [first]

/-- Values of ascending names are stored one after the other, and each is found under its name. -/
private theorem get?_foldl_insert {pairs : Entries α} (ascending : pairs.Ascending)
    (built : Dictionary α) (name : String) :
    (pairs.foldl (fun built pair => built.insert pair.1 pair.2) built).get? name =
      (pairs.get? name).or (built.get? name) := by
  -- A name does not come back once it is stored.
  induction pairs generalizing built with
  | nil => rfl
  | cons pair rest ih =>
    obtain ⟨above, restAscending⟩ := List.pairwise_cons.1 ascending
    rw [List.foldl_cons, ih restAscending, get?_insert]
    by_cases same : name = pair.1
    · subst same
      simp [Entries.get?, Entries.get?_eq_none_of_below above]
    · simp [Entries.get?, same, Ne.symm same]

/-- The entries of two maps together, where those of the first win. -/
def laidOver (upper lower : Dictionary α) : Dictionary α :=
  -- They are stored last.
  upper.entries.foldl (fun built entry => built.insert entry.1 entry.2) lower

/-- A name is looked up in the first of two maps before the second. -/
theorem get?_laidOver (upper lower : Dictionary α) (name : String) :
    (upper.laidOver lower).get? name = (upper.get? name).or (lower.get? name) :=
  -- The names of a map ascend, so each is stored once.
  get?_foldl_insert upper.ascending lower name

/-- The map without the names that are not listed. -/
def restrict (dictionary : Dictionary α) (names : List String) : Dictionary α :=
  -- A part of an ascending list ascends.
  ⟨dictionary.entries.filter fun entry => entry.1 ∈ names, List.Pairwise.filter _ dictionary.ascending⟩

/-- A listed name keeps its value, and no other has one. -/
theorem get?_restrict (dictionary : Dictionary α) (names : List String) (name : String) :
    (dictionary.restrict names).get? name = if name ∈ names then dictionary.get? name else none :=
  -- The entries carry the view.
  Entries.get?_filter name names dictionary.entries

/-- A map is built again from its entries. -/
@[simp] theorem ofList_entries (dictionary : Dictionary α) :
    ofList dictionary.entries = dictionary := by
  -- Both give each name the same value.
  refine ext_get? fun name => ?_
  rw [ofList, get?_foldl_insert dictionary.ascending, get?_empty, Option.or_none]
  rfl

/-- The entries of a map may be stored in any order. -/
theorem ofList_of_perm {pairs : List (String × α)} {dictionary : Dictionary α}
    (perm : pairs.Perm dictionary.entries) : Entries.ofList pairs = dictionary.entries := by
  -- Different entries have different names, so storing one does not disturb another.
  have distinct := Entries.nodup_keys dictionary.ascending
  have stored : (ofList pairs).entries = Entries.ofList pairs :=
    (List.foldl_hom entries fun _ _ => rfl).symm
  have reordered : ofList pairs = ofList dictionary.entries := by
    refine perm.foldl_eq' (fun left leftMember right rightMember built => ?_) empty
    by_cases same : left.1 = right.1
    · rw [List.inj_on_of_nodup_map distinct (perm.subset leftMember) (perm.subset rightMember) same]
    · exact insert_comm built same left.2 right.2
  rw [← stored, reordered, ofList_entries]

/-- The names are those that have a value. -/
theorem mem_keys_iff {dictionary : Dictionary α} {name : String} :
    name ∈ dictionary.keys ↔ dictionary.contains name = true :=
  -- The entries carry the view.
  Entries.mem_keys_iff

end Dictionary

end PipelineTrial
