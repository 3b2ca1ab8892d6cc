/-! Finite maps from names to values, kept in ascending order of name. -/

namespace PipelineTrial

/-- A list of named values, in which a name is looked up by its first occurrence. -/
abbrev Entries (α : Type) := List (String × α)

namespace Entries

/-- The value stored under a name. -/
def get? {α : Type} (name : String) : Entries α → Option α
  | [] => none
  | (key, value) :: rest => if key = name then some value else get? name rest

/-- Whether a name has a value. -/
def contains {α : Type} (name : String) (entries : Entries α) : Bool :=
  -- A name is present when looking it up succeeds.
  (get? name entries).isSome

/-- The entries with a value stored under a name, in its place by the order of names. -/
def insert {α : Type} (name : String) (value : α) : Entries α → Entries α
  | [] => [(name, value)]
  | (key, old) :: rest =>
    -- The new entry goes before the first larger name and replaces an equal one.
    if name < key then (name, value) :: (key, old) :: rest
    else if key = name then (name, value) :: rest
    else (key, old) :: insert name value rest

/-- The entries without a name. -/
def erase {α : Type} (name : String) : Entries α → Entries α
  | [] => []
  | (key, value) :: rest => if key = name then erase name rest else (key, value) :: erase name rest

/-- Entries in ascending order, the last value of a repeated name winning. -/
def ofList {α : Type} (pairs : List (String × α)) : Entries α :=
  -- Pairs are inserted from left to right.
  pairs.foldl (fun built pair => insert pair.1 pair.2 built) []

/-- The names, in order. -/
def keys {α : Type} (entries : Entries α) : List String :=
  -- Values are dropped.
  entries.map (·.1)

/-- Names strictly ascend, so none occurs twice. -/
def Ascending {α : Type} (entries : Entries α) : Prop :=
  -- Every earlier name is below every later one.
  entries.Pairwise fun left right => left.1 < right.1

/-- An entry after an insertion is the new one or an old one. -/
theorem mem_insert {α : Type} {name : String} {value : α} {entries : Entries α}
    {pair : String × α} (member : pair ∈ insert name value entries) :
    pair = (name, value) ∨ pair ∈ entries := by
  -- Insertion adds one entry and may drop one.
  induction entries with
  | nil => simpa [insert] using member
  | cons head rest ih =>
    obtain ⟨key, old⟩ := head
    simp only [insert] at member
    split at member
    · simpa using member
    · split at member
      · rcases List.mem_cons.1 member with same | inRest
        · exact .inl same
        · exact .inr (List.mem_cons_of_mem _ inRest)
      · rcases List.mem_cons.1 member with same | inRest
        · exact .inr (by simp [same])
        · rcases ih inRest with same | old
          · exact .inl same
          · exact .inr (List.mem_cons_of_mem _ old)

/-- An entry after erasing was there before. -/
theorem mem_of_mem_erase {α : Type} {name : String} {entries : Entries α}
    {pair : String × α} (member : pair ∈ erase name entries) : pair ∈ entries := by
  -- Erasing only drops entries.
  induction entries with
  | nil => simp [erase] at member
  | cons head rest ih =>
    obtain ⟨key, value⟩ := head
    simp only [erase] at member
    split at member
    · exact List.mem_cons_of_mem _ (ih member)
    · rcases List.mem_cons.1 member with same | inRest
      · simp [same]
      · exact List.mem_cons_of_mem _ (ih inRest)

/-- Insertion keeps names ascending. -/
theorem ascending_insert {α : Type} {name : String} {value : α} {entries : Entries α}
    (ascending : Ascending entries) : Ascending (insert name value entries) := by
  -- The new name stands after all smaller and before all larger names.
  induction entries with
  | nil => simp [insert, Ascending]
  | cons head rest ih =>
    obtain ⟨key, old⟩ := head
    unfold Ascending at ascending ih ⊢
    rw [List.pairwise_cons] at ascending
    simp only [insert]
    split
    · next below =>
      refine List.pairwise_cons.2 ⟨fun pair member => ?_, List.pairwise_cons.2 ascending⟩
      rcases List.mem_cons.1 member with same | inRest
      · simpa [same] using below
      · exact String.lt_trans below (ascending.1 pair inRest)
    · next notBelow =>
      split
      · next same =>
        subst same
        exact List.pairwise_cons.2 ⟨fun pair member => ascending.1 pair member, ascending.2⟩
      · next different =>
        have above : key < name := by
          rcases Std.lt_trichotomy key name with less | same | more
          · exact less
          · exact absurd same different
          · exact absurd more notBelow
        refine List.pairwise_cons.2 ⟨fun pair member => ?_, ih ascending.2⟩
        rcases mem_insert member with same | inRest
        · simpa [same] using above
        · exact ascending.1 pair inRest

/-- Erasing keeps names ascending. -/
theorem ascending_erase {α : Type} {name : String} {entries : Entries α}
    (ascending : Ascending entries) : Ascending (erase name entries) := by
  -- A part of an ascending list ascends.
  induction entries with
  | nil => simp [erase, Ascending]
  | cons head rest ih =>
    obtain ⟨key, value⟩ := head
    unfold Ascending at ascending ih ⊢
    rw [List.pairwise_cons] at ascending
    simp only [erase]
    split
    · exact ih ascending.2
    · exact List.pairwise_cons.2
        ⟨fun pair member => ascending.1 pair (mem_of_mem_erase member), ih ascending.2⟩

end Entries

/-- A finite map from names to values, in ascending order of name. -/
structure Dictionary (α : Type) where
  entries : Entries α
  ascending : entries.Ascending
  deriving DecidableEq

namespace Dictionary

variable {α β : Type}

/-- The map without entries. -/
def empty : Dictionary α :=
  -- No names are trivially ascending.
  ⟨[], List.Pairwise.nil⟩

instance : Inhabited (Dictionary α) := ⟨empty⟩

/-- The value stored under a name. -/
def get? (dictionary : Dictionary α) (name : String) : Option α :=
  -- Names are unique, so the first occurrence is the only one.
  dictionary.entries.get? name

/-- Whether a name has a value. -/
def contains (dictionary : Dictionary α) (name : String) : Bool :=
  -- A name is present when looking it up succeeds.
  (dictionary.get? name).isSome

/-- The map with a value stored under a name, in place of an earlier one. -/
def insert (dictionary : Dictionary α) (name : String) (value : α) : Dictionary α :=
  -- Insertion keeps the order of names.
  ⟨dictionary.entries.insert name value, Entries.ascending_insert dictionary.ascending⟩

/-- The map without a name. -/
def erase (dictionary : Dictionary α) (name : String) : Dictionary α :=
  -- Erasing keeps the order of names.
  ⟨dictionary.entries.erase name, Entries.ascending_erase dictionary.ascending⟩

/-- The map of a list of pairs, the last value of a repeated name winning. -/
def ofList (pairs : List (String × α)) : Dictionary α :=
  -- Pairs are inserted from left to right.
  pairs.foldl (fun built pair => built.insert pair.1 pair.2) empty

/-- The names, in ascending order. -/
def keys (dictionary : Dictionary α) : List String :=
  -- Values are dropped.
  dictionary.entries.map (·.1)

/-- The number of names. -/
def size (dictionary : Dictionary α) : Nat :=
  -- Each entry has a name of its own.
  dictionary.entries.length

/-- Whether no name has a value. -/
def isEmpty (dictionary : Dictionary α) : Bool :=
  -- An empty map has no entries.
  dictionary.entries.isEmpty

end Dictionary

end PipelineTrial
