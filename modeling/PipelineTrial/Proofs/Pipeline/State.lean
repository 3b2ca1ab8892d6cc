import PipelineTrial.Pipeline.State
import PipelineTrial.Proofs.Dictionary

/-! Reading variables after each operation on a state, and writing or clearing many of them at once. -/

namespace PipelineTrial.State

/-- States are equal when every variable reads the same in both. -/
theorem ext_get? {left right : State} (same : ∀ name, left.get? name = right.get? name) :
    left = right := by
  -- A state is its map of values.
  obtain ⟨values⟩ := left
  obtain ⟨others⟩ := right
  exact congrArg State.mk (Dictionary.ext_get? same)

/-- No variable of the empty state has a value. -/
@[simp] theorem get?_empty (name : String) : empty.get? name = none := rfl

/-- A stored value is read from its own variable, and every other variable is left alone. -/
theorem get?_set (state : State) (name other : String) (value : Json) :
    (state.set name value).get? other = if other = name then some value else state.get? other :=
  -- The values carry the view.
  Dictionary.get?_insert state.values name other value

/-- A cleared variable has no value, and every other variable is left alone. -/
theorem get?_clear (state : State) (name other : String) :
    (state.clear name).get? other = if other = name then none else state.get? other :=
  -- The values carry the view.
  Dictionary.get?_erase state.values name other

/-- The state with variables left without values. -/
def clearAll (names : List String) (state : State) : State :=
  -- Names are cleared from left to right.
  names.foldl (fun state name => state.clear name) state

/-- The state with the values of a map stored in its variables. -/
def setAll (values : Dictionary Json) (state : State) : State :=
  -- Each name occurs once, so the order does not matter.
  values.entries.foldl (fun state pair => state.set pair.1 pair.2) state

/-- Exactly the cleared variables lose their values. -/
theorem get?_clearAll (names : List String) (state : State) (name : String) :
    (clearAll names state).get? name = if name ∈ names then none else state.get? name := by
  -- Later clearings keep what an earlier one cleared.
  induction names generalizing state with
  | nil => simp [clearAll]
  | cons first rest ih =>
    have step : (clearAll (first :: rest) state) = clearAll rest (state.clear first) := rfl
    rw [step, ih, get?_clear]
    by_cases later : name ∈ rest <;> by_cases now : name = first <;> simp [later, now]

private theorem get?_setEntries {entries : Entries Json} (ascending : entries.Ascending)
    (state : State) (name : String) :
    (entries.foldl (fun state pair => state.set pair.1 pair.2) state).get? name =
      (entries.get? name).or (state.get? name) := by
  -- A name at the head cannot occur behind it, so the later entries leave its value alone.
  induction entries generalizing state with
  | nil => simp [Entries.get?]
  | cons head rest ih =>
    obtain ⟨key, value⟩ := head
    obtain ⟨above, restAscending⟩ := List.pairwise_cons.1 ascending
    rw [List.foldl_cons, ih restAscending, get?_set]
    by_cases first : key = name
    · subst first
      simp [Entries.get?, Entries.get?_eq_none_of_below above]
    · simp [Entries.get?, first, Ne.symm first]

/-- The variables of a stored map have its values, and all others keep theirs. -/
theorem get?_setAll (values : Dictionary Json) (state : State) (name : String) :
    (setAll values state).get? name = (values.get? name).or (state.get? name) :=
  -- The entries of a map ascend.
  get?_setEntries values.ascending state name

private theorem get?_seeded {declarations : List StateVariable} {state : State} {name : String} {value : Json}
    (found : (declarations.foldl
      (fun state declared =>
        match declared.initial with
        | some value => state.set declared.name value
        | none => state) state).get? name = some value) :
    (∃ declared ∈ declarations, declared.name = name ∧ declared.initial = some value) ∨
      state.get? name = some value := by
  -- Each declaration sets its own variable, if it sets one.
  induction declarations generalizing state with
  | nil => exact .inr found
  | cons first rest ih =>
    rcases ih found with ⟨declared, member, facts⟩ | earlier
    · exact .inl ⟨declared, List.mem_cons_of_mem _ member, facts⟩
    · simp only at earlier
      split at earlier
      · next initial given =>
        rw [get?_set] at earlier
        split at earlier
        · next same =>
          cases earlier
          exact .inl ⟨first, List.mem_cons_self, same.symm, given⟩
        · exact .inr earlier
      · exact .inr earlier

/-- A variable that has a first value has it from a declaration of its name. -/
theorem declared_of_get?_initial {declarations : List StateVariable} {name : String} {value : Json}
    (found : (initial declarations).get? name = some value) :
    ∃ declared ∈ declarations, declared.name = name ∧ declared.initial = some value := by
  -- No variable has a value before the first declaration.
  rcases get?_seeded found with declared | before
  · exact declared
  · cases before

end PipelineTrial.State
