import PipelineTrial.Pipeline.Outputs
import PipelineTrial.Proofs.Pipeline.State

/-! Binding outputs writes declared names only, and a captured failure writes the same text to all of them. -/

namespace PipelineTrial

/-- Moving fields out of a map leaves every variable alone that is not named. -/
theorem get?_moveFields {names : List String} {name : String} (undeclared : name ∉ names)
    (state : State) (fields : Entries Json) :
    (moveFields state fields names).get? name = state.get? name := by
  -- Each step writes or clears its own name only.
  induction names generalizing state fields with
  | nil => rfl
  | cons first rest ih =>
    obtain ⟨different, later⟩ := List.ne_and_not_mem_of_not_mem_cons undeclared
    simp only [moveFields]
    split
    · rw [ih later, State.get?_set, if_neg different]
    · rw [ih later, State.get?_clear, if_neg different]

/-- Binding a result leaves every variable alone that is not an output. -/
theorem get?_bindOutputs {outputs : List String} {name : String} (undeclared : name ∉ outputs)
    (result : Json) (state : State) :
    (bindOutputs outputs result state).get? name = state.get? name := by
  -- The number of outputs and the kind of the result decide what is written.
  match outputs with
  | [] => rfl
  | [single] =>
    rw [bindOutputs, State.get?_set, if_neg (List.ne_of_not_mem_cons undeclared)]
  | first :: second :: rest =>
    obtain ⟨different, later⟩ := List.ne_and_not_mem_of_not_mem_cons undeclared
    simp only [bindOutputs]
    split
    · exact get?_moveFields undeclared state _
    · have cleared := State.get?_clearAll (second :: rest) (state.set first result) name
      rw [if_neg later, State.get?_set, if_neg different] at cleared
      exact cleared

/-- A captured failure writes its text to every output and leaves all other variables alone. -/
theorem get?_bindCapturedError (outputs : List String) (error : NodeError) (state : State)
    (name : String) :
    (bindCapturedError outputs error state).get? name =
      if name ∈ outputs then some (.text error.message) else state.get? name := by
  -- Later outputs rewrite the same text.
  induction outputs generalizing state with
  | nil => simp [bindCapturedError]
  | cons first rest ih =>
    have step : bindCapturedError (first :: rest) error state =
        bindCapturedError rest error (state.set first (.text error.message)) := rfl
    rw [step, ih, State.get?_set]
    by_cases later : name ∈ rest <;> by_cases now : name = first <;> simp [later, now]

/-- A field that is moved out of a map reaches an output named once, and is lost on one that is named again. -/
theorem get?_moveFields_of_mem {names : List String} {name : String} (member : name ∈ names)
    (state : State) (fields : Entries Json) :
    (moveFields state fields names).get? name =
      if 1 < names.count name then none else fields.get? name := by
  -- The field is gone when its name comes up for the second time.
  induction names generalizing state fields with
  | nil => cases member
  | cons first rest ih =>
    simp only [moveFields]
    by_cases now : name = first
    · subst now
      rw [List.count_cons_self]
      by_cases again : name ∈ rest
      · have positive : 0 < rest.count name := List.count_pos_iff.2 again
        rw [if_pos (by omega)]
        split
        · rw [ih again, Entries.get?_erase, if_pos rfl, ite_self]
        · next missing => rw [ih again, missing, ite_self]
      · rw [List.count_eq_zero.2 again, if_neg (by omega)]
        split
        · next found => rw [get?_moveFields again, State.get?_set, if_pos rfl, found]
        · next missing => rw [get?_moveFields again, State.get?_clear, if_pos rfl, missing]
    · have later : name ∈ rest := List.mem_of_ne_of_mem now member
      rw [List.count_cons_of_ne (Ne.symm now)]
      split
      · rw [ih later, Entries.get?_erase, if_neg now]
      · rw [ih later]

/--
What a variable is to hold once a result is shared out among several outputs.

Each output takes its own field of a map, and any other result goes to the first output as a whole.
-/
def shareOf (outputs : List String) (result : Json) (state : State) (name : String) : Option Json :=
  -- Variables that are no outputs keep what they hold.
  if name ∈ outputs then
    match result with
    | .object fields => Entries.get? name fields
    | other => if outputs.head? = some name then some other else none
  else state.get? name

/-- The share of an output in a map is its own field. -/
theorem shareOf_object {outputs : List String} {name : String} (member : name ∈ outputs)
    (fields : Entries Json) (state : State) :
    shareOf outputs (.object fields) state name = fields.get? name := by
  -- The variable is an output and the result a map.
  rw [shareOf, if_pos member]

/-- A result that is no map goes to the first output as a whole, and the others get nothing of it. -/
theorem shareOf_whole {first name : String} {rest : List String} (member : name ∈ first :: rest)
    {result : Json} (whole : ∀ fields, result ≠ .object fields) (state : State) :
    shareOf (first :: rest) result state name = if name = first then some result else none := by
  -- Only the head of the outputs counts.
  unfold shareOf
  rw [if_pos member]
  split
  · next fields => exact absurd rfl (whole fields)
  · simp only [List.head?_cons, Option.some.injEq, eq_comm]

/-- Variables that are no outputs have no share in a result. -/
theorem shareOf_of_not_mem {outputs : List String} {name : String} (undeclared : name ∉ outputs)
    (result : Json) (state : State) : shareOf outputs result state name = state.get? name :=
  -- The variable is no output.
  if_neg undeclared

/-- A result that is no map is stored in the first output, and the other outputs are cleared. -/
theorem get?_bindOutputs_whole {first second name : String} {rest : List String}
    {result : Json} (whole : ∀ fields, result ≠ .object fields) (state : State) :
    (bindOutputs (first :: second :: rest) result state).get? name =
      if name ∈ second :: rest then none else if name = first then some result else state.get? name := by
  -- The outputs behind the first one are cleared after it is written.
  have bound : bindOutputs (first :: second :: rest) result state =
      State.clearAll (second :: rest) (state.set first result) := by
    simp only [bindOutputs, State.clearAll]
  rw [bound, State.get?_clearAll, State.get?_set]

/-- An output among several holds its share of a result if it is named once, and nothing if it is named again. -/
theorem get?_bindOutputs_several {outputs : List String} (several : 2 ≤ outputs.length) (result : Json)
    (state : State) (name : String) :
    (bindOutputs outputs result state).get? name =
      if 1 < outputs.count name then none else shareOf outputs result state name := by
  -- An output takes a field of a map, or is cleared behind the first one.
  by_cases member : name ∈ outputs
  · match outputs with
    | first :: second :: rest =>
      by_cases map : ∃ fields, result = .object fields
      · -- A map loses each field that an output takes.
        obtain ⟨fields, rfl⟩ := map
        rw [shareOf_object member]
        exact get?_moveFields_of_mem member state fields
      · -- Any other result stays in the first output unless a later one of its name clears it.
        have whole : ∀ fields, result ≠ .object fields := fun fields same => map ⟨fields, same⟩
        rw [get?_bindOutputs_whole whole, shareOf_whole member whole]
        by_cases now : name = first
        · subst now
          by_cases again : name ∈ second :: rest
          · have positive : 0 < (second :: rest).count name := List.count_pos_iff.2 again
            rw [if_pos again, List.count_cons_self, if_pos (by omega)]
          · rw [if_neg again, if_pos rfl, List.count_cons_self, List.count_eq_zero.2 again, if_neg (by omega),
              if_pos rfl]
        · have later : name ∈ second :: rest := List.mem_of_ne_of_mem now member
          rw [if_pos later, if_neg now, ite_self]
  · rw [get?_bindOutputs member, List.count_eq_zero.2 member, shareOf_of_not_mem member,
      if_neg (Nat.not_lt_zero 1)]

/--
Several outputs share out a result: each takes its own field of a map, any other result goes to the first output,
and an output without a share is cleared, whatever the state held before.

An output that is named again loses its share, so the result is shared out exactly when all such outputs have none.
-/
theorem bindOutputs_shares {outputs : List String} (several : 2 ≤ outputs.length) (result : Json)
    (state : State) :
    (∀ name, (bindOutputs outputs result state).get? name =
      if 1 < outputs.count name then none else shareOf outputs result state name) ∧
    ((∀ name, (bindOutputs outputs result state).get? name = shareOf outputs result state name) ↔
      ∀ name, 1 < outputs.count name → shareOf outputs result state name = none) ∧
    (outputs.Nodup →
      ∀ name, (bindOutputs outputs result state).get? name = shareOf outputs result state name) := by
  -- The first part settles each variable by itself.
  have bound := get?_bindOutputs_several several result state
  refine ⟨bound, ?sharedOut, fun distinct name => ?distinctOutputs⟩
  case sharedOut =>
    constructor
    · intro shared name repeated
      rw [← shared, bound, if_pos repeated]
    · intro lost name
      rw [bound]
      split
      · next repeated => exact (lost name repeated).symm
      · rfl
  case distinctOutputs =>
    have once := List.nodup_iff_count.1 distinct name
    rw [bound, if_neg (Nat.not_lt.2 once)]

/-- A map without the second output clears what that output held before, and the first output takes its field. -/
theorem bindOutputs_shares_stale :
    let before := State.empty.set "b" (.boolean true)
    let after := bindOutputs ["a", "b"] (.object [("a", .null)]) before
    after.get? "a" = some .null ∧ after.get? "b" = none := by
  have several : 2 ≤ ["a", "b"].length := Nat.le_refl 2
  have bound := (bindOutputs_shares several (.object [("a", .null)])
    (State.empty.set "b" (.boolean true))).2.2 (by decide)
  exact ⟨bound "a", bound "b"⟩

/-- An output that is named twice loses its field of a map, and a result that is no map likewise. -/
theorem bindOutputs_loses_field :
    shareOf ["a", "a"] (.object [("a", .integer 1)]) State.empty "a" = some (.integer 1) ∧
      (bindOutputs ["a", "a"] (.object [("a", .integer 1)]) State.empty).get? "a" = none ∧
    shareOf ["a", "a"] (.integer 1) State.empty "a" = some (.integer 1) ∧
      (bindOutputs ["a", "a"] (.integer 1) State.empty).get? "a" = none :=
  ⟨rfl, rfl, rfl, rfl⟩

end PipelineTrial
