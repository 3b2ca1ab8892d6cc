import PipelineTrial.Pipeline.Definition

/-! The state that the nodes of a run share: a map from variable names to values. -/

namespace PipelineTrial

/-- The values of state variables. -/
structure State where
  values : Dictionary Json
  deriving DecidableEq

namespace State

/-- The state without values. -/
def empty : State := ⟨Dictionary.empty⟩

instance : Inhabited State := ⟨empty⟩

/-- The value of a variable. -/
def get? (state : State) (name : String) : Option Json := state.values.get? name

/-- Whether a variable has a value. -/
def contains (state : State) (name : String) : Bool := state.values.contains name

/-- The state with a value stored in a variable. -/
def set (state : State) (name : String) (value : Json) : State := ⟨state.values.insert name value⟩

/-- The state with a variable left without a value. -/
def clear (state : State) (name : String) : State := ⟨state.values.erase name⟩

/-- The number of variables with a value. -/
def size (state : State) : Nat := state.values.size

/-- Whether no variable has a value. -/
def isEmpty (state : State) : Bool := state.values.isEmpty

/-- The values as a JSON object. -/
def toJson (state : State) : Json := .ofDictionary state.values

/-- The initial values of declared variables, the last of a repeated name winning. -/
def initial (declarations : List StateVariable) : State :=
  -- Variables without an initial value stay absent.
  declarations.foldl
    (fun state declared =>
      match declared.initial with
      | some value => state.set declared.name value
      | none => state)
    empty

end State

end PipelineTrial
