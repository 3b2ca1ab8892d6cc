import PipelineTrial.Dictionary

/-! TOML values, and the values of settings that stand in a table by name or in a list by place. -/

namespace PipelineTrial

/-- A TOML value. -/
inductive Toml where
  | text (value : String)
  | integer (value : Int)
  | float (value : Float)
  | boolean (value : Bool)
  /-- A date, a time or both, as written. -/
  | moment (written : String)
  | list (items : List Toml)
  | table (entries : List (String × Toml))
  deriving Inhabited

namespace Toml

/-- Gives the value of a setting by its name and its place. -/
abbrev Settings := String → Nat → Option Toml

/-- The settings that a value holds; a moment holds none. -/
def settings? : Toml → Option Settings
  | .table entries => some fun name _ => Entries.get? name entries
  | .list items => some fun _ place => items[place]?
  | .moment _ => some fun _ _ => none
  | _ => none

/-- The text of a text value. -/
def text? : Toml → Option String
  | .text value => some value
  | _ => none

/-- The truth value of a truth value. -/
def boolean? : Toml → Option Bool
  | .boolean value => some value
  | _ => none

/-- The number of a whole number that is not negative. -/
def natural? : Toml → Option Nat
  | .integer value => if 0 ≤ value then some value.toNat else none
  | _ => none

end Toml

end PipelineTrial
