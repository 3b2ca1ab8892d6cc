import PipelineTrial.Script.Builtin
import PipelineTrial.Script.Syntax

/-! The state of a running script: values, objects, scopes, and the ways in which a run can halt. -/

namespace PipelineTrial

namespace Script

/-- The place of an object or scope. -/
abbrev Address := Nat

/-- A value of a script. -/
inductive Value where
  | undefined
  | null
  | boolean (value : Bool)
  | number (value : Number)
  | text (units : Units)
  | object (address : Address)
  deriving DecidableEq, Inhabited

/-- What a property holds: a value, or a pair of functions around one. -/
inductive Slot where
  | stored (content : Value) (isWritable : Bool)
  | computed (getter setter : Option Value)
  deriving DecidableEq, Inhabited

/-- A property of an object. -/
structure Property where
  slot : Slot
  isEnumerable : Bool
  isConfigurable : Bool
  deriving DecidableEq, Inhabited

namespace Property

/-- A property as assignments make it. -/
def plain (content : Value) : Property := ⟨.stored content true, true, true⟩

/-- A property that loops over names pass by. -/
def hidden (content : Value) : Property := ⟨.stored content true, false, true⟩

/-- A property that cannot be changed. -/
def constant (content : Value) : Property := ⟨.stored content false, false, false⟩

end Property

/-- How far the items of a list are protected from change. -/
inductive Protection where
  | free
  | sealed
  | frozen
  deriving DecidableEq

/-- What a walk over a list gives at each step. -/
inductive WalkView where
  | keys
  | values
  | entries
  deriving DecidableEq

/-- What an object is beside its properties. -/
inductive ObjectKind where
  | plain
  /-- A list with its items up to a point, holes behind that, and its length. -/
  | list (items : Array (Option Value)) (length : Nat) (protection : Protection)
  /-- A function with the scope it was made in, and the receiver it was made under if it keeps that. -/
  | closure (code : FunctionCode) (scope : Address) (receiver : Option Value)
  | builtin (function : Builtin)
  | bound (target receiver : Value) (arguments : List Value)
  | failure
  | wrapper (content : Value)
  | moment (time : Number)
  | arguments
  | pattern
  /-- A walk over the items of a value from a position on, which is none once it has ended. -/
  | walk (subject : Value) (position : Option Nat) (view : WalkView)
  deriving Inhabited

/-- An object. -/
structure ObjectRecord where
  kind : ObjectKind
  prototype : Option Address
  /-- Own properties in order of creation. -/
  properties : List (Units × Property)
  isExtensible : Bool
  deriving Inhabited

/-- A name in a scope; it has no value before its declaration is reached. -/
structure Variable where
  content : Option Value
  isConstant : Bool
  deriving Inhabited

/-- The names of a block or function. -/
structure Scope where
  names : List (String × Variable)
  parent : Option Address
  /-- The arguments that a function was called with. -/
  arguments : Option (List Value)
  deriving Inhabited

/-- The limits of a run. -/
structure Limits where
  /-- The number of turns after which the loops of one call have to be done. -/
  turns : Nat
  /-- The number of calls that may not be reached by the calls under way. -/
  calls : Nat

/-- The state of a run. -/
structure Machine where
  objects : Array ObjectRecord
  scopes : Array Scope
  limits : Limits
  /-- The number of calls under way, the script itself included. -/
  calls : Nat
  /-- The number of turns that the loops of the running call have begun. -/
  turns : Nat

/-- A limit that a run went over. -/
inductive Overrun where
  | turns (limit : Nat)
  | calls
  deriving DecidableEq

/-- The text of an overrun. -/
def Overrun.message : Overrun → String
  | .turns limit => "Maximum loop iteration limit " ++ toString limit ++ " exceeded"
  | .calls => "exceeded maximum number of recursive calls"

/-- Why a run halts. -/
inductive Halt where
  /-- A value was thrown, which the script may catch. -/
  | thrown (value : Value)
  | overrun (limit : Overrun)
  /-- A chain ended at an optional part. -/
  | chainEnd
  /-- The depth that evaluation was given is used up. -/
  | exhausted

/-- A step of a run: it changes the state, and may halt. -/
abbrev Run (α : Type) : Type := EStateM Halt Machine α

/-- How a statement ends. -/
inductive Completion where
  | normal
  | left (value : Value)
  | exited (label : Option String)
  | skipped (label : Option String)

/-- What surrounds a piece of a running script. -/
structure Surrounding where
  scope : Address
  receiver : Value
  isStrict : Bool

/-- The parts of evaluation that call on each other. -/
structure Interpreter where
  evaluate : Surrounding → Expression → Run Value
  execute : Surrounding → Statement → Run Completion
  call : Value → Value → List Value → Run Value
  construct : Value → List Value → Run Value

/-- The objects that exist before a script runs and that evaluation refers to. -/
inductive Intrinsic where
  | global
  | objectPrototype
  | functionPrototype
  | listPrototype
  | textPrototype
  | numberPrototype
  | booleanPrototype
  | momentPrototype
  | patternPrototype
  | walkPrototype
  | errorPrototype
  | typeErrorPrototype
  | rangeErrorPrototype
  | referenceErrorPrototype
  | syntaxErrorPrototype
  deriving DecidableEq

namespace Intrinsic

/-- All such objects, in the order of their addresses. -/
def all : List Intrinsic :=
  [.global, .objectPrototype, .functionPrototype, .listPrototype, .textPrototype, .numberPrototype,
    .booleanPrototype, .momentPrototype, .patternPrototype, .walkPrototype, .errorPrototype,
    .typeErrorPrototype, .rangeErrorPrototype, .referenceErrorPrototype, .syntaxErrorPrototype]

/-- The address of such an object. -/
def address : Intrinsic → Address
  | .global => 0
  | .objectPrototype => 1
  | .functionPrototype => 2
  | .listPrototype => 3
  | .textPrototype => 4
  | .numberPrototype => 5
  | .booleanPrototype => 6
  | .momentPrototype => 7
  | .patternPrototype => 8
  | .walkPrototype => 9
  | .errorPrototype => 10
  | .typeErrorPrototype => 11
  | .rangeErrorPrototype => 12
  | .referenceErrorPrototype => 13
  | .syntaxErrorPrototype => 14

/-- The prototype of the errors of a kind. -/
def ofErrorKind : ErrorKind → Intrinsic
  | .plain => .errorPrototype
  | .typeError => .typeErrorPrototype
  | .rangeError => .rangeErrorPrototype
  | .referenceError => .referenceErrorPrototype
  | .syntaxError => .syntaxErrorPrototype

end Intrinsic

/-- The scope of the names that a script declares at its top without making them global properties. -/
def topScope : Address := 0

end Script

end PipelineTrial
