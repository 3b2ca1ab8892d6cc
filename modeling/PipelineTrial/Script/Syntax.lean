import PipelineTrial.Script.Number

/-! The syntax trees of scripts. -/

namespace PipelineTrial

namespace Script

/-- How a name is declared. -/
inductive DeclarationKind where
  | functionScoped
  | blockScoped
  | constant
  deriving DecidableEq

/-- Operators of one operand. -/
inductive UnaryOperator where
  | negate
  | plus
  | logicalNot
  | bitwiseNot
  | typeOf
  | discard
  deriving DecidableEq

/-- Operators of two operands that evaluate both. -/
inductive BinaryOperator where
  | add
  | subtract
  | multiply
  | divide
  | remainder
  | power
  | shiftLeft
  | shiftRight
  | shiftRightUnsigned
  | bitAnd
  | bitOr
  | bitXor
  | less
  | lessEqual
  | greater
  | greaterEqual
  | looseEqual
  | looseUnequal
  | strictEqual
  | strictUnequal
  | memberOf
  | instanceOf
  deriving DecidableEq

/-- Operators of two operands that may leave the second one out. -/
inductive LogicalOperator where
  | conjunction
  | disjunction
  | coalesce
  deriving DecidableEq

/-- What an assignment does with the value before it. -/
inductive AssignmentOperator where
  | plain
  | compound (operator : BinaryOperator)
  | logical (operator : LogicalOperator)
  deriving DecidableEq

/-- Whether a member of an object literal is a value or a pair of functions around one. -/
inductive MemberKind where
  | value
  | getter
  | setter
  deriving DecidableEq

mutual

/-- An expression. -/
inductive Expression where
  | number (value : Number)
  | text (units : Units)
  | boolean (value : Bool)
  | null
  | receiver
  | name (name : String)
  /-- Texts with expressions between them. -/
  | template (first : Units) (parts : List (Expression × Units))
  | array (items : List Item)
  | object (members : List Member)
  | function (code : FunctionCode)
  /-- A member by its name; an optional one ends its chain at null and undefined. -/
  | member (object : Expression) (name : Units) (isOptional : Bool)
  | index (object key : Expression) (isOptional : Bool)
  | call (callee : Expression) (arguments : List Item) (isOptional : Bool)
  /-- A chain of members and calls that an optional part may end early. -/
  | chain (content : Expression)
  | construct (callee : Expression) (arguments : List Item)
  | unary (operator : UnaryOperator) (operand : Expression)
  | delete (operand : Expression)
  /-- Adds a difference to a variable or member; the value is the new or the old number. -/
  | update (difference : Number) (givesNew : Bool) (target : Expression)
  | binary (operator : BinaryOperator) (left right : Expression)
  | logical (operator : LogicalOperator) (left right : Expression)
  | conditional (condition consequent alternative : Expression)
  | assign (operator : AssignmentOperator) (target : Pattern) (value : Expression)
  | sequence (first second : Expression)
  | pattern (body flags : Units)

/-- An item of an array literal or of arguments. -/
inductive Item where
  | hole
  | single (value : Expression)
  | spread (value : Expression)

/-- The name of a member of a literal or pattern. -/
inductive MemberName where
  | fixed (name : Units)
  | computed (value : Expression)

/-- A member of an object literal. -/
inductive Member where
  /-- A named member; the prototype is set by a plain one of a certain name. -/
  | named (kind : MemberKind) (name : MemberName) (value : Expression) (setsPrototype : Bool)
  | spread (value : Expression)

/-- What a value is assigned or bound to. -/
inductive Pattern where
  | name (name : String)
  /-- A member of an object, which only assignments may target. -/
  | reference (target : Expression)
  | array (items : List (Option PatternItem)) (rest : Option Pattern)
  | object (members : List PatternMember) (rest : Option Pattern)

/-- A pattern with the value that stands in for undefined. -/
inductive PatternItem where
  | mk (target : Pattern) (fallback : Option Expression)

/-- A member of an object pattern. -/
inductive PatternMember where
  | mk (name : MemberName) (item : PatternItem)

/-- A function as written. -/
inductive FunctionCode where
  | mk (name : Option String) (parameters : List PatternItem) (rest : Option Pattern)
      (body : List Statement) (isArrow isStrict isMethod : Bool)

/-- A statement. -/
inductive Statement where
  | empty
  | expression (value : Expression)
  | declare (kind : DeclarationKind) (bindings : List (Pattern × Option Expression))
  | function (code : FunctionCode)
  /-- Leaves a function with a value. -/
  | leave (value : Option Expression)
  | branch (condition : Expression) (consequent : Statement) (alternative : Option Statement)
  | loopWhile (condition : Expression) (body : Statement)
  | loopUntil (body : Statement) (condition : Expression)
  | loop (start : Option Statement) (condition update : Option Expression) (body : Statement)
  /-- A loop over names or items; the target is declared or assigned anew each time. -/
  | loopOver (kind : Option DeclarationKind) (target : Pattern) (overNames : Bool)
      (subject : Expression) (body : Statement)
  /-- Ends a loop, a choice or a labelled statement. -/
  | exit (label : Option String)
  /-- Ends one turn of a loop. -/
  | skip (label : Option String)
  | raise (value : Expression)
  | attempt (body : List Statement) (handler : Option (Option Pattern × List Statement))
      (cleanup : Option (List Statement))
  | choose (subject : Expression) (cases : List SwitchCase)
  | block (body : List Statement)
  | labelled (label : String) (body : Statement)

/-- A case of a choice, of which the default has no test. -/
inductive SwitchCase where
  | mk (test : Option Expression) (body : List Statement)

end

instance : Inhabited Expression := ⟨.null⟩
instance : Inhabited Statement := ⟨.empty⟩
instance : Inhabited Pattern := ⟨.name ""⟩

namespace FunctionCode

/-- The name of a function, if it has one. -/
def name : FunctionCode → Option String
  | .mk name _ _ _ _ _ _ => name

/-- The parameters of a function. -/
def parameters : FunctionCode → List PatternItem
  | .mk _ parameters _ _ _ _ _ => parameters

/-- The pattern that takes all further arguments. -/
def rest : FunctionCode → Option Pattern
  | .mk _ _ rest _ _ _ _ => rest

/-- The statements of a function. -/
def body : FunctionCode → List Statement
  | .mk _ _ _ body _ _ _ => body

/-- Whether a function takes over the receiver around it. -/
def isArrow : FunctionCode → Bool
  | .mk _ _ _ _ isArrow _ _ => isArrow

/-- Whether a function is under the strict rules. -/
def isStrict : FunctionCode → Bool
  | .mk _ _ _ _ _ isStrict _ => isStrict

/-- Whether a function is a method, which cannot construct objects. -/
def isMethod : FunctionCode → Bool
  | .mk _ _ _ _ _ _ isMethod => isMethod

end FunctionCode

/-- A whole script. -/
structure Program where
  body : List Statement
  isStrict : Bool

end Script

end PipelineTrial
