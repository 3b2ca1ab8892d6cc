import PipelineTrial.Script.Syntax

/-! The names that statements declare, and the clashes between them. -/

namespace PipelineTrial

namespace Script

mutual

/-- The names that a pattern binds. -/
def boundNames : Pattern → List String
  | .name name => [name]
  | .reference _ => []
  | .array items rest => boundNamesOfItems items ++ boundNamesOfRest rest
  | .object members rest => boundNamesOfMembers members ++ boundNamesOfRest rest

/-- The names that the items of a pattern bind. -/
def boundNamesOfItems : List (Option PatternItem) → List String
  | [] => []
  | none :: rest => boundNamesOfItems rest
  | some (.mk target _) :: rest => boundNames target ++ boundNamesOfItems rest

/-- The names that the members of a pattern bind. -/
def boundNamesOfMembers : List PatternMember → List String
  | [] => []
  | .mk _ (.mk target _) :: rest => boundNames target ++ boundNamesOfMembers rest

/-- The names that the last part of a pattern binds. -/
def boundNamesOfRest : Option Pattern → List String
  | none => []
  | some pattern => boundNames pattern

end

/-- The names that a declaration binds. -/
def declaredNames (bindings : List (Pattern × Option Expression)) : List String :=
  -- Initial values declare nothing.
  bindings.flatMap fun binding => boundNames binding.1

/-- The names of parameters. -/
def parameterNames (parameters : List PatternItem) (rest : Option Pattern) : List String :=
  -- The last parameter may take all further arguments.
  (parameters.flatMap fun (.mk target _) => boundNames target) ++ boundNamesOfRest rest

mutual

/-- The names that a statement declares for the whole function. -/
def functionScopedNames : Statement → List String
  | .declare .functionScoped bindings => declaredNames bindings
  | .branch _ consequent alternative =>
    functionScopedNames consequent ++ functionScopedNamesOfOption alternative
  | .loopWhile _ body => functionScopedNames body
  | .loopUntil body _ => functionScopedNames body
  | .loop start _ _ body => functionScopedNamesOfOption start ++ functionScopedNames body
  | .loopOver kind target _ _ body =>
    (if kind == some .functionScoped then boundNames target else []) ++ functionScopedNames body
  | .attempt body none none => functionScopedNamesOfList body
  | .attempt body (some (_, handler)) none =>
    functionScopedNamesOfList body ++ functionScopedNamesOfList handler
  | .attempt body none (some cleanup) =>
    functionScopedNamesOfList body ++ functionScopedNamesOfList cleanup
  | .attempt body (some (_, handler)) (some cleanup) =>
    functionScopedNamesOfList body ++ functionScopedNamesOfList handler
      ++ functionScopedNamesOfList cleanup
  | .choose _ cases => functionScopedNamesOfCases cases
  | .block body => functionScopedNamesOfList body
  | .labelled _ body => functionScopedNames body
  | _ => []

/-- The names that an optional statement declares for the whole function. -/
def functionScopedNamesOfOption : Option Statement → List String
  | none => []
  | some statement => functionScopedNames statement

/-- The names that statements declare for the whole function. -/
def functionScopedNamesOfList : List Statement → List String
  | [] => []
  | statement :: rest => functionScopedNames statement ++ functionScopedNamesOfList rest

/-- The names that cases declare for the whole function. -/
def functionScopedNamesOfCases : List SwitchCase → List String
  | [] => []
  | .mk _ body :: rest => functionScopedNamesOfList body ++ functionScopedNamesOfCases rest

end

/-- The names that statements declare for their own block, functions aside. -/
def blockScopedNames (statements : List Statement) : List String :=
  -- Nested blocks keep their names to themselves.
  statements.flatMap fun
    | .declare .blockScoped bindings => declaredNames bindings
    | .declare .constant bindings => declaredNames bindings
    | _ => []

/-- The functions that statements declare, in order. -/
def declaredFunctions : List Statement → List FunctionCode
  | [] => []
  | .function code :: rest => code :: declaredFunctions rest
  | .labelled _ (.function code) :: rest => code :: declaredFunctions rest
  | _ :: rest => declaredFunctions rest

/-- The names of the functions that statements declare. -/
def functionNames (statements : List Statement) : List String :=
  -- Declared functions have names.
  (declaredFunctions statements).filterMap (·.name)

/-- Whether a list holds a name twice. -/
def hasRepeats : List String → Bool
  | [] => false
  | name :: rest => rest.contains name || hasRepeats rest

/-- Whether two lists share a name. -/
def sharesName (left right : List String) : Bool := left.any right.contains

/-- Whether the names of a function's body or of a script clash, its parameters included. -/
def bodyClashes (parameters : List String) (statements : List Statement) : Bool :=
  -- Functions of a body count as declared for the whole function.
  let owned := blockScopedNames statements
  hasRepeats owned || sharesName owned parameters
    || sharesName owned (functionNames statements ++ functionScopedNamesOfList statements)

/-- Whether the names of a block clash. -/
def blockClashes (statements : List Statement) : Bool :=
  -- Functions of a block count as its own names, and may be repeated.
  let owned := blockScopedNames statements
  let functions := functionNames statements
  hasRepeats owned || sharesName owned functions
    || sharesName (owned ++ functions) (functionScopedNamesOfList statements)

end Script

end PipelineTrial
