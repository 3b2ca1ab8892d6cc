import PipelineTrial.Script.Lexeme
import PipelineTrial.Script.Names

/-! The grammar of scripts: syntax trees out of tokens. -/

namespace PipelineTrial

namespace Script

/-- What surrounds a piece of syntax. -/
structure Surroundings where
  isStrict : Bool
  inFunction : Bool
  inLoop : Bool
  inChoice : Bool
  /-- The labels around it, with whether each is on a loop. -/
  labels : List (String × Bool)
  /-- Whether the word for membership is an operator here. -/
  allowsMembership : Bool

/-- A reading step over tokens; a failure is an error of syntax. -/
abbrev Syntactic (α : Type) : Type := StateT (List Token) Option α

/-- Words that cannot be names. -/
def reservedWords : List String :=
  ["break", "case", "catch", "class", "const", "continue", "debugger", "default", "delete", "do",
    "else", "enum", "export", "extends", "false", "finally", "for", "function", "if", "import", "in",
    "instanceof", "new", "null", "return", "super", "switch", "this", "throw", "true", "try",
    "typeof", "var", "void", "while", "with"]

/-- Words that cannot be names under the strict rules. -/
def strictReservedWords : List String :=
  ["implements", "interface", "let", "package", "private", "protected", "public", "static", "yield"]

/-- Whether a word is a name here. -/
def isNameHere (surroundings : Surroundings) (word : String) : Bool :=
  -- The strict rules reserve more words.
  !reservedWords.contains word && !(surroundings.isStrict && strictReservedWords.contains word)

namespace Syntactic

/-- The next token. -/
def peek : Syntactic (Option Token) := do
  -- Nothing is taken.
  return (← get).head?

/-- Takes the next token. -/
def advance : Syntactic Unit := modify List.tail

/-- Whether the next token is a given mark. -/
def seesMark (mark : String) : Syntactic Bool := do
  -- Words never count as marks.
  match ← peek with
  | some (.mk (.mark found) _) => return found == mark
  | _ => return false

/-- Whether the next token is a given word. -/
def seesWord (word : String) : Syntactic Bool := do
  -- Marks never count as words.
  match ← peek with
  | some (.mk (.word found) _) => return found == word
  | _ => return false

/-- Takes a given mark if it is next. -/
def accept (mark : String) : Syntactic Bool := do
  -- Another token stays.
  if ← seesMark mark then
    advance
    return true
  else return false

/-- Takes a given word if it is next. -/
def acceptWord (word : String) : Syntactic Bool := do
  -- Another token stays.
  if ← seesWord word then
    advance
    return true
  else return false

/-- Takes a given mark, which has to be next. -/
def expect (mark : String) : Syntactic Unit := do
  -- Another token is an error.
  if ← accept mark then return () else failure

/-- Takes a given word, which has to be next. -/
def expectWord (word : String) : Syntactic Unit := do
  -- Another token is an error.
  if ← acceptWord word then return () else failure

/-- Whether a line ends before the next token, or the script ends. -/
def atLineStart : Syntactic Bool := do
  -- The end counts as a line end.
  match ← peek with
  | some token => return token.afterLine
  | none => return true

/-- Takes the end of a statement: a semicolon, or a place where one may be left out. -/
def endStatement : Syntactic Unit := do
  -- It may be left out before a closing brace, at the end, and at the end of a line.
  if ← accept ";" then return ()
  else if ← seesMark "\x7d" then return ()
  else if ← atLineStart then return ()
  else failure

/-- A name. -/
def identifier (surroundings : Surroundings) : Syntactic String := do
  -- Reserved words are errors.
  match ← peek with
  | some (.mk (.word word) _) =>
    if isNameHere surroundings word then
      advance
      return word
    else failure
  | _ => failure

/-- Repeats a step that tells whether to go on, within a bound. -/
def repeatWhile (step : Syntactic Bool) : Nat → Syntactic Unit
  | 0 => failure
  | bound + 1 => do
    if ← step then repeatWhile step bound else return ()

/-- What a step finds until it finds nothing more, within a bound. -/
def collect {α : Type} (step : Syntactic (Option α)) : Nat → Syntactic (List α)
  | 0 => failure
  | bound + 1 => do
    match ← step with
    | some found =>
      let rest ← collect step bound
      return found :: rest
    | none => return []

/-- A bound on the number of steps that take at least one token each. -/
def bound : Syntactic Nat := do
  -- One step more may find the end.
  return (← get).length + 1

end Syntactic

open Syntactic

/-- The syntax that other syntax contains. -/
structure Grammar where
  /-- An expression without commas. -/
  assignment : Surroundings → Syntactic Expression
  /-- An operand, with the operators of one operand around it. -/
  unary : Surroundings → Syntactic Expression
  /-- An operand, with its powers. -/
  power : Surroundings → Syntactic Expression
  statement : Surroundings → Syntactic Statement
  /-- A pattern of names, or one of assignable places. -/
  pattern : Surroundings → Bool → Syntactic Pattern

namespace Grammar

/-- The tokens after the bracket that closes the one at their start. -/
def afterBracket : List Token → Nat → Option (List Token)
  | [], _ => none
  | .mk (.mark mark) _ :: rest, depth =>
    if mark == "(" || mark == "[" || mark == "\x7b" then afterBracket rest (depth + 1)
    else if mark == ")" || mark == "]" || mark == "\x7d" then
      if depth ≤ 1 then some rest else afterBracket rest (depth - 1)
    else afterBracket rest depth
  | _ :: rest, depth => afterBracket rest depth

/-- Whether a given mark follows the bracket at the start of the tokens once it is closed. -/
def markFollowsBracket (mark : String) : Syntactic Bool := do
  -- Nothing is taken.
  match afterBracket (← get) 0 with
  | some (.mk (.mark found) _ :: _) => return found == mark
  | _ => return false

/-- An expression with commas. -/
def expression (self : Grammar) (surroundings : Surroundings) : Syntactic Expression := do
  -- All but the last value are dropped.
  let first ← self.assignment surroundings
  let rest ← collect
    (do
      if ← accept "," then
        let next ← self.assignment surroundings
        return some next
      else return none)
    (← bound)
  return rest.foldl .sequence first

/-- A place that can be assigned to. -/
def isPlace : Expression → Bool
  | .name _ => true
  | .member _ _ isOptional => !isOptional
  | .index _ _ isOptional => !isOptional
  | _ => false

/-- The pattern of a place. -/
def placePattern : Expression → Option Pattern
  | .name name => some (.name name)
  | other => if isPlace other then some (.reference other) else none

/-- An item of a list with the comma behind it, or none at the closing bracket. -/
def nextItem (self : Grammar) (surroundings : Surroundings) (closing : String) (allowsHoles : Bool) :
    Syntactic (Option Item) := do
  -- A comma may follow the last item.
  if ← accept closing then return none
  else if allowsHoles && (← accept ",") then return some .hole
  else
    let item ←
      if ← accept "..." then
        let value ← self.assignment surroundings
        pure (Item.spread value)
      else
        let value ← self.assignment surroundings
        pure (Item.single value)
    if ← seesMark closing then return some item
    else
      expect ","
      return some item

/-- The items of a list up to a closing bracket, with spread ones. -/
def items (self : Grammar) (surroundings : Surroundings) (closing : String) (allowsHoles : Bool) :
    Syntactic (List Item) := do
  -- Each takes at least one token.
  collect (self.nextItem { surroundings with allowsMembership := true } closing allowsHoles) (← bound)

/-- Whether the rest of the tokens starts with a directive for the strict rules. -/
def startsStrict : List Token → Bool
  | .mk (.text _ isDirective _) _ :: rest =>
    -- Other texts may stand before it as statements of their own.
    match rest with
    | .mk (.mark ";") _ :: after => isDirective || startsStrict after
    | .mk (.mark mark) afterLine :: _ => isDirective && (mark == "\x7d" || afterLine)
    | .mk _ afterLine :: _ => isDirective && afterLine
    | [] => isDirective
  | _ => false

/-- The statements up to a closing brace. -/
def statements (self : Grammar) (surroundings : Surroundings) : Syntactic (List Statement) := do
  -- Each takes at least one token.
  collect
    (do
      if ← accept "\x7d" then return none
      else
        let statement ← self.statement surroundings
        return some statement)
    (← bound)

/-- A parameter or an item of a pattern, with its fallback. -/
def patternItem (self : Grammar) (surroundings : Surroundings) (isBinding : Bool) :
    Syntactic PatternItem := do
  -- The fallback follows an equals sign.
  let target ← self.pattern surroundings isBinding
  if ← accept "=" then
    let fallback ← self.assignment { surroundings with allowsMembership := true }
    return .mk target (some fallback)
  else return .mk target none

/-- Parameters up to a closing parenthesis. -/
def parameters (self : Grammar) (surroundings : Surroundings) :
    Syntactic (List PatternItem × Option Pattern) := do
  -- Only the last may take all further arguments.
  let found ← collect
    (do
      if ← seesMark ")" then return none
      else if ← seesMark "..." then return none
      else
        let item ← self.patternItem surroundings true
        if ← seesMark ")" then return some item
        else
          expect ","
          return some item)
    (← bound)
  let rest ←
    if ← accept "..." then
      let target ← self.pattern surroundings true
      pure (some target)
    else pure none
  expect ")"
  return (found, rest)

/-- The surroundings inside a function. -/
def inside (isStrict : Bool) : Surroundings := ⟨isStrict, true, false, false, [], true⟩

/-- Whether all parameters are plain names. -/
def areSimple (parameters : List PatternItem) (rest : Option Pattern) : Bool :=
  -- Fallbacks and patterns are not plain.
  rest.isNone && parameters.all fun
    | .mk (.name _) none => true
    | _ => false

/-- The body of a function in braces, with whether it is strict. -/
def functionBody (self : Grammar) (surroundings : Surroundings) (found : List PatternItem)
    (rest : Option Pattern) (isArrow isMethod : Bool) : Syntactic (List Statement × Bool) := do
  -- Repeated names, and a call for strictness after parameters that are not plain, are errors.
  expect "\x7b"
  let asksForStrict := startsStrict (← get)
  let isStrict := surroundings.isStrict || asksForStrict
  let body ← self.statements (inside isStrict)
  let names := parameterNames found rest
  if bodyClashes names body then failure
  else if asksForStrict && !areSimple found rest then failure
  else if hasRepeats names && (isStrict || isArrow || isMethod || !areSimple found rest) then failure
  else return (body, isStrict)

/-- A function after its name: parameters and body. -/
def functionRest (self : Grammar) (surroundings : Surroundings) (name : Option String)
    (isMethod : Bool) : Syntactic FunctionCode := do
  -- Parameters are read under the rules around the function.
  expect "("
  let (found, rest) ← self.parameters (inside surroundings.isStrict)
  let (body, isStrict) ← self.functionBody surroundings found rest false isMethod
  return .mk name found rest body false isStrict isMethod

/-- A function after the word for it; a declared one needs a name. -/
def functionSyntax (self : Grammar) (surroundings : Surroundings) (needsName : Bool) :
    Syntactic FunctionCode := do
  -- Only written expressions may go without a name.
  let name ←
    if ← seesMark "(" then if needsName then failure else pure none
    else
      let name ← identifier surroundings
      pure (some name)
  self.functionRest surroundings name false

/-- An arrow function from its parameters on. -/
def arrowFunction (self : Grammar) (surroundings : Surroundings) : Syntactic Expression := do
  -- A single plain parameter needs no parentheses.
  let (found, rest) ←
    if ← accept "(" then self.parameters surroundings
    else
      let name ← identifier surroundings
      pure ([.mk (.name name) none], none)
  if ← atLineStart then failure
  else
    expect "=>"
    if ← seesMark "\x7b" then
      let (body, isStrict) ← self.functionBody surroundings found rest true false
      return .function (.mk none found rest body true isStrict false)
    else
      let value ← self.assignment surroundings
      if hasRepeats (parameterNames found rest) then failure
      else
        return .function
          (.mk none found rest [.leave (some value)] true surroundings.isStrict false)

/-- The name of a member of a literal or pattern, with the word it was written as if it was one. -/
def memberName (self : Grammar) (surroundings : Surroundings) :
    Syntactic (MemberName × Option String) := do
  -- Reserved words are names here.
  match ← peek with
  | some (.mk (.word word) _) =>
    advance
    return (.fixed (Units.ofString word), some word)
  | some (.mk (.text units _ isLegacy) _) =>
    advance
    if isLegacy && surroundings.isStrict then failure else return (.fixed units, none)
  | some (.mk (.number value isLegacy) _) =>
    advance
    if isLegacy && surroundings.isStrict then failure else return (.fixed (value.units), none)
  | some (.mk (.mark "[") _) =>
    advance
    let key ← self.assignment { surroundings with allowsMembership := true }
    expect "]"
    return (.computed key, none)
  | _ => failure

/-- Whether the next token ends the name of a member, so that a word before it is the name itself. -/
def endsMemberName : Syntactic Bool := do
  -- Otherwise the word announces a getter or setter.
  return (← seesMark ":") || (← seesMark "(") || (← seesMark ",") || (← seesMark "\x7d")

/-- The name whose plain member sets the prototype. -/
def prototypeName : Units := Units.ofString "__proto__"

/-- Whether a getter or setter takes as many arguments as it should. -/
def isAccessor (kind : MemberKind) : FunctionCode → Bool
  | .mk _ parameters rest _ _ _ _ =>
    -- Getters take none and setters take one.
    rest.isNone && (match kind with
      | .setter => parameters.length == 1
      | _ => parameters.isEmpty)

/-- A member of an object literal. -/
def objectMember (self : Grammar) (surroundings : Surroundings) :
    Syntactic Member := do
  -- Spreads, getters, setters, methods, values and short forms are told apart by their marks.
  if ← accept "..." then
    let value ← self.assignment { surroundings with allowsMembership := true }
    return .spread value
  else
    let (name, word) ← self.memberName surroundings
    let accessor (kind : MemberKind) : Syntactic Member := do
      let (name, _) ← self.memberName surroundings
      let code ← self.functionRest surroundings none true
      if isAccessor kind code then return .named kind name (.function code) false else failure
    if word == some "get" && !(← endsMemberName) then accessor .getter
    else if word == some "set" && !(← endsMemberName) then accessor .setter
    else if ← seesMark "(" then
      let code ← self.functionRest surroundings none true
      return .named .value name (.function code) false
    else if ← accept ":" then
      let value ← self.assignment { surroundings with allowsMembership := true }
      let setsPrototype := match name with
        | .fixed units => units == prototypeName
        | .computed _ => false
      return .named .value name value setsPrototype
    else
      match word with
      | some word =>
        if isNameHere surroundings word then return .named .value name (.name word) false
        else failure
      | none => failure

/-- Whether members set the prototype twice. -/
def setsPrototypeTwice (members : List Member) : Bool :=
  -- One is enough.
  1 < (members.filter fun
    | .named _ _ _ setsPrototype => setsPrototype
    | _ => false).length

/-- A member of an object literal with the comma behind it, or none at the closing brace. -/
def nextMember (self : Grammar) (surroundings : Surroundings) : Syntactic (Option Member) := do
  -- A comma may follow the last member.
  if ← accept "\x7d" then return none
  else
    let member ← self.objectMember surroundings
    if ← seesMark "\x7d" then return some member
    else
      expect ","
      return some member

/-- The members of an object literal up to its closing brace. -/
def objectLiteral (self : Grammar) (surroundings : Surroundings) :
    Syntactic Expression := do
  -- Each takes at least one token.
  let members ← collect (self.nextMember surroundings) (← bound)
  if setsPrototypeTwice members then failure else return .object members

/-- The expressions of a template, each from tokens of its own. -/
def templateParts (self : Grammar) (surroundings : Surroundings) :
    List (List Token × Units) → Syntactic (List (Expression × Units))
  | [] => return []
  | (tokens, units) :: rest => do
    -- All tokens of a part must belong to its expression.
    let outer ← get
    set tokens
    let value ← self.expression { surroundings with allowsMembership := true }
    if !(← get).isEmpty then failure
    else
      set outer
      let tail ← templateParts self surroundings rest
      return (value, units) :: tail

/-- The simplest expressions. -/
def primary (self : Grammar) (surroundings : Surroundings) :
    Syntactic Expression := do
  -- The first token decides.
  match ← peek with
  | none => failure
  | some (.mk lexeme _) =>
    match lexeme with
    | .number value isLegacy =>
      advance
      if isLegacy && surroundings.isStrict then failure else return .number value
    | .text units _ isLegacy =>
      advance
      if isLegacy && surroundings.isStrict then failure else return .text units
    | .pattern body flags =>
      advance
      return .pattern body flags
    | .template first parts =>
      advance
      let parts ← self.templateParts surroundings parts
      return .template first parts
    | .mark "(" =>
      advance
      let value ← self.expression { surroundings with allowsMembership := true }
      expect ")"
      -- Parentheses end a chain.
      return value
    | .mark "[" =>
      advance
      let items ← self.items surroundings "]" true
      return .array items
    | .mark "\x7b" =>
      advance
      self.objectLiteral surroundings
    | .word "function" =>
      advance
      let code ← self.functionSyntax surroundings false
      return .function code
    | .word "null" =>
      advance
      return .null
    | .word "true" =>
      advance
      return .boolean true
    | .word "false" =>
      advance
      return .boolean false
    | .word "this" =>
      advance
      return .receiver
    | .word _ =>
      let name ← identifier surroundings
      return .name name
    | .mark _ => failure

/-- The name of a member after its point. -/
def pointName : Syntactic Units := do
  -- Reserved words are names here.
  match ← peek with
  | some (.mk (.word word) _) =>
    advance
    return Units.ofString word
  | _ => failure

/-- A member access after an object, if one follows. -/
def memberAccess (self : Grammar) (surroundings : Surroundings) (object : Expression) :
    Syntactic (Option Expression) := do
  -- Names follow a point, and computed keys stand in brackets.
  if ← accept "." then
    let name ← pointName
    return some (.member object name false)
  else if ← accept "[" then
    let key ← self.expression { surroundings with allowsMembership := true }
    expect "]"
    return some (.index object key false)
  else return none

/-- The members after a constructor's name. -/
def constructorMembers (self : Grammar) (surroundings : Surroundings) :
    Nat → Expression → Syntactic Expression
  | 0, _ => failure
  | bound + 1, callee => do
    match ← self.memberAccess surroundings callee with
    | some callee => constructorMembers self surroundings bound callee
    | none => return callee

/-- A constructor call after the word for it; words nest before a constructor. -/
def construction (self : Grammar) (surroundings : Surroundings) :
    Nat → Syntactic Expression
  | 0 => failure
  | depth + 1 => do
    -- Arguments may be left out.
    let callee ←
      if ← acceptWord "new" then construction self surroundings depth
      else self.primary surroundings
    let callee ← self.constructorMembers surroundings (← bound) callee
    if ← accept "(" then
      let arguments ← self.items surroundings ")" false
      return .construct callee arguments
    else return .construct callee []

/-- The members and calls after an operand, with whether an optional one was among them. -/
def accesses (self : Grammar) (surroundings : Surroundings) :
    Nat → Expression → Bool → Syntactic (Expression × Bool)
  | 0, _, _ => failure
  | bound + 1, object, hasOptional => do
    if ← accept "(" then
      let arguments ← self.items surroundings ")" false
      accesses self surroundings bound (.call object arguments false) hasOptional
    else if ← accept "?." then
      if ← accept "(" then
        let arguments ← self.items surroundings ")" false
        accesses self surroundings bound (.call object arguments true) true
      else if ← accept "[" then
        let key ← self.expression { surroundings with allowsMembership := true }
        expect "]"
        accesses self surroundings bound (.index object key true) true
      else
        let name ← pointName
        accesses self surroundings bound (.member object name true) true
    else
      match ← self.memberAccess surroundings object with
      | some access => accesses self surroundings bound access hasOptional
      | none => return (object, hasOptional)

/-- An operand with its members and calls. -/
def leftHandSide (self : Grammar) (surroundings : Surroundings) :
    Syntactic Expression := do
  -- A chain with an optional part is closed off.
  let start ←
    if ← acceptWord "new" then self.construction surroundings (← bound)
    else self.primary surroundings
  let (found, hasOptional) ← self.accesses surroundings (← bound) start false
  return if hasOptional then .chain found else found

/-- An operand with a counting mark after it, if there is one. -/
def countedOperand (self : Grammar) (surroundings : Surroundings) :
    Syntactic Expression := do
  -- The mark must stand on the same line.
  let operand ← self.leftHandSide surroundings
  if ← atLineStart then return operand
  else if ← accept "++" then
    if isPlace operand then return .update (.whole 1) false operand else failure
  else if ← accept "--" then
    if isPlace operand then return .update (.whole (-1)) false operand else failure
  else return operand

/-- The marks and words of operators of one operand. -/
def unaryOperators : List (String × UnaryOperator) :=
  [("-", .negate), ("+", .plus), ("!", .logicalNot), ("~", .bitwiseNot), ("typeof", .typeOf),
    ("void", .discard)]

/-- The operator of one operand that the next token is. -/
def unaryOperator? : Syntactic (Option UnaryOperator) := do
  -- Marks and words are looked up alike.
  match ← peek with
  | some (.mk (.mark text) _) => return unaryOperators.lookup text
  | some (.mk (.word text) _) => return unaryOperators.lookup text
  | _ => return none

/-- An operand with the operators of one operand around it. -/
def unaryRule (self : Grammar) (surroundings : Surroundings) : Syntactic Expression := do
  -- Only places can be counted, and the strict rules keep names from being deleted.
  match ← unaryOperator? with
  | some operator =>
    advance
    let operand ← self.unary surroundings
    return .unary operator operand
  | none =>
    if ← acceptWord "delete" then
      let operand ← self.unary surroundings
      match operand with
      | .name _ => if surroundings.isStrict then failure else return .delete operand
      | _ => return .delete operand
    else if ← accept "++" then
      let operand ← self.unary surroundings
      if isPlace operand then return .update (.whole 1) true operand else failure
    else if ← accept "--" then
      let operand ← self.unary surroundings
      if isPlace operand then return .update (.whole (-1)) true operand else failure
    else self.countedOperand surroundings

/-- An operand with its powers. -/
def powerRule (self : Grammar) (surroundings : Surroundings) : Syntactic Expression := do
  -- The base of a power carries no operator of its own, while the exponent may.
  let carriesOperator := (← unaryOperator?).isSome || (← seesWord "delete")
  let base ← self.unary surroundings
  if ← accept "**" then
    if carriesOperator then failure
    else
      let exponent ← self.power surroundings
      return .binary .power base exponent
  else return base

/-- Operands joined from the left by the operators that a table knows. -/
def joined (operand : Syntactic Expression)
    (operator? : Syntactic (Option (Expression → Expression → Expression))) :
    Nat → Expression → Syntactic Expression
  | 0, _ => failure
  | bound + 1, left => do
    match ← operator? with
    | none => return left
    | some join =>
      advance
      let right ← operand
      joined operand operator? bound (join left right)

/-- One level of binding strength: operands joined from the left by some operators. -/
def level (operators : List (String × BinaryOperator)) (operand : Syntactic Expression) :
    Syntactic Expression := do
  -- Marks and words are looked up alike.
  let first ← operand
  joined operand
    (do
      match ← peek with
      | some (.mk (.mark text) _) => return (operators.lookup text).map Expression.binary
      | some (.mk (.word text) _) => return (operators.lookup text).map Expression.binary
      | _ => return none)
    (← bound) first

/-- The logical operator of a mark, if the next token is that mark. -/
def logicalOperator? (mark : String) (operator : LogicalOperator) :
    Syntactic (Option (Expression → Expression → Expression)) := do
  -- The second operand may be left out when the script runs.
  if ← seesMark mark then return some (Expression.logical operator) else return none

/-- Operands joined by logical operators; fallbacks for missing values do not mix with the others. -/
def logicalRule (operand : Syntactic Expression) : Syntactic Expression := do
  -- Conjunctions bind stronger than disjunctions.
  let first ← operand
  if ← seesMark "??" then
    joined operand (logicalOperator? "??" .coalesce) (← bound) first
  else
    let conjunctions (left : Expression) : Syntactic Expression := do
      joined operand (logicalOperator? "&&" .conjunction) (← bound) left
    let left ← conjunctions first
    let further : Syntactic Expression := do
      let next ← operand
      conjunctions next
    joined further (logicalOperator? "||" .disjunction) (← bound) left

/-- Operands joined by all operators of two operands, the strongest first. -/
def binaryRule (self : Grammar) (surroundings : Surroundings) : Syntactic Expression :=
  -- The order of the levels is the order of binding strength.
  let comparisons : List (String × BinaryOperator) :=
    [("<", .less), ("<=", .lessEqual), (">", .greater), (">=", .greaterEqual),
      ("instanceof", .instanceOf)]
  let comparisons :=
    if surroundings.allowsMembership then ("in", .memberOf) :: comparisons else comparisons
  let product := level [("*", .multiply), ("/", .divide), ("%", .remainder)] (self.power surroundings)
  let sum := level [("+", .add), ("-", .subtract)] product
  let shift := level [("<<", .shiftLeft), (">>", .shiftRight), (">>>", .shiftRightUnsigned)] sum
  let comparison := level comparisons shift
  let equality := level
    [("==", .looseEqual), ("!=", .looseUnequal), ("===", .strictEqual), ("!==", .strictUnequal)]
    comparison
  let alternation := level [("|", .bitOr)] (level [("^", .bitXor)] (level [("&", .bitAnd)] equality))
  logicalRule alternation

/-- The marks of assignments. -/
def assignmentOperators : List (String × AssignmentOperator) :=
  [("=", .plain), ("+=", .compound .add), ("-=", .compound .subtract), ("*=", .compound .multiply),
    ("/=", .compound .divide), ("%=", .compound .remainder), ("**=", .compound .power),
    ("<<=", .compound .shiftLeft), (">>=", .compound .shiftRight),
    (">>>=", .compound .shiftRightUnsigned), ("&=", .compound .bitAnd), ("|=", .compound .bitOr),
    ("^=", .compound .bitXor), ("&&=", .logical .conjunction), ("||=", .logical .disjunction),
    ("??=", .logical .coalesce)]

/-- Whether an arrow function starts here. -/
def startsArrow (surroundings : Surroundings) : Syntactic Bool := do
  -- A name or a parenthesis must be followed by the arrow.
  match ← get with
  | .mk (.word word) _ :: .mk (.mark "=>") afterLine :: _ =>
    return isNameHere surroundings word && !afterLine
  | .mk (.mark "(") _ :: _ => markFollowsBracket "=>"
  | _ => return false

/-- Whether a pattern to assign to starts here. -/
def startsPattern : Syntactic Bool := do
  -- A bracket must be followed by an equals sign.
  match ← peek with
  | some (.mk (.mark mark) _) =>
    if mark == "[" || mark == "\x7b" then markFollowsBracket "=" else return false
  | _ => return false

/-- An expression without commas. -/
def assignmentRule (self : Grammar) (surroundings : Surroundings) : Syntactic Expression := do
  -- Arrows and patterns are recognised before anything is read.
  if ← startsArrow surroundings then self.arrowFunction surroundings
  else if ← startsPattern then
    let target ← self.pattern surroundings false
    expect "="
    let value ← self.assignment surroundings
    return .assign .plain target value
  else
    let left ← self.binaryRule surroundings
    if ← accept "?" then
      let consequent ← self.assignment { surroundings with allowsMembership := true }
      expect ":"
      let alternative ← self.assignment surroundings
      return .conditional left consequent alternative
    else
      match ← peek with
      | some (.mk (.mark mark) _) =>
        match assignmentOperators.lookup mark with
        | none => return left
        | some operator =>
          match placePattern left with
          | none => failure
          | some target =>
            advance
            let value ← self.assignment surroundings
            if surroundings.isStrict && (match target with
                | .name name => name == "eval" || name == "arguments"
                | _ => false) then failure
            else return .assign operator target value
      | _ => return left

/-- The items of a list pattern after its opening bracket, with the pattern for the rest. -/
def listPattern (self : Grammar) (surroundings : Surroundings) (isBinding : Bool) :
    Syntactic Pattern := do
  -- Holes skip items, and the rest must come last.
  let found ← collect
    (do
      if ← seesMark "]" then return none
      else if ← seesMark "..." then return none
      else if ← accept "," then return some none
      else
        let item ← self.patternItem surroundings isBinding
        if ← seesMark "]" then return some (some item)
        else
          expect ","
          return some (some item))
    (← bound)
  let rest ←
    if ← accept "..." then
      let target ← self.pattern surroundings isBinding
      pure (some target)
    else pure none
  expect "]"
  return .array found rest

/-- A member of an object pattern. -/
def memberPattern (self : Grammar) (surroundings : Surroundings)
    (isBinding : Bool) : Syntactic PatternMember := do
  -- Without a colon the name is also the target.
  let (name, word) ← self.memberName surroundings
  if ← accept ":" then
    let item ← self.patternItem surroundings isBinding
    return .mk name item
  else
    match word with
    | none => failure
    | some word =>
      if !isNameHere surroundings word then failure
      else if ← accept "=" then
        let fallback ← self.assignment { surroundings with allowsMembership := true }
        return .mk name (.mk (.name word) (some fallback))
      else return .mk name (.mk (.name word) none)

/-- The members of an object pattern after its opening brace, with the pattern for the rest. -/
def objectPattern (self : Grammar) (surroundings : Surroundings)
    (isBinding : Bool) : Syntactic Pattern := do
  -- The rest must come last.
  let found ← collect
    (do
      if ← seesMark "\x7d" then return none
      else if ← seesMark "..." then return none
      else
        let member ← self.memberPattern surroundings isBinding
        if ← seesMark "\x7d" then return some member
        else
          expect ","
          return some member)
    (← bound)
  let rest ←
    if ← accept "..." then
      let target ← self.pattern surroundings isBinding
      pure (some target)
    else pure none
  expect "\x7d"
  return .object found rest

/-- A pattern of names, or one of assignable places. -/
def patternRule (self : Grammar) (surroundings : Surroundings)
    (isBinding : Bool) : Syntactic Pattern := do
  -- Brackets open a list pattern, and braces an object pattern.
  let nested (mark : String) : Syntactic Bool := do
    if ← seesMark mark then
      if isBinding then return true
      else return !((← markFollowsBracket ".") || (← markFollowsBracket "["))
    else return false
  if ← nested "[" then
    advance
    self.listPattern surroundings isBinding
  else if ← nested "\x7b" then
    advance
    self.objectPattern surroundings isBinding
  else if isBinding then
    let name ← identifier surroundings
    if surroundings.isStrict && (name == "eval" || name == "arguments") then failure
    else return .name name
  else
    let place ← self.leftHandSide surroundings
    match placePattern place with
    | some target => return target
    | none => failure

/-- One binding of a declaration. -/
def binding (self : Grammar) (surroundings : Surroundings) (kind : DeclarationKind)
    (needsValue : Bool) : Syntactic (Pattern × Option Expression) := do
  -- Constants and patterns need a value unless a loop supplies it.
  let target ← self.pattern surroundings true
  if ← accept "=" then
    let value ← self.assignment surroundings
    return (target, some value)
  else
    match kind, target with
    | .constant, _ => if needsValue then failure else return (target, none)
    | _, .name _ => return (target, none)
    | _, _ => if needsValue then failure else return (target, none)

/-- The bindings of a declaration. -/
def bindings (self : Grammar) (surroundings : Surroundings) (kind : DeclarationKind)
    (needsValue : Bool) : Syntactic (List (Pattern × Option Expression)) := do
  -- Commas separate them.
  let first ← self.binding surroundings kind needsValue
  let rest ← collect
    (do
      if ← accept "," then
        let next ← self.binding surroundings kind needsValue
        return some next
      else return none)
    (← bound)
  let names := declaredNames (first :: rest)
  if kind != .functionScoped && (hasRepeats names || names.contains "let") then failure
  else return first :: rest

/-- The kind of declaration that starts here, its word taken. -/
def declarationKind? : Syntactic (Option DeclarationKind) := do
  -- One of the words is a name unless something that can be declared follows.
  match ← get with
  | .mk (.word "var") _ :: _ =>
    advance
    return some .functionScoped
  | .mk (.word "const") _ :: _ =>
    advance
    return some .constant
  | .mk (.word "let") _ :: .mk (.word word) _ :: _ =>
    if word == "in" || word == "instanceof" || word == "of" then return none
    else
      advance
      return some .blockScoped
  | .mk (.word "let") _ :: .mk (.mark mark) _ :: _ =>
    if mark == "[" || mark == "\x7b" then
      advance
      return some .blockScoped
    else return none
  | _ => return none

/-- A statement that is not a declaration. -/
def plainStatement (self : Grammar) (surroundings : Surroundings) : Syntactic Statement := do
  -- Declarations need a block of their own.
  let statement ← self.statement surroundings
  match statement with
  | .declare .blockScoped _ => failure
  | .declare .constant _ => failure
  | .function _ => if surroundings.isStrict then failure else return .block [statement]
  | _ => return statement

/-- The body of a loop. -/
def loopBody (self : Grammar) (surroundings : Surroundings) : Syntactic Statement :=
  -- Turns can be ended inside it.
  self.plainStatement { surroundings with inLoop := true }

/-- Statements in braces. -/
def blockSyntax (self : Grammar) (surroundings : Surroundings) : Syntactic (List Statement) := do
  -- The names of a block must not clash.
  expect "\x7b"
  let body ← self.statements surroundings
  if blockClashes body then failure else return body

/-- A loop over the names or items of a value, after its target. -/
def loopOverRest (self : Grammar) (surroundings : Surroundings) (kind : Option DeclarationKind)
    (target : Pattern) : Syntactic Statement := do
  -- The word after the target tells names from items.
  let overNames ← acceptWord "in"
  if !overNames then expectWord "of" else pure ()
  let subject ←
    if overNames then self.expression surroundings else self.assignment surroundings
  expect ")"
  let body ← self.loopBody surroundings
  let names := boundNames target
  if kind.isSome && kind != some .functionScoped
      && (hasRepeats names || sharesName names (functionScopedNames body)) then failure
  else return .loopOver kind target overNames subject body

/-- A loop with a start, a condition and an update, after its start. -/
def loopRest (self : Grammar) (surroundings : Surroundings) (start : Option Statement) :
    Syntactic Statement := do
  -- Each part may be left out.
  expect ";"
  let condition ←
    if ← seesMark ";" then pure none
    else
      let value ← self.expression surroundings
      pure (some value)
  expect ";"
  let update ←
    if ← seesMark ")" then pure none
    else
      let value ← self.expression surroundings
      pure (some value)
  expect ")"
  let body ← self.loopBody surroundings
  return .loop start condition update body

/-- Whether the next token is one of the two words of loops over values. -/
def seesLoopWord : Syntactic Bool := do
  -- Names and items have a word each.
  return (← seesWord "in") || (← seesWord "of")

/-- A loop after its word and opening parenthesis. -/
def loopSyntax (self : Grammar) (surroundings : Surroundings) : Syntactic Statement := do
  -- What follows the first part decides which loop it is.
  let within := { surroundings with allowsMembership := false }
  match ← declarationKind? with
  | some kind =>
    let found ← self.bindings within kind false
    match found with
    | [(target, none)] =>
      if ← seesLoopWord then self.loopOverRest surroundings (some kind) target
      else if kind == .constant then failure
      else
        match target with
        | .name _ => self.loopRest surroundings (some (.declare kind found))
        | _ => failure
    | _ =>
      let complete := found.all fun binding =>
        binding.2.isSome || (kind != .constant && (match binding.1 with
          | .name _ => true
          | _ => false))
      if complete then self.loopRest surroundings (some (.declare kind found)) else failure
  | none =>
    if ← seesMark ";" then self.loopRest surroundings none
    else if (← seesMark "[") && ((afterBracket (← get) 0).any fun rest =>
        match rest with
        | .mk (.word word) _ :: _ => word == "of" || word == "in"
        | _ => false) then
      let target ← self.pattern surroundings false
      self.loopOverRest surroundings none target
    else
      let first ← self.expression within
      if ← seesLoopWord then
        match placePattern first with
        | some target => self.loopOverRest surroundings none target
        | none => failure
      else self.loopRest surroundings (some (.expression first))

/-- The cases of a choice after its opening brace. -/
def switchCases (self : Grammar) (surroundings : Surroundings) : Syntactic (List SwitchCase) := do
  -- At most one case may be the default.
  let surroundings := { surroundings with inChoice := true }
  let cases ← collect
    (do
      if ← accept "\x7d" then return none
      else
        let test ←
          if ← acceptWord "default" then pure none
          else
            expectWord "case"
            let value ← self.expression surroundings
            pure (some value)
        expect ":"
        let body ← collect
          (do
            if (← seesWord "case") || (← seesWord "default") || (← seesMark "\x7d") then return none
            else
              let statement ← self.statement surroundings
              return some statement)
          (← bound)
        return some (SwitchCase.mk test body))
    (← bound)
  let defaults := cases.filter fun (.mk test _) => test.isNone
  let all := cases.flatMap fun (.mk _ body) => body
  if 1 < defaults.length || blockClashes all then failure else return cases

/-- A protected block after its word. -/
def attemptSyntax (self : Grammar) (surroundings : Surroundings) : Syntactic Statement := do
  -- A handler or a cleanup has to follow.
  let body ← self.blockSyntax surroundings
  let handler ←
    if ← acceptWord "catch" then
      let target ←
        if ← accept "(" then
          let target ← self.pattern surroundings true
          expect ")"
          pure (some target)
        else pure none
      let handler ← self.blockSyntax surroundings
      let names := boundNamesOfRest target
      if hasRepeats names || sharesName names (blockScopedNames handler ++ functionNames handler) then
        failure
      else pure (some (target, handler))
    else pure none
  let cleanup ←
    if ← acceptWord "finally" then
      let cleanup ← self.blockSyntax surroundings
      pure (some cleanup)
    else pure none
  if handler.isNone && cleanup.isNone then failure else return .attempt body handler cleanup

/-- The label after a word that leaves a loop, if one follows on the same line. -/
def jumpLabel (surroundings : Surroundings) : Syntactic (Option String) := do
  -- The label must be one around the statement.
  if ← atLineStart then return none
  else
    match ← peek with
    | some (.mk (.word _) _) =>
      let label ← identifier surroundings
      return some label
    | _ => return none

/-- Whether a loop follows the label at the start of the tokens, further labels aside. -/
def labelsLoop : List Token → Bool
  | .mk (.word word) _ :: rest =>
    -- Loops start with one of three words.
    if word == "for" || word == "while" || word == "do" then true
    else
      match rest with
      | .mk (.mark ":") _ :: after => labelsLoop after
      | _ => false
  | _ => false

/-- A statement that starts with a word, if it does. -/
def wordStatement? (self : Grammar) (surroundings : Surroundings) (word : String) :
    Syntactic (Option Statement) := do
  -- Words that start no statement are left in place.
  match word with
  | "if" =>
    advance
    expect "("
    let condition ← self.expression surroundings
    expect ")"
    let consequent ← self.plainStatement surroundings
    if ← acceptWord "else" then
      let alternative ← self.plainStatement surroundings
      return some (.branch condition consequent (some alternative))
    else return some (.branch condition consequent none)
  | "while" =>
    advance
    expect "("
    let condition ← self.expression surroundings
    expect ")"
    let body ← self.loopBody surroundings
    return some (.loopWhile condition body)
  | "do" =>
    advance
    let body ← self.loopBody surroundings
    expectWord "while"
    expect "("
    let condition ← self.expression surroundings
    expect ")"
    let _ ← accept ";"
    return some (.loopUntil body condition)
  | "for" =>
    advance
    expect "("
    let loop ← self.loopSyntax surroundings
    return some loop
  | "switch" =>
    advance
    expect "("
    let subject ← self.expression surroundings
    expect ")"
    expect "\x7b"
    let cases ← self.switchCases surroundings
    return some (.choose subject cases)
  | "try" =>
    advance
    let attempt ← self.attemptSyntax surroundings
    return some attempt
  | "throw" =>
    advance
    if ← atLineStart then failure
    else
      let value ← self.expression surroundings
      endStatement
      return some (.raise value)
  | "return" =>
    advance
    if !surroundings.inFunction then failure
    else if (← atLineStart) || (← seesMark ";") || (← seesMark "\x7d") then
      endStatement
      return some (.leave none)
    else
      let value ← self.expression surroundings
      endStatement
      return some (.leave (some value))
  | "break" =>
    advance
    let label ← jumpLabel surroundings
    endStatement
    let allowed := match label with
      | some label => (surroundings.labels.lookup label).isSome
      | none => surroundings.inLoop || surroundings.inChoice
    if allowed then return some (.exit label) else failure
  | "continue" =>
    advance
    let label ← jumpLabel surroundings
    endStatement
    let allowed := surroundings.inLoop && match label with
      | some label => surroundings.labels.lookup label == some true
      | none => true
    if allowed then return some (.skip label) else failure
  | "debugger" =>
    advance
    endStatement
    return some .empty
  | "function" =>
    advance
    let code ← self.functionSyntax surroundings true
    return some (.function code)
  | _ => return none

/-- A statement or a declaration. -/
def statementRule (self : Grammar) (surroundings : Surroundings) : Syntactic Statement := do
  -- The first token decides, together with the one after it.
  let surroundings := { surroundings with allowsMembership := true }
  let tokens ← get
  match tokens with
  | .mk (.mark ";") _ :: _ =>
    advance
    return .empty
  | .mk (.mark "\x7b") _ :: _ =>
    let body ← self.blockSyntax surroundings
    return .block body
  | .mk (.word label) _ :: .mk (.mark ":") _ :: rest =>
    if !isNameHere surroundings label || (surroundings.labels.lookup label).isSome then failure
    else
      advance
      advance
      let labels := (label, labelsLoop rest) :: surroundings.labels
      let body ← self.plainStatement { surroundings with labels := labels }
      return .labelled label body
  | .mk (.word word) _ :: _ =>
    match ← self.wordStatement? surroundings word with
    | some statement => return statement
    | none =>
      match ← declarationKind? with
      | some kind =>
        let found ← self.bindings surroundings kind true
        endStatement
        return .declare kind found
      | none =>
        let value ← self.expression surroundings
        endStatement
        return .expression value
  | _ =>
    let value ← self.expression surroundings
    endStatement
    return .expression value

/-- The grammar for syntax of a limited depth. -/
def ofDepth : Nat → Grammar
  | 0 =>
    ⟨fun _ => failure, fun _ => failure, fun _ => failure, fun _ => failure, fun _ _ => failure⟩
  | depth + 1 =>
    { assignment := fun surroundings => (ofDepth depth).assignmentRule surroundings
      unary := fun surroundings => (ofDepth depth).unaryRule surroundings
      power := fun surroundings => (ofDepth depth).powerRule surroundings
      statement := fun surroundings => (ofDepth depth).statementRule surroundings
      pattern := fun surroundings isBinding =>
        (ofDepth depth).patternRule surroundings isBinding }

end Grammar

/-- The script that a text writes, or none for an error of syntax. -/
def parseProgram? (source : List Char) : Option Program := do
  -- Each level of nesting takes a token at least.
  let tokens ← tokensOf? source
  let isStrict := Grammar.startsStrict tokens
  let grammar := Grammar.ofDepth (4 * tokens.length + 8)
  let surroundings : Surroundings := ⟨isStrict, false, false, false, [], true⟩
  let step : Syntactic (Option Statement) := do
    if (← get).isEmpty then return none
    else
      let statement ← grammar.statement surroundings
      return some statement
  let (body, _) ← (Syntactic.collect step (tokens.length + 1)).run tokens
  if bodyClashes [] body then none else some ⟨body, isStrict⟩

end Script

end PipelineTrial
