import PipelineTrial.Script.Evaluation

/-! Executing statements. -/

namespace PipelineTrial

namespace Script

namespace Run

/-- Begins a turn of a loop, within the limit on the turns of a call. -/
def beginTurn : Run Unit := do
  -- The count may reach the limit before the turn that goes over it.
  let isOver ← modifyGet fun machine =>
    if machine.limits.turns < machine.turns then (true, machine)
    else (false, { machine with turns := machine.turns + 1 })
  if isOver then throw (.overrun (.turns (← get).limits.turns)) else return ()

end Run

/-- How a turn of a loop goes on: to another turn, or to the end of the loop. -/
inductive TurnEnd (α : Type) where
  | again (next : α)
  | done (completion : Completion)

/-- Repeats turns within a bound on their number. -/
def repeatTurns {α : Type} (turn : α → Run (TurnEnd α)) : Nat → α → Run Completion
  | 0, _ => throw .exhausted
  | bound + 1, current => do
    match ← turn current with
    | .again next => repeatTurns turn bound next
    | .done completion => return completion

/-- How a loop ends with the body of a turn, and none when it goes on. -/
def loopEnd (labels : List String) (completion : Completion) : Option Completion :=
  -- A jump to another label leaves the loop.
  match completion with
  | .normal => none
  | .skipped none => none
  | .skipped (some label) => if labels.contains label then none else some completion
  | .exited none => some .normal
  | other => some other

/-- The labels on a statement, and the statement under them. -/
def underLabels (labels : List String) : Statement → List String × Statement
  | .labelled label body => underLabels (label :: labels) body
  | other => (labels, other)

/-- The names along the chain of prototypes that loops over names visit, within a bound. -/
def listedNames (machine : Machine) (seen : List Units) : Nat → Option Address → List Units
  | 0, _ => []
  | _, none => []
  | bound + 1, some address =>
    -- A name hides the same one further on, also when it is not listed itself.
    let record := machine.object address
    let own := record.ownKeys.filter fun key => !seen.contains key
    let listed := own.filter fun key => (record.own? key).any (·.isEnumerable)
    listed ++ listedNames machine (own ++ seen) bound record.prototype

/-- The names of a declaration that stands at the start of a loop, if each turn has its own. -/
def turnNames : Option Statement → List String
  | some (.declare .blockScoped bindings) => declaredNames bindings
  | _ => []

namespace Interpreter

/-- Executes statements up to one that does not end normally. -/
def executeList (self : Interpreter) (surrounding : Surrounding) :
    List Statement → Run Completion
  | [] => return .normal
  | statement :: rest => do
    match ← self.execute surrounding statement with
    | .normal => executeList self surrounding rest
    | other => return other

/-- Executes a block. -/
def executeBlock (self : Interpreter) (surrounding : Surrounding) (body : List Statement) :
    Run Completion := do
  -- The block's names are declared first.
  self.executeList (← enterBlock surrounding body) body

/-- Declares names and gives them their first values. -/
def executeDeclaration (self : Interpreter) (surrounding : Surrounding) (kind : DeclarationKind) :
    List (Pattern × Option Expression) → Run Unit
  | [] => return ()
  | (target, value) :: rest => do
    match kind, value with
    | .functionScoped, none => pure ()
    | .functionScoped, some expression =>
      let content ← self.evaluateAs surrounding (shownName target) expression
      self.bindPattern surrounding .assigns content target
    | _, none => self.bindPattern surrounding (.declares false) .undefined target
    | _, some expression =>
      let content ← self.evaluateAs surrounding (shownName target) expression
      self.bindPattern surrounding (.declares (kind == .constant)) content target
    executeDeclaration self surrounding kind rest

/-- The truth of a condition, which holds when there is none. -/
def holds (self : Interpreter) (surrounding : Surrounding) (condition : Option Expression) :
    Run Bool := do
  -- Only loops may leave it out.
  match condition with
  | none => return true
  | some expression => return truth (← self.evaluate surrounding expression)

/-- One turn of a loop that checks its condition first. -/
def turnWhile (self : Interpreter) (surrounding : Surrounding) (labels : List String)
    (condition : Expression) (body : Statement) : Run (TurnEnd Unit) := do
  -- The condition itself belongs to the turn.
  Run.beginTurn
  if truth (← self.evaluate surrounding condition) then
    match loopEnd labels (← self.execute surrounding body) with
    | none => return .again ()
    | some completion => return .done completion
  else return .done .normal

/-- One turn of a loop that checks its condition last. -/
def turnUntil (self : Interpreter) (surrounding : Surrounding) (labels : List String)
    (body : Statement) (condition : Expression) : Run (TurnEnd Unit) := do
  -- The turn counts once its body is done.
  match loopEnd labels (← self.execute surrounding body) with
  | some completion => return .done completion
  | none =>
    Run.beginTurn
    if truth (← self.evaluate surrounding condition) then return .again () else return .done .normal

/-- The surrounding of the next turn, with the turn's own names copied. -/
def copyTurn (surrounding : Surrounding) (isCopied : Bool) : Run Surrounding := do
  -- Functions made in a turn keep that turn's values.
  if isCopied then
    let scope ← Run.openScope ((← get).scope surrounding.scope)
    return { surrounding with scope }
  else return surrounding

/-- One turn of a loop with a condition and an update. -/
def turnLoop (self : Interpreter) (labels : List String) (condition update : Option Expression)
    (body : Statement) (isCopied : Bool) (surrounding : Surrounding) :
    Run (TurnEnd Surrounding) := do
  -- The turn counts once its body is done, before the update.
  if ← self.holds surrounding condition then
    match loopEnd labels (← self.execute surrounding body) with
    | some completion => return .done completion
    | none =>
      Run.beginTurn
      let next ← copyTurn surrounding isCopied
      match update with
      | none => pure ()
      | some expression =>
        let _ ← self.evaluate next expression
        pure ()
      return .again next
  else return .done .normal

/-- Executes a loop with a start, a condition and an update. -/
def executeLoop (self : Interpreter) (surrounding : Surrounding) (labels : List String)
    (start : Option Statement) (condition update : Option Expression) (body : Statement) :
    Run Completion := do
  -- Names declared at the start have a scope around the whole loop.
  let inner ← match start with
    | some statement => enterBlock surrounding [statement]
    | none => pure surrounding
  match start with
  | some statement =>
    let _ ← self.execute inner statement
    pure ()
  | none => pure ()
  let isCopied := !(turnNames start).isEmpty
  let first ← copyTurn inner isCopied
  repeatTurns (self.turnLoop labels condition update body isCopied)
    ((← get).limits.turns + 2) first

/-- Gives an item to the target of a loop, in a scope of its own when the target is declared. -/
def bindTurn (self : Interpreter) (surrounding : Surrounding) (kind : Option DeclarationKind)
    (target : Pattern) (item : Value) : Run Surrounding := do
  -- Names declared for the whole function are assigned to.
  match kind with
  | none | some .functionScoped =>
    self.bindPattern surrounding .assigns item target
    return surrounding
  | some kind =>
    let scope ← Run.openScope ⟨[], some surrounding.scope, none⟩
    let inner := { surrounding with scope }
    for name in boundNames target do
      Run.setName scope name ⟨none, false⟩
    self.bindPattern inner (.declares (kind == .constant)) item target
    return inner

/-- One turn of a loop over the items of a value. -/
def turnItems (self : Interpreter) (surrounding : Surrounding) (labels : List String)
    (kind : Option DeclarationKind) (target : Pattern) (subject : Value) (body : Statement)
    (position : Nat) : Run (TurnEnd Nat) := do
  -- The turn that finds no item counts as well.
  Run.beginTurn
  match ← self.nextItem subject position with
  | none => return .done .normal
  | some (item, next) =>
    let inner ← self.bindTurn surrounding kind target item
    match loopEnd labels (← self.execute inner body) with
    | some completion => return .done completion
    | none => return .again next

/-- One turn of a loop over names, those left to visit given. -/
def turnNamesOf (self : Interpreter) (surrounding : Surrounding) (labels : List String)
    (kind : Option DeclarationKind) (target : Pattern) (subject : Address) (body : Statement)
    (names : List Units) : Run (TurnEnd (List Units)) := do
  -- Names deleted in the meantime are passed by.
  Run.beginTurn
  let machine ← get
  match names.dropWhile fun key => (machine.lookup? subject key).isNone with
  | [] => return .done .normal
  | key :: rest =>
    let inner ← self.bindTurn surrounding kind target (.text key)
    match loopEnd labels (← self.execute inner body) with
    | some completion => return .done completion
    | none => return .again rest

/-- Executes a loop over the names or items of a value. -/
def executeLoopOver (self : Interpreter) (surrounding : Surrounding) (labels : List String)
    (kind : Option DeclarationKind) (target : Pattern) (overNames : Bool) (expression : Expression)
    (body : Statement) : Run Completion := do
  -- Missing values have no names, but cannot be walked over.
  let subject ← self.evaluate surrounding expression
  let bound := (← get).limits.turns + 2
  if overNames then
    if isMissing subject then return .normal
    else
      let address ← toObject subject
      let machine ← get
      let names := listedNames machine [] (machine.objects.size + 1) (some address)
      repeatTurns (self.turnNamesOf surrounding labels kind target address body) bound names
  else
    requireWalkable subject
    repeatTurns (self.turnItems surrounding labels kind target subject body) bound 0

/-- The statements of cases from one on. -/
def caseBodies (cases : List SwitchCase) : List Statement :=
  -- Cases fall through to the next.
  cases.flatMap fun (.mk _ body) => body

/-- The cases from the one on whose test equals a value; none when no test does. -/
def findCase (self : Interpreter) (surrounding : Surrounding) (subject : Value) :
    List SwitchCase → Run (Option (List SwitchCase))
  | [] => return none
  | .mk none _ :: rest => findCase self surrounding subject rest
  | .mk (some test) body :: rest => do
    let value ← self.evaluate surrounding test
    if strictlyEqual subject value then return some (.mk (some test) body :: rest)
    else findCase self surrounding subject rest

/-- The cases from the default on. -/
def defaultCases : List SwitchCase → List SwitchCase
  | [] => []
  | .mk none body :: rest => .mk none body :: rest
  | .mk (some _) _ :: rest => defaultCases rest

/-- Executes a choice between cases. -/
def executeChoice (self : Interpreter) (surrounding : Surrounding) (expression : Expression)
    (cases : List SwitchCase) : Run Completion := do
  -- All cases share one scope.
  let subject ← self.evaluate surrounding expression
  let inner ← enterBlock surrounding (caseBodies cases)
  let chosen := (← self.findCase inner subject cases).getD (defaultCases cases)
  match ← self.executeList inner (caseBodies chosen) with
  | .exited none => return .normal
  | other => return other

/-- Executes a handler for a thrown value. -/
def executeHandler (self : Interpreter) (surrounding : Surrounding) (target : Option Pattern)
    (body : List Statement) (content : Value) : Run Completion := do
  -- The value's names stand in a scope around the handler.
  match target with
  | none => self.executeBlock surrounding body
  | some pattern =>
    let inner ← self.bindTurn surrounding (some .blockScoped) pattern content
    self.executeBlock inner body

/-- Executes a block with a handler for thrown values. -/
def executeGuarded (self : Interpreter) (surrounding : Surrounding) (body : List Statement)
    (handler : Option (Option Pattern × List Statement)) : Run Completion :=
  -- Limits cannot be caught.
  match handler with
  | none => self.executeBlock surrounding body
  | some (target, handlerBody) =>
    tryCatch (self.executeBlock surrounding body) fun
      | .thrown content => self.executeHandler surrounding target handlerBody content
      | halt => throw halt

/-- Executes a block with a handler and a cleanup that runs however they end. -/
def executeAttempt (self : Interpreter) (surrounding : Surrounding) (body : List Statement)
    (handler : Option (Option Pattern × List Statement)) (cleanup : Option (List Statement)) :
    Run Completion :=
  -- A cleanup that does not end normally decides the ending.
  match cleanup with
  | none => self.executeGuarded surrounding body handler
  | some cleanupBody => do
    let guarded : Run (Except Value Completion) := do
      return .ok (← self.executeGuarded surrounding body handler)
    let outcome ← tryCatch guarded fun
      | .thrown content => return .error content
      | halt => throw halt
    match ← self.executeBlock surrounding cleanupBody with
    | .normal =>
      match outcome with
      | .ok completion => return completion
      | .error content => Run.throwValue content
    | other => return other

/-- Executes a statement that may be a loop, under labels. -/
def executeLabelled (self : Interpreter) (surrounding : Surrounding) (labels : List String)
    (statement : Statement) : Run Completion :=
  -- Only loops know their labels.
  match statement with
  | .loopWhile condition body => do
    repeatTurns (fun _ => self.turnWhile surrounding labels condition body)
      ((← get).limits.turns + 2) ()
  | .loopUntil body condition => do
    repeatTurns (fun _ => self.turnUntil surrounding labels body condition)
      ((← get).limits.turns + 2) ()
  | .loop start condition update body =>
    self.executeLoop surrounding labels start condition update body
  | .loopOver kind target overNames subject body =>
    self.executeLoopOver surrounding labels kind target overNames subject body
  | other => self.execute surrounding other

/-- Executes a statement. -/
def executeRule (self : Interpreter) (surrounding : Surrounding) (statement : Statement) :
    Run Completion := do
  -- Each form of statement has its own rule.
  match statement with
  | .empty => return .normal
  | .function _ => return .normal
  | .expression value =>
    let _ ← self.evaluate surrounding value
    return .normal
  | .declare kind bindings =>
    self.executeDeclaration surrounding kind bindings
    return .normal
  | .leave none => return .left .undefined
  | .leave (some value) => return .left (← self.evaluate surrounding value)
  | .branch condition consequent alternative =>
    if truth (← self.evaluate surrounding condition) then self.execute surrounding consequent
    else
      match alternative with
      | some other => self.execute surrounding other
      | none => return .normal
  | .exit label => return .exited label
  | .skip label => return .skipped label
  | .raise value => Run.throwValue (← self.evaluate surrounding value)
  | .attempt body handler cleanup => self.executeAttempt surrounding body handler cleanup
  | .choose subject cases => self.executeChoice surrounding subject cases
  | .block body => self.executeBlock surrounding body
  | .labelled _ _ =>
    let (labels, inner) := underLabels [] statement
    match ← self.executeLabelled surrounding labels inner with
    | .exited (some label) =>
      return if labels.contains label then .normal else .exited (some label)
    | other => return other
  | loop => self.executeLabelled surrounding [] loop

end Interpreter

end Script

end PipelineTrial
