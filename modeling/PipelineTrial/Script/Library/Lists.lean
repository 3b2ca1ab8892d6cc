import PipelineTrial.Script.Library.Objects

/-! Ready-made functions and methods for lists. -/

namespace PipelineTrial

namespace Script

/-- The items of a list with a place for each position up to its length. -/
def fullItems (items : Array (Option Value)) (length : Nat) : Array (Option Value) :=
  -- Places behind the last item are holes.
  items ++ Array.replicate (length - items.size) none

/-- Items merged in order, of which the left one goes first unless the right one has to. -/
def mergeItems {σ : Type} (rightFirst : Value → Value → Run Bool) (finish : List Value → σ) :
    Nat → List Value → List Value → List Value → Run σ
  | 0, merged, left, right => return finish (merged.reverse ++ left ++ right)
  | bound + 1, merged, left, right =>
    match left, right with
    | [], rest => return finish (merged.reverse ++ rest)
    | rest, [] => return finish (merged.reverse ++ rest)
    | leftItem :: leftRest, rightItem :: rightRest => do
      if ← rightFirst leftItem rightItem then
        mergeItems rightFirst finish bound (rightItem :: merged) left rightRest
      else mergeItems rightFirst finish bound (leftItem :: merged) leftRest right

/-- Items in order with a further one, all in reverse: it moves past those that it has to precede. -/
def insertItem (rightFirst : Value → Value → Run Bool) (item : Value) : List Value → Run (List Value)
  | [] => return [item]
  | last :: earlier => do
    if ← rightFirst last item then
      let rest ← insertItem rightFirst item earlier
      return last :: rest
    else return item :: last :: earlier

/-- Items in order, in reverse, after further ones have been inserted one by one. -/
def insertItems (rightFirst : Value → Value → Run Bool) : List Value → List Value → Run (List Value)
  | reversed, [] => return reversed
  | reversed, item :: rest => do
    let reversed ← insertItem rightFirst item reversed
    insertItems rightFirst reversed rest

/-- Items in order, equal ones as they stood: short lists by insertion, and long ones by halving. -/
def sortItems (rightFirst : Value → Value → Run Bool) : Nat → List Value → Run (List Value)
  | 0, items => return items
  | bound + 1, items => do
    if items.length ≤ 20 then
      let reversed ← insertItems rightFirst [] items
      return reversed.reverse
    else
      let half := items.length / 2
      let left ← sortItems rightFirst bound (items.take half)
      let right ← sortItems rightFirst bound (items.drop half)
      mergeItems rightFirst id items.length [] left right

/-- How a scan goes on after an item. -/
inductive ScanStep (σ : Type) where
  | onward (state : σ)
  | stop (state : σ)

namespace Interpreter

/-- Whether a value has an item at a position. -/
def hasItem (value : Value) (position : Nat) : Run Bool := do
  -- Holes may be filled by prototypes.
  match value with
  | .object address =>
    let machine ← get
    match (machine.object address).kind with
    | .list items _ _ =>
      if (items[position]?).any Option.isSome then return true
      else return (machine.lookup? address (positionKey position)).isSome
    | _ => return (machine.lookup? address (positionKey position)).isSome
  | .text units => return position < units.length
  | _ => return false

/-- The item of a value at a position, or none for a hole. -/
def itemOrHole (self : Interpreter) (value : Value) (position : Nat) : Run (Option Value) := do
  -- A hole is not the same as undefined.
  if ← hasItem value position then
    let item ← self.readAt value position
    return some item
  else return none

/-- Visits items from a position on, holes included, until a visit stops. -/
def scan {σ : Type} (self : Interpreter) (value : Value)
    (visit : σ → Option Value → Nat → Run (ScanStep σ)) : Nat → Nat → σ → Run σ
  | 0, _, state => return state
  | remaining + 1, position, state => do
    let item ← self.itemOrHole value position
    match ← visit state item position with
    | .onward state => scan self value visit remaining (position + 1) state
    | .stop state => return state

/-- Visits items below a position from the last on, holes included, until a visit stops. -/
def scanBack {σ : Type} (self : Interpreter) (value : Value)
    (visit : σ → Option Value → Nat → Run (ScanStep σ)) : Nat → σ → Run σ
  | 0, state => return state
  | remaining + 1, state => do
    let item ← self.itemOrHole value remaining
    match ← visit state item remaining with
    | .onward state => scanBack self value visit remaining state
    | .stop state => return state

/-- Requires a function. -/
def requireFunction (value : Value) (message : String) : Run Unit := do
  -- The text names the method that needs it.
  if ← isCallable value then return () else Run.failType message

/-- What a function says about an item. -/
def ask (self : Interpreter) (function receiver subject item : Value) (position : Nat) : Run Value :=
  -- It is told the item, its position and the list.
  self.call function receiver [item, .number (.ofNat position), subject]

/-- The first present item that a function holds true of, when asked with the truth to look for. -/
def anyItem (self : Interpreter) (subject : Value) (length : Nat) (arguments : List Value)
    (wanted : Bool) : Run Bool :=
  -- Holes are passed by.
  self.scan subject (fun found item position => do
    match item with
    | none => return .onward found
    | some item =>
      if truth (← self.ask (argument arguments 0) (argument arguments 1) subject item position) == wanted
      then return .stop true
      else return .onward found) length 0 false

/-- One visit of a search: holes count as undefined. -/
def visitSearch (self : Interpreter) (subject : Value) (arguments : List Value)
    (found : Option (Value × Nat)) (item : Option Value) (position : Nat) :
    Run (ScanStep (Option (Value × Nat))) := do
  -- The search stops at the first hit.
  let item := item.getD .undefined
  if truth (← self.ask (argument arguments 0) (argument arguments 1) subject item position) then
    return .stop (some (item, position))
  else return .onward found

/-- The place of an item equal to a value, as a number that is negative when there is none. -/
def foundPosition (found : Option Nat) : Value :=
  -- Nothing found is minus one.
  match found with
  | some position => .number (.ofNat position)
  | none => .number (.whole (-1))

/-- The position of the first present item from a position on that equals a value. -/
def positionOf (self : Interpreter) (subject wanted : Value) (length start : Nat) :
    Run (Option Nat) :=
  -- Holes equal nothing.
  self.scan subject (fun found item position => do
    if item.any (strictlyEqual wanted) then return .stop (some position) else return .onward found)
    (length - start) start none

/-- Folds present items into a value, the first item standing in for a missing start. -/
def visitFold (self : Interpreter) (subject function : Value) (total : Option Value)
    (item : Option Value) (position : Nat) : Run (ScanStep (Option Value)) := do
  -- Holes are passed by.
  match total, item with
  | _, none => return .onward total
  | none, some item => return .onward (some item)
  | some total, some item =>
    let next ← self.call function .undefined [total, item, .number (.ofNat position), subject]
    return .onward (some next)

/-- The text of a value inside a joined list. -/
def joinText (self : Interpreter) (item : Option Value) : Run Units :=
  -- Missing items leave nothing.
  match item with
  | none => return []
  | some .undefined => return []
  | some .null => return []
  | some other => self.toText other

/-- The texts of items with a separator between them. -/
def joinItems (self : Interpreter) (subject : Value) (separator : Units) (length : Nat) :
    Run Units := do
  -- Texts are gathered from the last, then put together.
  let texts ← self.scan subject (fun texts item _ => do
    let text ← self.joinText item
    return ScanStep.onward (text :: texts)) length 0 []
  return separator.intercalate texts.reverse

/-- The items of a value spread into another list: the items of lists, and any other value itself. -/
def spreadItems (value : Value) : Run (Array (Option Value)) := do
  -- Holes stay.
  match value with
  | .object address =>
    match (← Run.object address).kind with
    | .list items length _ => return fullItems items length
    | _ => return #[some value]
  | other => return #[some other]

/-- The places of a list-like value from one position to before another. -/
def placesBetween (self : Interpreter) (subject : Value) (start stop : Nat) :
    Run (Array (Option Value)) :=
  -- Holes stay.
  self.scan subject (fun places item _ => return ScanStep.onward (places.push item))
    (stop - start) start #[]

/-- Requires a list that is free to change. -/
def requireFree (receiver : Value) : Run Unit := do
  -- Protection holds for all changes alike.
  match receiver with
  | .object address =>
    let machine ← get
    let record := machine.object address
    match record.kind with
    | .list _ _ protection =>
      if protection != .free || !record.isExtensible then
        Run.failType "cannot change the items of a protected list"
    | _ => Run.failType "not a list"
  | _ => Run.failType "not a list"

/-- Applies a change to the object that a value is. -/
def changeList (receiver : Value) (change : ObjectRecord → ObjectRecord) : Run Unit :=
  -- Other values have no items.
  match receiver with
  | .object address => Run.alter address change
  | _ => return ()

/-- Changes the places of a list as a whole, and gives back what the change gives. -/
def changePlaces (receiver : Value)
    (change : Array (Option Value) → Run (Array (Option Value) × Value)) : Run Value := do
  -- The list must be free to change.
  requireFree receiver
  match receiver with
  | .object address =>
    match (← Run.object address).kind with
    | .list items length protection =>
      let (places, answer) ← change (fullItems items length)
      Run.alter address fun record => { record with kind := .list places places.size protection }
      return answer
    | _ => return .undefined
  | _ => return .undefined

/-- Items of nested lists taken out of them, down to a depth. -/
def flatten (self : Interpreter) : Nat → List (Option Value) → Run (List (Option Value))
  | _, [] => return []
  | 0, places => return places.filter Option.isSome
  | depth + 1, place :: rest => do
    let tail ← flatten self (depth + 1) rest
    match place with
    | none => return tail
    | some item =>
      match item with
      | .object address =>
        match (← Run.object address).kind with
        | .list items _ _ =>
          let inner ← flatten self depth items.toList
          return inner ++ tail
        | _ => return place :: tail
      | _ => return place :: tail
termination_by depth places => (depth, places.length)

/-- Whether the right one of two items has to go first. -/
def sortsBefore (self : Interpreter) (comparator : Value) (left right : Value) : Run Bool := do
  -- Undefined goes last, and without a function the texts are compared.
  match left, right with
  | .undefined, .undefined => return false
  | .undefined, _ => return true
  | _, .undefined => return false
  | _, _ =>
    match comparator with
    | .undefined => return (← self.toText right).before (← self.toText left)
    | function =>
      let order ← self.toNumber (← self.call function .undefined [right, left])
      return order.less (.whole 0)

/-- The items of a list in order. -/
def sorted (self : Interpreter) (comparator : Value) (items : List Value) : Run (List Value) :=
  -- Halving takes no more steps than there are items.
  sortItems (self.sortsBefore comparator) items.length items

/-- Requires a function to compare with, or none. -/
def requireComparator (comparator : Value) : Run Unit :=
  -- Undefined compares texts.
  match comparator with
  | .undefined => return ()
  | other =>
    requireFunction other "The comparison function must be either a function or undefined"

/-- The count of items that a splice removes. -/
def removalCount (self : Interpreter) (arguments : List Value) (length start : Nat) : Run Nat := do
  -- Without a count all items behind the start go, and without a start none.
  match arguments with
  | [] => return 0
  | [_] => return length - start
  | _ =>
    let count ← self.toWhole (argument arguments 1)
    match count with
    | (some whole, _) => return min whole.toNat (length - start)
    | (none, isNegative) => return if isNegative then 0 else length - start

/-- A walk over a list. -/
def makeWalk (subject : Value) (view : WalkView) : Run Value := do
  -- It begins at the start.
  let address ← Run.make (ObjectRecord.bare (.walk subject (some 0) view) .walkPrototype)
  return .object address

/-- Places moved within a list, as far as it goes. -/
def copyPlaces (places : Array (Option Value)) (target start stop : Nat) : Array (Option Value) :=
  -- The moved part is read before anything is written.
  let moved := (places.extract start stop).extract 0 (places.size - target)
  places.extract 0 target ++ moved ++ places.extract (target + moved.size) places.size

/-- Runs a method of lists that calls a function on items. -/
def runVisitingMethod (self : Interpreter) (method : ListMethod) (subject : Value) (length : Nat)
    (arguments : List Value) : Run Value := do
  -- The function is the first argument, and its receiver the second.
  let function := argument arguments 0
  let ask (item : Value) (position : Nat) : Run Value :=
    self.ask function (argument arguments 1) subject item position
  match method with
  | .every =>
    requireFunction function "Array.prototype.every: callback is not callable"
    return .boolean (!(← self.anyItem subject length arguments false))
  | .some =>
    requireFunction function "Array.prototype.some: callback is not callable"
    return .boolean (← self.anyItem subject length arguments true)
  | .forEach =>
    requireFunction function "Array.prototype.forEach: invalid callback function"
    self.scan subject (fun _ item position => do
      match item with
      | none => return ScanStep.onward ()
      | some item =>
        let _ ← ask item position
        return .onward ()) length 0 ()
    return .undefined
  | .map =>
    requireFunction function "Array.prototype.map: Callbackfn is not callable"
    let places ← self.scan subject (fun places item position => do
      match item with
      | none => return ScanStep.onward (places.push none)
      | some item =>
        let content ← ask item position
        return .onward (places.push (some content))) length 0 #[]
    Run.makeSparse places
  | .filter =>
    requireFunction function "Array.prototype.filter: \x60callback\x60 must be callable"
    let places ← self.scan subject (fun places item position => do
      match item with
      | none => return ScanStep.onward places
      | some item =>
        if truth (← ask item position) then return .onward (places.push (some item))
        else return .onward places) length 0 #[]
    Run.makeSparse places
  | .flatMap =>
    requireFunction function "flatMap mapper function is not callable"
    let places ← self.scan subject (fun places item position => do
      match item with
      | none => return ScanStep.onward places
      | some item =>
        let content ← ask item position
        return .onward (places ++ (← spreadItems content).filter Option.isSome)) length 0 #[]
    Run.makeSparse places
  | .find | .findIndex =>
    requireFunction function "Array.prototype.find: predicate is not callable"
    let found ← self.scan subject (self.visitSearch subject arguments) length 0 none
    return if method == .find then (found.map (·.1)).getD .undefined
      else foundPosition (found.map (·.2))
  | .findLast | .findLastIndex =>
    requireFunction function "Array.prototype.findLast: predicate is not callable"
    let found ← self.scanBack subject (self.visitSearch subject arguments) length none
    return if method == .findLast then (found.map (·.1)).getD .undefined
      else foundPosition (found.map (·.2))
  | .reduce | .reduceRight =>
    requireFunction function "Array.prototype.reduce: callback function is not callable"
    let start := arguments[1]?
    let total ←
      if method == .reduce then self.scan subject (self.visitFold subject function) length 0 start
      else self.scanBack subject (self.visitFold subject function) length start
    match total with
    | some total => return total
    | none =>
      Run.failType "Array.prototype.reduce: called on an empty array and with no initial value"
  | _ => return .undefined

/-- Runs a method of lists that changes its receiver. -/
def runChangingMethod (self : Interpreter) (method : ListMethod) (subject : Value) (length : Nat)
    (arguments : List Value) : Run Value := do
  -- The new places are worked out as a whole.
  let first := argument arguments 0
  let given := (arguments.map some).toArray
  match method with
  | .push =>
    requireFree subject
    for item in arguments do
      changeList subject (·.pushItem item)
    return .number (.ofNat (length + given.size))
  | .unshift =>
    changePlaces subject fun places =>
      return (given ++ places, .number (.ofNat (places.size + given.size)))
  | .pop =>
    requireFree subject
    if length = 0 then return .undefined
    let last ← self.readAt subject (length - 1)
    changeList subject (·.popItem)
    return last
  | .shift =>
    changePlaces subject fun places =>
      return (places.extract 1 places.size, (places[0]?.join).getD .undefined)
  | .reverse => changePlaces subject fun places => return (places.reverse, subject)
  | .sort =>
    requireComparator first
    let items ← self.scan subject (fun items item _ => return ScanStep.onward (items ++ item.toList.toArray))
      length 0 #[]
    let items ← self.sorted first items.toList
    changePlaces subject fun places =>
      return (fullItems (items.map some).toArray places.size, subject)
  | .splice =>
    let start ← self.toPosition first length
    let count ← self.removalCount arguments length start
    let removed ← Run.makeSparse (← self.placesBetween subject start (start + count))
    changePlaces subject fun places =>
      return (places.extract 0 start ++ given.extract 2 given.size
        ++ places.extract (start + count) places.size, removed)
  | .fill =>
    let start ← self.toPosition (argument arguments 1) length
    let stop ← self.toEnd (argument arguments 2) length
    changePlaces subject fun places =>
      return (places.extract 0 start ++ Array.replicate (stop - start) (some first)
        ++ places.extract (max start stop) places.size, subject)
  | .copyWithin =>
    let target ← self.toPosition first length
    let start ← self.toPosition (argument arguments 1) length
    let stop ← self.toEnd (argument arguments 2) length
    changePlaces subject fun places => return (copyPlaces places target start stop, subject)
  | _ => return .undefined

/-- Runs a method of lists. -/
def runListMethod (self : Interpreter) (method : ListMethod) (receiver : Value)
    (arguments : List Value) : Run Value := do
  -- Receivers other than objects are used as objects.
  let subject := Value.object (← toObject receiver)
  let length ← self.lengthOf subject
  let first := argument arguments 0
  match method with
  | .at =>
    match ← self.toWhole first with
    | (some whole, _) =>
      let position := if whole < 0 then length + whole else whole
      if position < 0 || (length : Int) ≤ position then return .undefined
      else self.readAt subject position.toNat
    | (none, _) => return .undefined
  | .concat =>
    let parts ← (subject :: arguments).mapM spreadItems
    Run.makeSparse (parts.foldl (· ++ ·) #[])
  | .entries => makeWalk subject .entries
  | .keys => makeWalk subject .keys
  | .values => makeWalk subject .values
  | .flat =>
    let depth ← match first with
      | .undefined => pure 1
      | other => do
        match ← self.toWhole other with
        | (some whole, _) => pure whole.toNat
        | (none, true) => pure 0
        | (none, false) => do
          let machine ← get
          pure machine.objects.size
    let places ← self.placesBetween subject 0 length
    Run.makeSparse (← self.flatten depth places.toList).toArray
  | .includes =>
    let start ← self.toPosition (argument arguments 1) length
    let found ← self.scan subject (fun found item _ => do
      if sameValueZero (item.getD .undefined) first then return .stop true
      else return ScanStep.onward found) (length - start) start false
    return .boolean found
  | .indexOf =>
    let start ← self.toPosition (argument arguments 1) length
    return foundPosition (← self.positionOf subject first length start)
  | .lastIndexOf =>
    let stop ← match arguments[1]? with
      | none => pure length
      | some given => do
        match ← self.toWhole given with
        | (some whole, _) =>
          pure (if whole < 0 then (length + whole + 1).toNat else min (whole.toNat + 1) length)
        | (none, isNegative) => pure (if isNegative then 0 else length)
    let found ← self.scanBack subject (fun found item position => do
      if item.any (strictlyEqual first) then return .stop (some position)
      else return ScanStep.onward found) stop none
    return foundPosition found
  | .join =>
    let separator ← match first with
      | .undefined => pure [44]
      | other => self.toText other
    return .text (← self.joinItems subject separator length)
  | .slice =>
    let start ← self.toPosition first length
    let stop ← self.toEnd (argument arguments 1) length
    Run.makeSparse (← self.placesBetween subject start stop)
  | .toString =>
    let join ← self.read subject (Units.ofString "join")
    if ← isCallable join then self.call join subject []
    else self.runObjectMethod .toString subject []
  | .toLocaleString =>
    let texts ← self.scan subject (fun texts item _ => do
      match item with
      | none | some .undefined | some .null => return ScanStep.onward ([] :: texts)
      | some other =>
        let text ← self.toText (← self.invoke other (Units.ofString "toLocaleString") [])
        return .onward (text :: texts)) length 0 []
    return .text (List.intercalate [44] texts.reverse)
  | .toReversed =>
    let places ← self.placesBetween subject 0 length
    Run.makeSparse (places.reverse.map fun item => some (item.getD .undefined))
  | .toSorted =>
    requireComparator first
    Run.makeList (← self.sorted first (← self.listItems subject length 0))
  | .toSpliced =>
    let start ← self.toPosition first length
    let count ← self.removalCount arguments length start
    let items ← self.listItems subject length 0
    Run.makeList (items.take start ++ arguments.drop 2 ++ items.drop (start + count))
  | .withItem =>
    let items ← self.listItems subject length 0
    match ← self.toWhole first with
    | (some whole, _) =>
      let position := if whole < 0 then length + whole else whole
      if position < 0 || (length : Int) ≤ position then Run.fail .rangeError "invalid index"
      else Run.makeList (items.set position.toNat (argument arguments 1))
    | (none, _) => Run.fail .rangeError "invalid index"
  | .push | .unshift | .pop | .shift | .reverse | .sort | .splice | .fill | .copyWithin =>
    self.runChangingMethod method subject length arguments
  | _ => self.runVisitingMethod method subject length arguments

/-- Runs the method of walks. -/
def runWalkMethod (self : Interpreter) (receiver : Value) : Run Value := do
  -- The answer tells whether the walk has ended.
  match receiver with
  | .object address =>
    let step ← self.stepWalk address
    Run.makeObject [(Units.ofString "value", .plain (step.getD .undefined)),
      (Units.ofString "done", .plain (.boolean step.isNone))]
  | _ => Run.failType "not a walk"

/-- The items that a list is made from: those of a value that can be walked over, or list-like ones. -/
def sourceItems (self : Interpreter) (value : Value) : Run (List Value) := do
  -- Missing values are refused.
  if isMissing value then Run.failMissing
  else if ← isWalkable value then self.itemsOf value
  else
    let source := Value.object (← toObject value)
    self.listItems source (← self.lengthOf source) 0

/-- Runs a function over lists. -/
def runListOperation (self : Interpreter) (operation : ListOperation) (arguments : List Value) :
    Run Value := do
  -- The first argument is the list in question.
  let first := argument arguments 0
  match operation with
  | .isArray =>
    match first with
    | .object address =>
      match (← Run.object address).kind with
      | .list _ _ _ => return .boolean true
      | _ => return .boolean false
    | _ => return .boolean false
  | .ofItems => Run.makeList arguments
  | .fromItems =>
    let items ← self.sourceItems first
    match argument arguments 1 with
    | .undefined => Run.makeList items
    | function =>
      requireFunction function "Array.from: mapper function is not callable"
      Run.makeList (← items.zipIdx.mapM fun (item, position) =>
        self.call function (argument arguments 2) [item, .number (.ofNat position)])

/-- Makes a list: of a length, or of items. -/
def makeListObject (arguments : List Value) : Run Value := do
  -- A single number is a length.
  match arguments with
  | [.number number] =>
    match lengthOf? number with
    | some length =>
      let address ← Run.make (ObjectRecord.bare (.list #[] length .free) .listPrototype)
      return .object address
    | none => Run.fail .rangeError "invalid array length"
  | items => Run.makeList items

end Interpreter

/-- The functions over lists by name. -/
def listOperations : BuiltinTable ListOperation :=
  [("from", 1, .fromItems), ("isArray", 1, .isArray), ("of", 0, .ofItems)]

/-- The methods of lists by name. -/
def listMethods : BuiltinTable ListMethod :=
  [("at", 1, .at), ("concat", 1, .concat), ("copyWithin", 2, .copyWithin), ("entries", 0, .entries),
    ("every", 1, .every), ("fill", 1, .fill), ("filter", 1, .filter), ("find", 1, .find),
    ("findIndex", 1, .findIndex), ("findLast", 1, .findLast), ("findLastIndex", 1, .findLastIndex),
    ("flat", 0, .flat), ("flatMap", 1, .flatMap), ("forEach", 1, .forEach), ("includes", 1, .includes),
    ("indexOf", 1, .indexOf), ("join", 1, .join), ("keys", 0, .keys), ("lastIndexOf", 1, .lastIndexOf),
    ("map", 1, .map), ("pop", 0, .pop), ("push", 1, .push), ("reduce", 1, .reduce),
    ("reduceRight", 1, .reduceRight), ("reverse", 0, .reverse), ("shift", 0, .shift),
    ("slice", 2, .slice), ("some", 1, .some), ("sort", 1, .sort), ("splice", 2, .splice),
    ("toLocaleString", 0, .toLocaleString), ("toReversed", 0, .toReversed),
    ("toSorted", 1, .toSorted), ("toSpliced", 2, .toSpliced), ("toString", 0, .toString),
    ("unshift", 1, .unshift), ("values", 0, .values), ("with", 2, .withItem)]

/-- The methods of walks by name. -/
def walkMethods : BuiltinTable WalkMethod := [("next", 0, .next)]

end Script

end PipelineTrial
