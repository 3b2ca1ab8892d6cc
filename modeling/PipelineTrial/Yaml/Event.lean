import PipelineTrial.Yaml.Token

/-! The events of a YAML document: nodes in reading order, with collections between a start and an end. -/

namespace PipelineTrial

namespace Yaml

/-- An event. -/
inductive Event where
  | alias (name : String)
  | scalar (anchor tag : Option String) (content : String) (isPlain : Bool)
  | sequenceStart (anchor tag : Option String)
  | sequenceEnd
  | mappingStart (anchor tag : Option String)
  | mappingEnd
  deriving DecidableEq

/-- A reader of events: the tokens left, the tag handles declared, and the events so far. -/
structure EventReader where
  tokens : List Token
  handles : List (String × String)
  events : Array Event

namespace EventReader

/-- The next token, where the end of the stream repeats. -/
def next (reader : EventReader) : Token := reader.tokens.head?.getD .streamEnd

/-- The reader after its next token. -/
def skip (reader : EventReader) : EventReader := { reader with tokens := reader.tokens.tail }

/-- The reader with an event added. -/
def emit (reader : EventReader) (event : Event) : EventReader :=
  -- Earlier events stay.
  { reader with events := reader.events.push event }

/-- The reader with a node that has no content. -/
def emitEmpty (reader : EventReader) : EventReader := reader.emit (.scalar none none "" true)

/-- The full tag of a handle and a suffix. -/
def resolveTag (reader : EventReader) (handle suffix : String) : Reading String :=
  -- A handle has to be declared, and no handle leaves the suffix.
  if handle.isEmpty then .ok suffix
  else
    match reader.handles.find? (·.1 = handle) with
    | some (_, tagPrefix) => .ok (tagPrefix ++ suffix)
    | none => .error .unknownTagHandle

/-- The anchor and the tag before a node, in either order. -/
def properties (reader : EventReader) : Reading (Option String × Option String × EventReader) := do
  -- Each may occur once.
  match reader.next with
  | .anchor name =>
    let reader := reader.skip
    match reader.next with
    | .tag handle suffix =>
      let tag ← reader.resolveTag handle suffix
      .ok (some name, some tag, reader.skip)
    | _ => .ok (some name, none, reader)
  | .tag handle suffix =>
    let tag ← reader.resolveTag handle suffix
    let reader := reader.skip
    match reader.next with
    | .anchor name => .ok (some name, some tag, reader.skip)
    | _ => .ok (none, some tag, reader)
  | _ => .ok (none, none, reader)

/-- Whether a token ends a value of a block mapping that has not started. -/
def endsMappingPart : Token → Bool
  | .key => true
  | .value => true
  | .blockEnd => true
  | _ => false

/-- Whether a token ends an entry between brackets that has not started. -/
def endsFlowPart (closing : Token) (token : Token) : Bool :=
  -- A comma or the closing bracket leaves the part empty.
  token == .flowEntry || token == closing

mutual

/-- The events of a node; blocks and lists without indentation are allowed only in their contexts. -/
def readNode (block indentless : Bool) : Nat → EventReader → Reading EventReader
  | 0, _ => .error .missingContent
  | bound + 1, reader =>
    match reader.next with
    | .alias name => .ok (reader.skip.emit (.alias name))
    | _ => do
      let (anchor, tag, reader) ← reader.properties
      match reader.next with
      | .blockEntry =>
        if indentless then
          readIndentlessItems bound (reader.emit (.sequenceStart anchor tag))
        else emptyNode anchor tag reader
      | .scalar content isPlain =>
        -- The lone mark means that a scalar is read as plain.
        if tag == some "!" then .ok (reader.skip.emit (.scalar anchor none content true))
        else .ok (reader.skip.emit (.scalar anchor tag content isPlain))
      | .flowSequenceStart =>
        readFlowItems true bound (reader.skip.emit (.sequenceStart anchor tag))
      | .flowMappingStart =>
        readFlowEntries true bound (reader.skip.emit (.mappingStart anchor tag))
      | .blockSequenceStart =>
        if block then readBlockItems bound (reader.skip.emit (.sequenceStart anchor tag))
        else emptyNode anchor tag reader
      | .blockMappingStart =>
        if block then readBlockEntries bound (reader.skip.emit (.mappingStart anchor tag))
        else emptyNode anchor tag reader
      | _ => emptyNode anchor tag reader

/-- The items of a block list. -/
def readBlockItems : Nat → EventReader → Reading EventReader
  | 0, _ => .error .missingEntry
  | bound + 1, reader =>
    match reader.next with
    | .blockEntry => do
      let reader := reader.skip
      let reader ←
        if reader.next == .blockEntry || reader.next == .blockEnd then .ok reader.emitEmpty
        else readNode true false bound reader
      readBlockItems bound reader
    | .blockEnd => .ok (reader.skip.emit .sequenceEnd)
    | _ => .error .missingEntry

/-- The items of a list that is no deeper than the key before it. -/
def readIndentlessItems : Nat → EventReader → Reading EventReader
  | 0, _ => .error .missingEntry
  | bound + 1, reader =>
    match reader.next with
    | .blockEntry => do
      let reader := reader.skip
      let reader ←
        if reader.next == .blockEntry || endsMappingPart reader.next then .ok reader.emitEmpty
        else readNode true false bound reader
      readIndentlessItems bound reader
    | _ => .ok (reader.emit .sequenceEnd)

/-- The entries of a block mapping, from a key on. -/
def readBlockEntries : Nat → EventReader → Reading EventReader
  | 0, _ => .error .missingEntry
  | bound + 1, reader =>
    match reader.next with
    | .key => do
      let reader := reader.skip
      let reader ←
        if endsMappingPart reader.next then .ok reader.emitEmpty
        else readNode true true bound reader
      let reader ←
        if reader.next == .value then
          let reader := reader.skip
          if endsMappingPart reader.next then .ok reader.emitEmpty
          else readNode true true bound reader
        else .ok reader.emitEmpty
      readBlockEntries bound reader
    | .blockEnd => .ok (reader.skip.emit .mappingEnd)
    | _ => .error .missingEntry

/-- The items of a list in brackets; all but the first follow a comma. -/
def readFlowItems (first : Bool) : Nat → EventReader → Reading EventReader
  | 0, _ => .error .missingEntry
  | bound + 1, reader =>
    if reader.next == .flowSequenceEnd then .ok (reader.skip.emit .sequenceEnd)
    else if !first && reader.next != .flowEntry then .error .missingEntry
    else
      let reader := if first then reader else reader.skip
      if reader.next == .key then do
        -- A key makes the item a mapping with one entry.
        let reader ← readSinglePair bound (reader.skip.emit (.mappingStart none none))
        readFlowItems false bound reader
      else if reader.next == .flowSequenceEnd then .ok (reader.skip.emit .sequenceEnd)
      else do
        let reader ← readNode false false bound reader
        readFlowItems false bound reader

/-- The one entry of a mapping that is an item of a list in brackets. -/
def readSinglePair : Nat → EventReader → Reading EventReader
  | 0, _ => .error .missingEntry
  | bound + 1, reader => do
    -- An empty key takes the token after it along.
    let reader ←
      if reader.next == .value || endsFlowPart .flowSequenceEnd reader.next then
        .ok reader.skip.emitEmpty
      else readNode false false bound reader
    let reader ←
      if reader.next == .value then
        let reader := reader.skip
        if endsFlowPart .flowSequenceEnd reader.next then .ok reader.emitEmpty
        else readNode false false bound reader
      else .ok reader.emitEmpty
    .ok (reader.emit .mappingEnd)

/-- The entries of a mapping in braces; all but the first follow a comma. -/
def readFlowEntries (first : Bool) : Nat → EventReader → Reading EventReader
  | 0, _ => .error .missingEntry
  | bound + 1, reader =>
    if reader.next == .flowMappingEnd then .ok (reader.skip.emit .mappingEnd)
    else if !first && reader.next != .flowEntry then .error .missingEntry
    else
      let reader := if first then reader else reader.skip
      if reader.next == .key then do
        let reader := reader.skip
        let reader ←
          if reader.next == .value || endsFlowPart .flowMappingEnd reader.next then
            .ok reader.emitEmpty
          else readNode false false bound reader
        let reader ←
          if reader.next == .value then
            let reader := reader.skip
            if endsFlowPart .flowMappingEnd reader.next then .ok reader.emitEmpty
            else readNode false false bound reader
          else .ok reader.emitEmpty
        readFlowEntries false bound reader
      else if reader.next == .flowMappingEnd then .ok (reader.skip.emit .mappingEnd)
      else do
        -- A node without a key mark has no value.
        let reader ← readNode false false bound reader
        readFlowEntries false bound reader.emitEmpty

/-- A node without content, which needs an anchor or a tag. -/
def emptyNode (anchor tag : Option String) (reader : EventReader) : Reading EventReader :=
  -- Properties alone make a node.
  if anchor.isSome || tag.isSome then .ok (reader.emit (.scalar anchor tag "" true))
  else .error .missingContent

end

/-- The handles that every document knows. -/
def defaultHandles : List (String × String) := [("!", "!"), ("!!", "tag:yaml.org,2002:")]

/-- The directives before a document, of which versions and handles may each be given once. -/
def readDirectives (versionSeen : Bool) (declared : List (String × String)) :
    Nat → EventReader → Reading EventReader
  | 0, _ => .error .badDirective
  | bound + 1, reader =>
    match reader.next with
    | .versionDirective major minor =>
      if versionSeen || major != 1 || (minor != 1 && minor != 2) then .error .badDirective
      else readDirectives true declared bound reader.skip
    | .tagDirective handle tagPrefix =>
      if declared.any (·.1 = handle) then .error .badDirective
      else readDirectives versionSeen ((handle, tagPrefix) :: declared) bound reader.skip
    | _ => .ok { reader with handles := declared ++ defaultHandles }

/-- Whether a token leaves a document without content. -/
def endsDocument : Token → Bool
  | .versionDirective _ _ => true
  | .tagDirective _ _ => true
  | .documentStart => true
  | .documentEnd => true
  | .streamEnd => true
  | _ => false

/-- The events of a document whose start is marked. -/
def readMarked (bound : Nat) (reader : EventReader) : Reading EventReader := do
  -- Directives need the mark after them.
  let reader ← readDirectives false [] bound reader
  if reader.next == .documentStart then
    let reader := reader.skip
    if endsDocument reader.next then .ok reader.emitEmpty else readNode true false bound reader
  else .error .missingDocumentStart

/-- The events of the first document. -/
def readDocument (bound : Nat) (reader : EventReader) : Reading EventReader :=
  -- Only the first document may do without a mark.
  match reader.next with
  | .streamEnd => .ok reader
  | .versionDirective _ _ => readMarked bound reader
  | .tagDirective _ _ => readMarked bound reader
  | .documentStart => readMarked bound reader
  | _ => readNode true false bound { reader with handles := defaultHandles }

end EventReader

/-- The events of a text that holds at most one document. -/
def events (text : String) : Reading (List Event) := do
  -- Each reading step takes a token, or follows one that did.
  let found ← tokens text
  let reader ← EventReader.readDocument (4 * found.length + 8) ⟨found, [], #[]⟩
  match reader.tokens.dropWhile (· == .documentEnd) with
  | [] => .ok reader.events.toList
  | [.streamEnd] => .ok reader.events.toList
  | _ => .error .severalDocuments

end Yaml

end PipelineTrial
