import PipelineTrial.Yaml.Scalar

/-! The tokens of YAML text, where a key is recognised only once its colon is found. -/

namespace PipelineTrial

namespace Yaml

/-- A token. -/
inductive Token where
  | versionDirective (major minor : Nat)
  | tagDirective (handle tagPrefix : String)
  | documentStart
  | documentEnd
  | blockSequenceStart
  | blockMappingStart
  | blockEnd
  | flowSequenceStart
  | flowSequenceEnd
  | flowMappingStart
  | flowMappingEnd
  | blockEntry
  | flowEntry
  | key
  | value
  | alias (name : String)
  | anchor (name : String)
  | tag (handle suffix : String)
  | scalar (content : String) (isPlain : Bool)
  | streamEnd
  deriving DecidableEq

/-- A token that turns into a key if a colon follows it in time. -/
structure KeyCandidate where
  required : Bool
  position : Nat
  index : Nat
  line : Nat
  column : Nat

/-- The state of a reader of tokens. -/
structure TokenReader where
  cursor : Cursor
  indentation : Int
  outer : List Int
  flowDepth : Nat
  keyAllowed : Bool
  /-- One candidate for each open bracket, the innermost first, and one for the block. -/
  candidates : List (Option KeyCandidate)
  tokens : Array Token

namespace TokenReader

/-- The reader with a token added at the end. -/
def push (reader : TokenReader) (token : Token) : TokenReader :=
  -- Earlier tokens stay.
  { reader with tokens := reader.tokens.push token }

/-- The reader with a token put before the one at a position. -/
def insertAt (reader : TokenReader) (position : Nat) (token : Token) : TokenReader :=
  -- A position past the end adds at the end.
  { reader with
    tokens := reader.tokens.extract 0 position ++ #[token]
      ++ reader.tokens.extract position reader.tokens.size }

/-- Whether brackets are open. -/
def inFlow (reader : TokenReader) : Bool := reader.flowDepth != 0

/-- The current candidate. -/
def candidate? (reader : TokenReader) : Option KeyCandidate := reader.candidates.head?.join

/-- The reader with its current candidate replaced. -/
def setCandidate (reader : TokenReader) (candidate : Option KeyCandidate) : TokenReader :=
  -- Candidates of outer brackets stay.
  { reader with candidates := candidate :: reader.candidates.tail }

/-- The reader without its current candidate, which must not be one that had to become a key. -/
def dropCandidate (reader : TokenReader) : Reading TokenReader :=
  -- A line that starts a block entry needs its colon.
  if reader.candidate?.any (·.required) then .error .missingKeyEnd
  else .ok (reader.setCandidate none)

/-- The reader with the position as its candidate, where keys are allowed. -/
def saveCandidate (reader : TokenReader) : Reading TokenReader :=
  -- A candidate at the block's own column is required.
  if reader.keyAllowed then do
    let reader ← reader.dropCandidate
    let cursor := reader.cursor
    .ok (reader.setCandidate (some
      { required := !reader.inFlow && reader.indentation == (cursor.column : Int)
        position := reader.tokens.size
        index := cursor.index
        line := cursor.line
        column := cursor.column }))
  else .ok reader

/-- The candidates that are still on the line and within 1024 characters; a required one must be. -/
def keepFresh (cursor : Cursor) :
    List (Option KeyCandidate) → Reading (List (Option KeyCandidate))
  | [] => .ok []
  | none :: rest => do
    let kept ← keepFresh cursor rest
    .ok (none :: kept)
  | some candidate :: rest =>
    -- Candidates grow stale at the end of their line.
    if candidate.line < cursor.line || candidate.index + 1024 < cursor.index then
      if candidate.required then .error .missingKeyEnd
      else do
        let kept ← keepFresh cursor rest
        .ok (none :: kept)
    else do
      let kept ← keepFresh cursor rest
      .ok (some candidate :: kept)

/-- The reader after a block is opened at a column, if it lies deeper, with its token at a position. -/
def openBlock (reader : TokenReader) (column : Nat) (position : Nat) (token : Token) : TokenReader :=
  -- Brackets suspend indentation.
  if !reader.inFlow && reader.indentation < (column : Int) then
    ({ reader with outer := reader.indentation :: reader.outer, indentation := column }).insertAt
      position token
  else reader

/-- The reader after all blocks deeper than a column are closed. -/
def closeBlocks (reader : TokenReader) (column : Int) : TokenReader :=
  -- Brackets suspend indentation.
  if reader.inFlow then reader else go reader.outer reader
where
  go : List Int → TokenReader → TokenReader
    | [], reader => reader
    | indentation :: outer, reader =>
      if column < reader.indentation then
        go outer ({ reader with indentation := indentation, outer := outer }.push .blockEnd)
      else reader

/-- The reader at the next character that belongs to a token. -/
def skipToToken : Nat → TokenReader → TokenReader
  | 0, reader => reader
  | bound + 1, reader =>
    -- A tab counts as a blank only where no key may start.
    let tabs := reader.inFlow || !reader.keyAllowed
    let cursor :=
      (reader.cursor.skipWhile fun char => char == ' ' || (tabs && char == '\t')).skipComment
    if cursor.seesBreak 0 then
      skipToToken bound
        { reader with cursor := cursor.skipLine, keyAllowed := reader.keyAllowed || !reader.inFlow }
    else { reader with cursor := cursor }

/-- The reader moved on by a number of characters, with keys allowed or not. -/
def advance (reader : TokenReader) (count : Nat) (keyAllowed : Bool) : TokenReader :=
  -- The characters belong to one line.
  { reader with cursor := reader.cursor.skipMany count, keyAllowed := keyAllowed }

/-- A run of at most nine digits. -/
def readVersionNumber (cursor : Cursor) : Reading (Nat × Cursor) :=
  -- At least one digit is needed.
  let (digits, cursor) := cursor.takeWhile Char.isDigit
  if digits.isEmpty || 9 < digits.length then .error .badDirective
  else .ok (digits.foldl (fun total digit => total * 10 + (digit.toNat - 48)) 0, cursor)

/-- An octet written as two hexadecimal digits after a percent sign. -/
def readOctet (cursor : Cursor) : Reading (Nat × Cursor) := do
  -- The sign must be there.
  if cursor.sees '%' 0 then
    match readHex 2 0 cursor.skip with
    | .ok result => .ok result
    | .error _ => .error .badTag
  else .error .badTag

/-- The octets that continue a character. -/
def readContinuation : Nat → Nat → Cursor → Reading (Nat × Cursor)
  | 0, code, cursor => .ok (code, cursor)
  | count + 1, code, cursor => do
    let (octet, cursor) ← readOctet cursor
    if octet / 64 == 2 then readContinuation count (code * 64 + octet % 64) cursor
    else .error .badTag

/-- A character written as escaped octets of its UTF-8 form. -/
def readEscapedChar (cursor : Cursor) : Reading (Char × Cursor) := do
  -- The first octet tells how many follow.
  let (octet, cursor) ← readOctet cursor
  if octet < 128 then .ok (Char.ofNat octet, cursor)
  else
    let (code, cursor) ←
      if octet / 32 == 6 then readContinuation 1 (octet % 32) cursor
      else if octet / 16 == 14 then readContinuation 2 (octet % 16) cursor
      else if octet / 8 == 30 then readContinuation 3 (octet % 8) cursor
      else .error .badTag
    .ok (Char.ofNat code, cursor)

/-- A character of a tag, where the flow indicators count only in a verbatim one. -/
def isTagChar (verbatim : Bool) (char : Char) : Bool :=
  -- The set is that of addresses.
  isWord char || char == ';' || char == '/' || char == '?' || char == ':' || char == '@'
    || char == '&' || char == '=' || char == '+' || char == '$' || char == '.' || char == '!'
    || char == '~' || char == '*' || char == '\x27' || char == '(' || char == ')'
    || (verbatim && (char == ',' || char == '[' || char == ']'))

/-- The characters of a tag from a position on. -/
def readTagChars (verbatim : Bool) : Nat → Cursor → List Char → Reading (List Char × Cursor)
  | 0, cursor, taken => .ok (taken.reverse, cursor)
  | bound + 1, cursor, taken =>
    match cursor.peek? 0 with
    | some char =>
      if char == '%' then do
        let (escaped, cursor) ← readEscapedChar cursor
        readTagChars verbatim bound cursor (escaped :: taken)
      else if isTagChar verbatim char then readTagChars verbatim bound cursor.skip (char :: taken)
      else .ok (taken.reverse, cursor)
    | none => .ok (taken.reverse, cursor)

/-- A handle: an exclamation mark, a word, and a second mark if it is there. -/
def readHandle (cursor : Cursor) : Reading (List Char × Cursor) :=
  -- The second mark makes a full handle.
  if cursor.sees '!' 0 then
    let (word, cursor) := cursor.skip.takeWhile isWord
    if cursor.sees '!' 0 then .ok ('!' :: (word ++ ['!']), cursor.skip)
    else .ok ('!' :: word, cursor)
  else .error .badTag

/-- A tag in any of its three forms, as a handle and a suffix. -/
def readTag (inFlow : Bool) (cursor : Cursor) : Reading (Token × Cursor) := do
  -- A verbatim tag has no handle, and neither has the lone mark.
  let (token, cursor) ←
    if cursor.sees '<' 1 then do
      let (suffix, cursor) ← readTagChars true (cursor.rest.length + 1) (cursor.skipMany 2) []
      if suffix.isEmpty || !cursor.sees '>' 0 then .error .badTag
      else .ok (Token.tag "" (String.ofList suffix), cursor.skip)
    else do
      let (handle, cursor) ← readHandle cursor
      let isFull := 1 < handle.length && handle.getLast? == some '!'
      let (suffix, cursor) ← readTagChars false (cursor.rest.length + 1) cursor []
      if isFull then
        if suffix.isEmpty then .error .badTag
        else .ok (Token.tag (String.ofList handle) (String.ofList suffix), cursor)
      else
        let suffix := handle.tail ++ suffix
        if suffix.isEmpty then .ok (Token.tag "" "!", cursor)
        else .ok (Token.tag "!" (String.ofList suffix), cursor)
  if (inFlow && cursor.sees ',' 0) || cursor.seesGap 0 then .ok (token, cursor)
  else .error .badTag

/-- The name of an anchor or alias. -/
def readName (cursor : Cursor) : Reading (String × Cursor) :=
  -- A name must be followed by a gap or an indicator.
  let (word, cursor) := cursor.takeWhile isWord
  let ended := cursor.seesGap 0
    || ['?', ':', ',', ']', '}', '%', '@', '\x60'].any fun char => cursor.sees char 0
  if word.isEmpty || !ended then .error .badName else .ok (String.ofList word, cursor)

/-- A directive after its percent sign. -/
def readDirective (cursor : Cursor) : Reading (Token × Cursor) := do
  -- Only versions and tag handles can be declared.
  let (name, cursor) := cursor.takeWhile isWord
  if !cursor.seesGap 0 then .error .badDirective
  else
    let (token, cursor) ←
      match String.ofList name with
      | "YAML" => do
        let (major, cursor) ← readVersionNumber (cursor.skipWhile isLineBlank)
        if cursor.sees '.' 0 then
          let (minor, cursor) ← readVersionNumber cursor.skip
          .ok (Token.versionDirective major minor, cursor)
        else .error .badDirective
      | "TAG" => do
        let (handle, cursor) ← readHandle (cursor.skipWhile isLineBlank)
        if (handle.length != 1 && handle.getLast? != some '!') || !cursor.seesBlank 0 then
          .error .badDirective
        else
          let start := cursor.skipWhile isLineBlank
          let (tagPrefix, cursor) ← readTagChars true (start.rest.length + 1) start []
          if tagPrefix.isEmpty || !cursor.seesGap 0 then .error .badDirective
          else .ok (Token.tagDirective (String.ofList handle) (String.ofList tagPrefix), cursor)
      | _ => .error .badDirective
    let cursor := (cursor.skipWhile isLineBlank).skipComment
    if cursor.seesLineEnd 0 then .ok (token, cursor.skipLine) else .error .missingLineBreak

/-- The reader at the end of the text, with all blocks closed. -/
def finish (reader : TokenReader) : Reading TokenReader := do
  -- No key can follow.
  let reader ← (reader.closeBlocks (-1)).dropCandidate
  .ok (reader.push .streamEnd)

/-- The reader after a document marker. -/
def marker (reader : TokenReader) (token : Token) : Reading TokenReader := do
  -- Markers close all blocks.
  let reader ← (reader.closeBlocks (-1)).dropCandidate
  .ok ((reader.advance 3 false).push token)

/-- The reader after a directive. -/
def directive (reader : TokenReader) : Reading TokenReader := do
  -- Directives close all blocks.
  let reader ← (reader.closeBlocks (-1)).dropCandidate
  let (token, cursor) ← readDirective reader.cursor.skip
  .ok ({ reader with cursor := cursor, keyAllowed := false }.push token)

/-- The reader after an opening bracket. -/
def openFlow (reader : TokenReader) (token : Token) : Reading TokenReader := do
  -- A bracket may start a key and holds keys of its own.
  let reader ← reader.saveCandidate
  let reader := { reader with candidates := none :: reader.candidates, flowDepth := reader.flowDepth + 1 }
  .ok ((reader.advance 1 true).push token)

/-- The reader after a closing bracket. -/
def closeFlow (reader : TokenReader) (token : Token) : Reading TokenReader := do
  -- A bracket too many closes nothing here.
  let reader ← reader.dropCandidate
  let reader :=
    if reader.inFlow then
      { reader with candidates := reader.candidates.tail, flowDepth := reader.flowDepth - 1 }
    else reader
  .ok ((reader.advance 1 false).push token)

/-- The reader after a comma between brackets. -/
def flowEntry (reader : TokenReader) : Reading TokenReader := do
  -- The next entry may be a key.
  let reader ← reader.dropCandidate
  .ok ((reader.advance 1 true).push .flowEntry)

/-- The reader after the hyphen of a list item. -/
def blockEntry (reader : TokenReader) : Reading TokenReader := do
  -- A hyphen between brackets is left to the grammar.
  if !reader.inFlow && !reader.keyAllowed then .error .misplacedEntry
  else
    let reader := reader.openBlock reader.cursor.column reader.tokens.size .blockSequenceStart
    let reader ← reader.dropCandidate
    .ok ((reader.advance 1 true).push .blockEntry)

/-- The reader after the mark of a complex key. -/
def complexKey (reader : TokenReader) : Reading TokenReader := do
  -- The key itself may be a mapping in a block.
  if !reader.inFlow && !reader.keyAllowed then .error .misplacedKey
  else
    let reader := reader.openBlock reader.cursor.column reader.tokens.size .blockMappingStart
    let reader ← reader.dropCandidate
    .ok ((reader.advance 1 (!reader.inFlow)).push .key)

/-- The reader after the colon of a value. -/
def valueMark (reader : TokenReader) : Reading TokenReader :=
  -- A candidate becomes the key, at the place where it started.
  match reader.candidate? with
  | some candidate =>
    let reader := reader.insertAt candidate.position .key
    let reader := reader.openBlock candidate.column candidate.position .blockMappingStart
    .ok (((reader.setCandidate none).advance 1 false).push .value)
  | none =>
    if !reader.inFlow && !reader.keyAllowed then .error .misplacedValue
    else
      let reader := reader.openBlock reader.cursor.column reader.tokens.size .blockMappingStart
      .ok ((reader.advance 1 (!reader.inFlow)).push .value)

/-- The reader after a token that may start a key. -/
def keyStart (reader : TokenReader) (read : Cursor → Reading (Token × Cursor)) :
    Reading TokenReader := do
  -- What follows it on the line starts no key.
  let reader ← reader.saveCandidate
  let (token, cursor) ← read reader.cursor
  .ok ({ reader with cursor := cursor, keyAllowed := false }.push token)

/-- The reader after a plain scalar. -/
def plainScalar (reader : TokenReader) : Reading TokenReader := do
  -- A scalar that ended on a new line lets a key follow.
  let reader ← reader.saveCandidate
  let cursor := reader.cursor
  let (content, broken, cursor) ← readPlain reader.inFlow (reader.indentation + 1).toNat
    (cursor.rest.length + 1) cursor Gap.none []
  .ok ({ reader with cursor := cursor, keyAllowed := broken }.push
    (.scalar (String.ofList content) true))

/-- The reader after a block scalar. -/
def blockScalar (reader : TokenReader) (folding : Bool) : Reading TokenReader := do
  -- A key may follow on the next line.
  let reader ← reader.dropCandidate
  let (content, cursor) ← readBlock folding reader.indentation reader.cursor.skip
  .ok ({ reader with cursor := cursor, keyAllowed := true }.push
    (.scalar (String.ofList content) false))

/-- A character that can start no plain scalar. -/
def isIndicator (char : Char) : Bool :=
  -- Every indicator of the grammar is reserved at the start of a token.
  ['-', '?', ':', ',', '[', ']', '{', '}', '#', '&', '*', '!', '|', '>', '\x27', '"', '%', '@',
    '\x60'].contains char

/-- Whether a plain scalar starts at a position. -/
def startsPlain (inFlow : Bool) (cursor : Cursor) (char : Char) : Bool :=
  -- Three indicators may start one when no gap follows.
  (!isLineBlank char && !isIndicator char) || (char == '-' && !cursor.seesBlank 1)
    || (!inFlow && (char == '?' || char == ':') && !cursor.seesGap 1)

/-- The reader after the token at its position. -/
def readToken (reader : TokenReader) (char : Char) : Reading TokenReader :=
  -- The first character decides, together with what follows it.
  let cursor := reader.cursor
  if cursor.column == 0 && char == '%' then reader.directive
  else if cursor.seesMarker '-' then reader.marker .documentStart
  else if cursor.seesMarker '.' then reader.marker .documentEnd
  else if char == '[' then reader.openFlow .flowSequenceStart
  else if char == '{' then reader.openFlow .flowMappingStart
  else if char == ']' then reader.closeFlow .flowSequenceEnd
  else if char == '}' then reader.closeFlow .flowMappingEnd
  else if char == ',' then reader.flowEntry
  else if char == '-' && cursor.seesGap 1 then reader.blockEntry
  else if char == '?' && (reader.inFlow || cursor.seesGap 1) then reader.complexKey
  else if char == ':' && (reader.inFlow || cursor.seesGap 1) then reader.valueMark
  else if char == '*' then
    reader.keyStart fun cursor => do
      let (name, cursor) ← readName cursor.skip
      .ok (.alias name, cursor)
  else if char == '&' then
    reader.keyStart fun cursor => do
      let (name, cursor) ← readName cursor.skip
      .ok (.anchor name, cursor)
  else if char == '!' then reader.keyStart (readTag reader.inFlow)
  else if char == '|' && !reader.inFlow then reader.blockScalar false
  else if char == '>' && !reader.inFlow then reader.blockScalar true
  else if char == '\x27' || char == '"' then
    reader.keyStart fun cursor => do
      let (content, cursor) ← readQuoted char (cursor.rest.length + 1) cursor.skip []
      .ok (.scalar (String.ofList content) false, cursor)
  else if startsPlain reader.inFlow cursor char then reader.plainScalar
  else .error .unexpectedCharacter

/-- The tokens from a reader on. -/
def readAll : Nat → TokenReader → Reading (List Token)
  | 0, _ => .error .unexpectedCharacter
  | bound + 1, reader => do
    -- Stale candidates go first, then blocks that the column ends.
    let reader := skipToToken (reader.cursor.rest.length + 1) reader
    let candidates ← keepFresh reader.cursor reader.candidates
    let reader := { reader with candidates := candidates }.closeBlocks reader.cursor.column
    match reader.cursor.peek? 0 with
    | none =>
      let reader ← reader.finish
      .ok reader.tokens.toList
    | some char =>
      let reader ← reader.readToken char
      readAll bound reader

end TokenReader

/-- The tokens of a text. -/
def tokens (text : String) : Reading (List Token) :=
  -- Every token takes at least one character.
  let chars := text.toList
  if chars.all isAllowed then
    TokenReader.readAll (chars.length + 1)
      { cursor := ⟨chars, 0, 0, 0⟩, indentation := -1, outer := [], flowDepth := 0,
        keyAllowed := true, candidates := [none], tokens := #[] }
  else .error .forbiddenCharacter

end Yaml

end PipelineTrial
