import PipelineTrial.Yaml.Cursor

/-! The texts of plain, quoted and block scalars, with their lines folded. -/

namespace PipelineTrial

namespace Yaml

/-- Blanks and line breaks between the words of a scalar. -/
structure Gap where
  blanks : List Char
  firstBreak : List Char
  laterBreaks : List Char
  broken : Bool

namespace Gap

/-- No blanks and no breaks. -/
def none : Gap := ⟨[], [], [], false⟩

/-- The text that a gap folds to: one break becomes a space, and more keep all but the first. -/
def folded (gap : Gap) : List Char :=
  -- A first break that is a Unicode separator is kept.
  if gap.broken then
    if gap.firstBreak.head? == some '\n' then
      if gap.laterBreaks.isEmpty then [' '] else gap.laterBreaks
    else gap.firstBreak ++ gap.laterBreaks
  else gap.blanks

/-- The gap with a line break added. -/
def addBreak (gap : Gap) (text : List Char) : Gap :=
  -- Blanks before the first break are lost.
  if gap.broken then { gap with laterBreaks := gap.laterBreaks ++ text }
  else { gap with blanks := [], firstBreak := text, broken := true }

/-- The gap with a blank added. -/
def addBlank (gap : Gap) (char : Char) : Gap :=
  -- Blanks after a break only indent.
  if gap.broken then gap else { gap with blanks := gap.blanks ++ [char] }

end Gap

/-- The gap at a position; a tab left of the indentation is a fault where one is given. -/
def readGap (indentation : Option Nat) : Nat → Cursor → Gap → Reading (Gap × Cursor)
  | 0, cursor, gap => .ok (gap, cursor)
  | bound + 1, cursor, gap =>
    match cursor.peek? 0 with
    | .some char =>
      if isLineBlank char then
        if gap.broken && char == '\t' && indentation.any (cursor.column < ·) then .error .badIndentation
        else readGap indentation bound cursor.skip (gap.addBlank char)
      else if isBreak char then
        readGap indentation bound cursor.skipLine (gap.addBreak cursor.breakText)
      else .ok (gap, cursor)
    | .none => .ok (gap, cursor)

/-- A character that ends a plain scalar inside brackets. -/
def isFlowIndicator (char : Char) : Bool :=
  -- Outside brackets these are ordinary.
  char == ',' || char == '[' || char == ']' || char == '{' || char == '}'

/-- One word of a plain scalar, up to a gap or an indicator. -/
def readPlainWord (inFlow : Bool) : Nat → Cursor → List Char → Reading (List Char × Cursor)
  | 0, cursor, word => .ok (word, cursor)
  | bound + 1, cursor, word =>
    match cursor.peek? 0 with
    | .none => .ok (word, cursor)
    | .some char =>
      -- A colon ends the scalar only before a gap.
      if cursor.seesGap 0 then .ok (word, cursor)
      else if inFlow && char == ':'
          && (cursor.peek? 1).any (fun next => isFlowIndicator next || next == '?') then
        .error .unexpectedCharacter
      else if (char == ':' && cursor.seesGap 1) || (inFlow && isFlowIndicator char) then
        .ok (word, cursor)
      else readPlainWord inFlow bound cursor.skip (char :: word)

/-- A plain scalar after its words so far, with whether it ended on a new line. -/
def readPlain (inFlow : Bool) (indentation : Nat) :
    Nat → Cursor → Gap → List Char → Reading (List Char × Bool × Cursor)
  | 0, cursor, gap, content => .ok (content, gap.broken, cursor)
  | bound + 1, cursor, gap, content =>
    if cursor.seesDocumentMarker || cursor.sees '#' 0 then .ok (content, gap.broken, cursor)
    else do
      -- A gap counts only when another word follows it.
      let (reversed, cursor) ← readPlainWord inFlow cursor.rest.length cursor []
      let word := reversed.reverse
      let content := if word.isEmpty then content else content ++ gap.folded ++ word
      let gap := if word.isEmpty then gap else Gap.none
      if cursor.seesBlank 0 || cursor.seesBreak 0 then
        let (gap, cursor) ← readGap (some indentation) (cursor.rest.length + 1) cursor gap
        if !inFlow && cursor.column < indentation then .ok (content, gap.broken, cursor)
        else readPlain inFlow indentation bound cursor gap content
      else .ok (content, gap.broken, cursor)

/-- The value of a hexadecimal digit. -/
def hexDigitValue? (char : Char) : Option Nat :=
  -- Letters count in both cases.
  if char.isDigit then some (char.toNat - 48)
  else if 'a' ≤ char && char ≤ 'f' then some (char.toNat - 87)
  else if 'A' ≤ char && char ≤ 'F' then some (char.toNat - 55)
  else .none

/-- The number that a count of hexadecimal digits writes. -/
def readHex : Nat → Nat → Cursor → Reading (Nat × Cursor)
  | 0, value, cursor => .ok (value, cursor)
  | count + 1, value, cursor =>
    match (cursor.peek? 0).bind hexDigitValue? with
    | some digit => readHex count (value * 16 + digit) cursor.skip
    | .none => .error .unknownEscape

/-- The character that a code names. -/
def charOfCode (code : Nat) : Reading Char :=
  -- Surrogates and codes past the last plane name none.
  if code.isValidChar then .ok (Char.ofNat code) else .error .unknownEscape

/-- The character that a letter after a backslash stands for, when it needs no code. -/
def simpleEscape? : Char → Option Char
  | '0' => some '\x00'
  | 'a' => some '\x07'
  | 'b' => some '\x08'
  | 't' => some '\t'
  | '\t' => some '\t'
  | 'n' => some '\n'
  | 'v' => some '\x0b'
  | 'f' => some '\x0c'
  | 'r' => some '\r'
  | 'e' => some '\x1b'
  | ' ' => some ' '
  | '"' => some '"'
  | '/' => some '/'
  | '\\' => some '\\'
  | 'N' => some '\u0085'
  | '_' => some '\u00a0'
  | 'L' => some '\u2028'
  | 'P' => some '\u2029'
  | _ => .none

/-- The character of an escape, after its backslash. -/
def readEscape (cursor : Cursor) : Reading (Char × Cursor) := do
  -- Three letters announce a code of two, four or eight digits.
  let coded (count : Nat) : Reading (Char × Cursor) := do
    let (code, cursor) ← readHex count 0 cursor.skip
    let char ← charOfCode code
    .ok (char, cursor)
  match cursor.peek? 0 with
  | some 'x' => coded 2
  | some 'u' => coded 4
  | some 'U' => coded 8
  | some letter =>
    match simpleEscape? letter with
    | some char => .ok (char, cursor.skip)
    | .none => .error .unknownEscape
  | .none => .error .unknownEscape

/-- One word of a quoted scalar, with whether an escaped line break ended it. -/
def readQuotedWord (quote : Char) : Nat → Cursor → List Char → Reading (List Char × Bool × Cursor)
  | 0, cursor, word => .ok (word, false, cursor)
  | bound + 1, cursor, word =>
    match cursor.peek? 0 with
    | .none => .ok (word, false, cursor)
    | .some char =>
      if cursor.seesGap 0 then .ok (word, false, cursor)
      else if quote == '\x27' && char == quote && cursor.sees quote 1 then
        -- A quote is written twice.
        readQuotedWord quote bound (cursor.skipMany 2) (quote :: word)
      else if char == quote then .ok (word, false, cursor)
      else if quote == '"' && char == '\\' then
        if cursor.seesBreak 1 then .ok (word, true, cursor.skip.skipLine)
        else do
          let (escaped, cursor) ← readEscape cursor.skip
          readQuotedWord quote bound cursor (escaped :: word)
      else readQuotedWord quote bound cursor.skip (char :: word)

/-- A quoted scalar after its words so far, up to and with its closing quote. -/
def readQuoted (quote : Char) : Nat → Cursor → List Char → Reading (List Char × Cursor)
  | 0, _, _ => .error .unclosedText
  | bound + 1, cursor, content =>
    if cursor.seesDocumentMarker then .error .unexpectedMarker
    else if cursor.atEnd then .error .unclosedText
    else do
      -- An escaped break leaves a gap that has begun but holds no text.
      let (reversed, escaped, cursor) ← readQuotedWord quote cursor.rest.length cursor []
      let content := content ++ reversed.reverse
      if cursor.sees quote 0 && !escaped then .ok (content, cursor.skip)
      else if cursor.sees quote 0 then .ok (content, cursor.skip)
      else do
        let (gap, cursor) ← readGap .none (cursor.rest.length + 1) cursor { Gap.none with broken := escaped }
        readQuoted quote bound cursor (content ++ gap.folded)

/-- Which line breaks at the end of a block scalar are kept. -/
inductive Chomping where
  | strip
  | clip
  | keep

/-- The chomping and the indentation that a block scalar announces. -/
def readBlockHeader (cursor : Cursor) : Reading (Chomping × Nat × Cursor) := do
  -- Sign and digit come in either order.
  let sign? (cursor : Cursor) : Option Chomping :=
    if cursor.sees '+' 0 then some .keep else if cursor.sees '-' 0 then some .strip else .none
  let digit (cursor : Cursor) : Reading (Nat × Cursor) :=
    match cursor.peek? 0 with
    | some char =>
      if char == '0' then .error .badIndentationIndicator
      else if char.isDigit then .ok (char.toNat - 48, cursor.skip)
      else .ok (0, cursor)
    | .none => .ok (0, cursor)
  match sign? cursor with
  | some chomping =>
    let (increment, cursor) ← digit cursor.skip
    .ok (chomping, increment, cursor)
  | .none =>
    let (increment, after) ← digit cursor
    if increment == 0 then .ok (.clip, 0, after)
    else
      match sign? after with
      | some chomping => .ok (chomping, increment, after.skip)
      | .none => .ok (.clip, increment, after)

/-- The empty lines at a position and the widest indentation among them. -/
def readEmptyLines (indentation : Nat) :
    Nat → Cursor → Nat → List Char → Reading (List Char × Nat × Cursor)
  | 0, cursor, widest, breaks => .ok (breaks, widest, cursor)
  | bound + 1, cursor, widest, breaks =>
    -- An indentation of zero is not known yet, so all spaces count.
    let spaces := (cursor.rest.takeWhile (· == ' ')).length
    let wanted := if indentation == 0 then spaces else min spaces (indentation - cursor.column)
    let cursor := cursor.skipMany wanted
    let widest := max widest cursor.column
    if (indentation == 0 || cursor.column < indentation) && cursor.sees '\t' 0 then
      .error .badIndentation
    else if cursor.seesBreak 0 then
      readEmptyLines indentation bound cursor.skipLine widest (breaks ++ cursor.breakText)
    else .ok (breaks, widest, cursor)

/-- The lines of a block scalar after those so far, with the break that ends the last one and the empty lines behind it. -/
def readBlockLines (folding : Bool) (indentation : Nat) :
    Nat → Cursor → List Char → List Char → List Char → Bool →
      Reading (List Char × List Char × List Char × Cursor)
  | 0, cursor, content, lastBreak, emptyLines, _ => .ok (content, lastBreak, emptyLines, cursor)
  | bound + 1, cursor, content, lastBreak, emptyLines, lastBlank =>
    if cursor.column == indentation && !cursor.atEnd then do
      -- A break between two lines that start without a blank folds.
      let blank := cursor.seesBlank 0
      let joint :=
        if folding && lastBreak.head? == some '\n' && !lastBlank && !blank then
          if emptyLines.isEmpty then [' '] else []
        else lastBreak
      let (line, ended) := cursor.takeWhile fun char => !isBreak char
      let (breaks, _, cursor) ←
        readEmptyLines indentation (ended.rest.length + 1) ended.skipLine 0 []
      readBlockLines folding indentation bound cursor (content ++ joint ++ emptyLines ++ line)
        ended.breakText breaks blank
    else .ok (content, lastBreak, emptyLines, cursor)

/-- A block scalar after its indicator, inside a block of the given indentation. -/
def readBlock (folding : Bool) (parent : Int) (cursor : Cursor) : Reading (List Char × Cursor) := do
  -- The first line that is not empty sets the indentation unless the header does.
  let (chomping, increment, cursor) ← readBlockHeader cursor
  let cursor := (cursor.skipWhile isLineBlank).skipComment
  if !cursor.seesLineEnd 0 then .error .missingLineBreak
  else
    let cursor := cursor.skipLine
    let announced := if increment == 0 then 0 else (max parent 0).toNat + increment
    let (breaks, widest, cursor) ← readEmptyLines announced (cursor.rest.length + 1) cursor 0 []
    let indentation := if announced == 0 then max (max widest (parent + 1).toNat) 1 else announced
    let (content, lastBreak, emptyLines, cursor) ←
      readBlockLines folding indentation (cursor.rest.length + 1) cursor [] [] breaks false
    match chomping with
    | .strip => .ok (content, cursor)
    | .clip => .ok (content ++ lastBreak, cursor)
    | .keep => .ok (content ++ lastBreak ++ emptyLines, cursor)

end Yaml

end PipelineTrial
