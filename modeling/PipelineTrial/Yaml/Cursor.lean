/-! A position in YAML text, with the classes of characters and the ways to move on. -/

namespace PipelineTrial

namespace Yaml

/-- A character that may occur in a document. -/
def isAllowed (char : Char) : Bool :=
  -- Controls and the byte-order mark are left out.
  let code := char.toNat
  code == 0x09 || code == 0x0a || code == 0x0d || (0x20 ≤ code && code ≤ 0x7e) || code == 0x85
    || (0xa0 ≤ code && code ≤ 0xd7ff) || (0xe000 ≤ code && code ≤ 0xfffd && code != 0xfeff)
    || 0x10000 ≤ code

/-- A character that ends a line. -/
def isBreak (char : Char) : Bool :=
  -- The Unicode separators count as well.
  char == '\n' || char == '\r' || char.toNat == 0x85 || char.toNat == 0x2028 || char.toNat == 0x2029

/-- A blank inside a line. -/
def isLineBlank (char : Char) : Bool :=
  -- Only the space and the tab separate words.
  char == ' ' || char == '\t'

/-- A character of a name: a letter, a digit, an underscore or a hyphen. -/
def isWord (char : Char) : Bool :=
  -- Only ASCII letters count.
  char.isAlphanum || char == '_' || char == '-'

/-- A position: the remaining characters, and where they start. -/
structure Cursor where
  rest : List Char
  index : Nat
  line : Nat
  column : Nat

namespace Cursor

/-- The character at a distance. -/
def peek? (cursor : Cursor) (distance : Nat) : Option Char :=
  -- Nothing stands past the end.
  cursor.rest[distance]?

/-- Whether a given character stands at a distance. -/
def sees (cursor : Cursor) (char : Char) (distance : Nat) : Bool :=
  -- The end is no character.
  cursor.peek? distance == some char

/-- Whether the text has ended. -/
def atEnd (cursor : Cursor) : Bool := cursor.rest.isEmpty

/-- Whether a line break stands at a distance. -/
def seesBreak (cursor : Cursor) (distance : Nat) : Bool :=
  -- The end is no break.
  (cursor.peek? distance).any isBreak

/-- Whether a space or tab stands at a distance. -/
def seesBlank (cursor : Cursor) (distance : Nat) : Bool :=
  -- The end is no blank.
  (cursor.peek? distance).any isLineBlank

/-- Whether a blank, a line break or the end stands at a distance. -/
def seesGap (cursor : Cursor) (distance : Nat) : Bool :=
  -- A token before a gap is complete.
  match cursor.peek? distance with
  | none => true
  | some char => isLineBlank char || isBreak char

/-- Whether a line break or the end stands at a distance. -/
def seesLineEnd (cursor : Cursor) (distance : Nat) : Bool :=
  -- Comments run up to here.
  match cursor.peek? distance with
  | none => true
  | some char => isBreak char

/-- The position after one character of the same line. -/
def skip (cursor : Cursor) : Cursor :=
  -- The end is not passed.
  match cursor.rest with
  | [] => cursor
  | _ :: rest => ⟨rest, cursor.index + 1, cursor.line, cursor.column + 1⟩

/-- The position after a number of characters of the same line. -/
def skipMany (cursor : Cursor) : Nat → Cursor
  | 0 => cursor
  | count + 1 => cursor.skip.skipMany count

/-- The position after a line break, where a return and a feed are one break. -/
def skipLine (cursor : Cursor) : Cursor :=
  -- Without a break the position stays.
  match cursor.rest with
  | '\r' :: '\n' :: rest => ⟨rest, cursor.index + 2, cursor.line + 1, 0⟩
  | char :: rest => if isBreak char then ⟨rest, cursor.index + 1, cursor.line + 1, 0⟩ else cursor
  | [] => cursor

/-- The text of the line break at the position: the Unicode separators stay, and all others become a feed. -/
def breakText (cursor : Cursor) : List Char :=
  -- Without a break there is no text.
  match cursor.rest with
  | char :: _ =>
    if char.toNat == 0x2028 || char.toNat == 0x2029 then [char]
    else if isBreak char then ['\n'] else []
  | [] => []

/-- The characters from the position that meet a condition, and the position after them. -/
def takeWhile (cursor : Cursor) (condition : Char → Bool) : List Char × Cursor :=
  -- The characters must be of one line.
  let taken := cursor.rest.takeWhile condition
  (taken, ⟨cursor.rest.dropWhile condition, cursor.index + taken.length, cursor.line,
    cursor.column + taken.length⟩)

/-- The position after the characters that meet a condition. -/
def skipWhile (cursor : Cursor) (condition : Char → Bool) : Cursor :=
  -- The characters are dropped.
  (cursor.takeWhile condition).2

/-- The position after a comment, if one starts here. -/
def skipComment (cursor : Cursor) : Cursor :=
  -- A comment runs to the end of its line.
  if cursor.sees '#' 0 then cursor.skipWhile fun char => !isBreak char else cursor

/-- Whether a document marker, three equal characters before a gap, starts a line here. -/
def seesMarker (cursor : Cursor) (char : Char) : Bool :=
  -- Markers stand at the first column.
  cursor.column == 0 && cursor.sees char 0 && cursor.sees char 1 && cursor.sees char 2
    && cursor.seesGap 3

/-- Whether a document starts or ends here. -/
def seesDocumentMarker (cursor : Cursor) : Bool :=
  -- Hyphens start a document, and dots end one.
  cursor.seesMarker '-' || cursor.seesMarker '.'

end Cursor

/-- The reasons for which a text is no YAML document. -/
inductive ReadFault where
  | forbiddenCharacter
  | unexpectedCharacter
  | unclosedText
  | unexpectedMarker
  | unknownEscape
  | badIndentation
  | badIndentationIndicator
  | missingLineBreak
  | missingKeyEnd
  | misplacedEntry
  | misplacedKey
  | misplacedValue
  | badName
  | badTag
  | badDirective
  | missingDocumentStart
  | unknownTagHandle
  | missingContent
  | missingEntry
  | unknownAlias
  | severalDocuments
  | nestedTooDeep
  | repeatedTooOften
  | duplicateKey
  | wrongTaggedScalar
  | hugeInteger
  deriving DecidableEq

/-- The text of a reading fault. -/
def ReadFault.message : ReadFault → String
  | .forbiddenCharacter => "control characters are not allowed"
  | .unexpectedCharacter => "found character that cannot start any token"
  | .unclosedText => "found unexpected end of stream"
  | .unexpectedMarker => "found unexpected document indicator"
  | .unknownEscape => "found unknown escape character"
  | .badIndentation => "found a tab character that violates indentation"
  | .badIndentationIndicator => "found an indentation indicator equal to 0"
  | .missingLineBreak => "did not find expected comment or line break"
  | .missingKeyEnd => "could not find expected ':'"
  | .misplacedEntry => "block sequence entries are not allowed in this context"
  | .misplacedKey => "mapping keys are not allowed in this context"
  | .misplacedValue => "mapping values are not allowed in this context"
  | .badName => "did not find expected alphabetic or numeric character"
  | .badTag => "did not find expected tag URI"
  | .badDirective => "found unknown directive name"
  | .missingDocumentStart => "did not find expected <document start>"
  | .unknownTagHandle => "found undefined tag handle"
  | .missingContent => "did not find expected node content"
  | .missingEntry => "did not find expected entry"
  | .unknownAlias => "unknown anchor"
  | .severalDocuments => "deserializing from YAML containing more than one document is not supported"
  | .nestedTooDeep => "recursion limit exceeded"
  | .repeatedTooOften => "repetition limit exceeded"
  | .duplicateKey => "duplicate entry in mapping"
  | .wrongTaggedScalar => "value does not match its tag"
  | .hugeInteger => "integer out of range"

/-- A reading step that may fail. -/
abbrev Reading (α : Type) : Type := Except ReadFault α

end Yaml

end PipelineTrial
