/-! Texts, comments and keys in TOML documents, read from the remaining characters. -/

namespace PipelineTrial

namespace Toml

/-- What reading gives: a value and the characters after it. -/
abbrev Read (α : Type) := Option (α × List Char)

/-- A blank inside a line. -/
def isLineSpace (char : Char) : Bool := char == ' ' || char == '\t'

/-- The characters after leading blanks of a line. -/
def skipSpaces (chars : List Char) : List Char := chars.dropWhile isLineSpace

/-- A character that may stand in a comment or a text: no control other than the tab. -/
def isVisible (char : Char) : Bool :=
  -- Everything beyond ASCII is allowed.
  char == '\t' || (0x20 ≤ char.toNat && char.toNat != 0x7f)

/-- The characters after the end of a line, which the end of the document is, too. -/
def endLine? : List Char → Option (List Char)
  | [] => some []
  | '\n' :: rest => some rest
  | '\r' :: '\n' :: rest => some rest
  | _ => none

/-- The characters after a comment, if one starts here. -/
def skipComment : List Char → List Char
  | '#' :: rest => rest.dropWhile isVisible
  | chars => chars

/-- The characters after the rest of a line without content. -/
def endStatement? (chars : List Char) : Option (List Char) :=
  -- Blanks and a comment may precede its end.
  endLine? (skipComment (skipSpaces chars))

/-- The character of a number written in a fixed count of hexadecimal digits. -/
def readCodePoint (count : Nat) (chars : List Char) : Read Char :=
  -- Surrogates are no characters.
  let digits := chars.take count
  let isHex (char : Char) : Bool :=
    char.isDigit || ('a' ≤ char && char ≤ 'f') || ('A' ≤ char && char ≤ 'F')
  let digitOf (char : Char) : Nat :=
    if char.isDigit then char.toNat - 48 else char.toLower.toNat - 87
  if digits.length = count && digits.all isHex then
    let code := digits.foldl (fun value char => value * 16 + digitOf char) 0
    if code < 0xd800 || (0xdfff < code && code < 0x110000) then
      some (Char.ofNat code, chars.drop count)
    else none
  else none

/-- The character that an escape stands for, after its backslash. -/
def readEscape : List Char → Read Char
  | 'b' :: rest => some ('\x08', rest)
  | 't' :: rest => some ('\t', rest)
  | 'n' :: rest => some ('\n', rest)
  | 'f' :: rest => some ('\x0c', rest)
  | 'r' :: rest => some ('\r', rest)
  | '"' :: rest => some ('"', rest)
  | '\\' :: rest => some ('\\', rest)
  | 'u' :: rest => readCodePoint 4 rest
  | 'U' :: rest => readCodePoint 8 rest
  | _ => none

/-- A text on one line after its opening quote; only double quotes allow escapes. -/
def readLine (quote : Char) : Nat → List Char → List Char → Read String
  | 0, _, _ => none
  | fuel + 1, read, chars =>
    match chars with
    | [] => none
    | char :: rest =>
      if char = quote then some (String.ofList read.reverse, rest)
      else if char = '\\' && quote = '"' then
        match readEscape rest with
        | none => none
        | some (escaped, rest) => readLine quote fuel (escaped :: read) rest
      else if isVisible char then readLine quote fuel (char :: read) rest
      else none

/-- The characters after the blanks and line ends that follow a backslash, if one line ends at least. -/
def skipFold? (chars : List Char) : Option (List Char) :=
  -- The first line end comes after blanks only.
  match skipSpaces chars with
  | '\n' :: rest => some (skip rest.length rest)
  | '\r' :: '\n' :: rest => some (skip rest.length rest)
  | _ => none
where
  /-- The characters after blanks and line ends. -/
  skip : Nat → List Char → List Char
    | 0, chars => chars
    | fuel + 1, chars =>
      match chars with
      | ' ' :: rest => skip fuel rest
      | '\t' :: rest => skip fuel rest
      | '\n' :: rest => skip fuel rest
      | '\r' :: '\n' :: rest => skip fuel rest
      | _ => chars

/-- A text over several lines after its opening quotes; only double quotes allow escapes. -/
def readLines (quote : Char) : Nat → List Char → List Char → Read String
  | 0, _, _ => none
  | fuel + 1, read, chars =>
    match chars with
    | [] => none
    | '\n' :: rest => readLines quote fuel ('\n' :: read) rest
    | '\r' :: '\n' :: rest => readLines quote fuel ('\n' :: read) rest
    | char :: rest =>
      if char = quote then
        -- Three quotes end the text, and up to two before them belong to it.
        let run := (chars.takeWhile (· == quote)).length
        if run < 3 then readLines quote fuel (char :: read) rest
        else
          let inside := min (run - 3) 2
          some (String.ofList (read.reverse ++ List.replicate inside quote), chars.drop (inside + 3))
      else if char = '\\' && quote = '"' then
        match skipFold? rest with
        | some rest => readLines quote fuel read rest
        | none =>
          match readEscape rest with
          | none => none
          | some (escaped, rest) => readLines quote fuel (escaped :: read) rest
      else if isVisible char then readLines quote fuel (char :: read) rest
      else none

/-- A text in quotes. -/
def readText (chars : List Char) : Read String :=
  -- A line end right after three quotes does not count.
  let open? (quote : Char) (rest : List Char) : Read String :=
    match rest with
    | '\n' :: body => readLines quote (body.length + 1) [] body
    | '\r' :: '\n' :: body => readLines quote (body.length + 1) [] body
    | body => readLines quote (body.length + 1) [] body
  match chars with
  | '"' :: '"' :: '"' :: rest => open? '"' rest
  | '\x27' :: '\x27' :: '\x27' :: rest => open? '\x27' rest
  | '"' :: rest => readLine '"' (rest.length + 1) [] rest
  | '\x27' :: rest => readLine '\x27' (rest.length + 1) [] rest
  | _ => none

/-- A character of a key without quotes. -/
def isKeyChar (char : Char) : Bool :=
  -- Only ASCII letters count.
  char.isAlphanum || char == '_' || char == '-'

/-- One key: a text on one line, or a word. -/
def readKey (chars : List Char) : Read String :=
  -- A word has at least one character.
  match chars with
  | '"' :: rest => readLine '"' (rest.length + 1) [] rest
  | '\x27' :: rest => readLine '\x27' (rest.length + 1) [] rest
  | _ =>
    match chars.takeWhile isKeyChar with
    | [] => none
    | word => some (String.ofList word, chars.dropWhile isKeyChar)

/-- The limit on keys in a path, and on nested values. -/
def depthLimit : Nat := 80

/-- Keys joined by points, with the blanks around them. -/
def readKeys : Nat → List Char → Read (List String)
  | 0, _ => none
  | left + 1, chars =>
    match readKey (skipSpaces chars) with
    | none => none
    | some (key, rest) =>
      match skipSpaces rest with
      | '.' :: rest =>
        match readKeys left rest with
        | none => none
        | some (keys, rest) => some (key :: keys, rest)
      | rest => some ([key], rest)

/-- A path of keys, shorter than the limit. -/
def readPath (chars : List Char) : Read (List String) := readKeys (depthLimit - 1) chars

end Toml

end PipelineTrial
