import PipelineTrial.Script.Number

/-! The tokens of scripts. -/

namespace PipelineTrial

namespace Script

mutual

/-- What a token is. -/
inductive Lexeme where
  | word (text : String)
  | mark (text : String)
  /-- A number, with whether the strict rules forbid its form. -/
  | number (value : Number) (isLegacy : Bool)
  /-- A quoted text, with whether it asks for the strict rules, and whether they forbid its form. -/
  | text (units : Units) (isDirective isLegacy : Bool)
  /-- Texts with tokens of expressions between them. -/
  | template (first : Units) (parts : List (List Token × Units))
  | pattern (body flags : Units)

/-- A token, with whether a line ends before it. -/
inductive Token where
  | mk (lexeme : Lexeme) (afterLine : Bool)

end

instance : Inhabited Token := ⟨.mk (.mark "") false⟩

namespace Token

/-- What a token is. -/
def lexeme : Token → Lexeme
  | .mk lexeme _ => lexeme

/-- Whether a line ends before a token. -/
def afterLine : Token → Bool
  | .mk _ afterLine => afterLine

end Token

/-- A character that ends a line. -/
def isLineTerminator (char : Char) : Bool :=
  -- The Unicode separators count as well.
  char == '\n' || char == '\r' || char.toNat == 0x2028 || char.toNat == 0x2029

/-- A blank inside a line. -/
def isScriptBlank (char : Char) : Bool :=
  -- The byte-order mark counts as a blank.
  let code := char.toNat
  code == 9 || code == 11 || code == 12 || code == 32 || code == 0xa0 || code == 0xfeff
    || code == 0x1680 || (0x2000 ≤ code && code ≤ 0x200a) || code == 0x202f || code == 0x205f
    || code == 0x3000

/-- A character that may start a name; beyond ASCII every character that is no blank may. -/
def isWordStart (char : Char) : Bool :=
  -- The dollar sign and the underscore count as letters.
  char.isAlpha || char == '$' || char == '_'
    || (128 ≤ char.toNat && !isScriptBlank char && !isLineTerminator char)

/-- A character that may continue a name. -/
def isWordRest (char : Char) : Bool := isWordStart char || char.isDigit

/-- The text after blanks and comments, with whether a line ended among them; none for an open comment. -/
def skipBlanks : Nat → List Char → Bool → Option (List Char × Bool)
  | 0, chars, broken => some (chars, broken)
  | bound + 1, chars, broken =>
    match chars with
    | '/' :: '/' :: rest => skipBlanks bound (rest.dropWhile fun char => !isLineTerminator char) broken
    | '/' :: '*' :: rest => do
      let (rest, lines) ← skipComment bound rest false
      skipBlanks bound rest (broken || lines)
    | char :: rest =>
      if isLineTerminator char then skipBlanks bound rest true
      else if isScriptBlank char then skipBlanks bound rest broken
      else some (char :: rest, broken)
    | [] => some ([], broken)
where
  skipComment : Nat → List Char → Bool → Option (List Char × Bool)
    | 0, _, _ => none
    | bound + 1, chars, lines =>
      match chars with
      | '*' :: '/' :: rest => some (rest, lines)
      | char :: rest => skipComment bound rest (lines || isLineTerminator char)
      | [] => none

/-- The value of a digit in any base up to 36. -/
def digitOf? (char : Char) : Option Nat :=
  -- Letters count in both cases.
  if char.isDigit then some (char.toNat - 48)
  else if 'a' ≤ char && char ≤ 'z' then some (char.toNat - 87)
  else if 'A' ≤ char && char ≤ 'Z' then some (char.toNat - 55)
  else none

/-- The number that digits of a base write. -/
def valueInBase (base : Nat) (digits : List Char) : Nat :=
  -- Digits are taken from the left.
  digits.foldl (fun total digit => total * base + (digitOf? digit).getD 0) 0

/-- Digits with single underscores between them, without the underscores, and the rest. -/
def readSeparatedDigits (isDigit : Char → Bool) (chars : List Char) : Option (List Char × List Char) :=
  -- An underscore needs a digit on either side.
  let isPart (char : Char) : Bool := isDigit char || char == '_'
  let taken := chars.takeWhile isPart
  let doubled := (taken.zip taken.tail).any fun (first, second) => first == '_' && second == '_'
  if doubled || taken.head? == some '_' || taken.getLast? == some '_' then none
  else some (taken.filter (· != '_'), chars.dropWhile isPart)

/-- A number with a base mark, after the mark. -/
def readBased (base : Nat) (chars : List Char) : Option (Number × List Char) := do
  -- At least one digit is needed, and no other may follow.
  let (digits, rest) ← readSeparatedDigits (fun char => (digitOf? char).any (· < base)) chars
  if digits.isEmpty then none else some (.ofNat (valueInBase base digits), rest)

/-- The exponent of a number, if one is written, as its value and the rest. -/
def readScriptExponent (chars : List Char) : Option (Int × List Char) :=
  -- The mark needs at least one digit.
  match chars with
  | mark :: rest =>
    if mark == 'e' || mark == 'E' then do
      let (negative, digits) := match rest with
        | '-' :: rest => (true, rest)
        | '+' :: rest => (false, rest)
        | _ => (false, rest)
      let (taken, rest) ← readSeparatedDigits Char.isDigit digits
      if taken.isEmpty then none
      else
        let value : Int := digitsValue taken
        some (if negative then -value else value, rest)
    else some (0, chars)
  | [] => some (0, [])

/-- A decimal number. -/
def readDecimal (chars : List Char) : Option (Number × List Char) := do
  -- Digits may stand on either side of the point.
  let (whole, rest) ← readSeparatedDigits Char.isDigit chars
  let (fraction, rest) ← match rest with
    | '.' :: rest => readSeparatedDigits Char.isDigit rest
    | _ => some ([], rest)
  let (exponent, rest) ← readScriptExponent rest
  some (.ofDecimal (digitsValue (whole ++ fraction)) (exponent - fraction.length), rest)

/-- A number that starts with a zero and a further digit. -/
def readZeroLed (chars : List Char) : Option (Number × List Char) :=
  -- Octal digits alone write an octal number, and underscores are not allowed.
  let digits := chars.takeWhile fun char => char.isDigit || char == '_'
  if digits.contains '_' then none
  else if digits.all fun digit => (digitOf? digit).any (· < 8) then readBased 8 chars
  else readDecimal chars

/-- A number in any of its forms, with whether the strict rules forbid it; a name must not follow it. -/
def readScriptNumber (chars : List Char) : Option (Number × Bool × List Char) := do
  -- The strict rules forbid a zero before further digits.
  let isLegacy := chars.head? == some '0' && (chars[1]?).any fun char => char.isDigit || char == '_'
  let (value, rest) ← match chars with
    | '0' :: 'x' :: rest => readBased 16 rest
    | '0' :: 'X' :: rest => readBased 16 rest
    | '0' :: 'o' :: rest => readBased 8 rest
    | '0' :: 'O' :: rest => readBased 8 rest
    | '0' :: 'b' :: rest => readBased 2 rest
    | '0' :: 'B' :: rest => readBased 2 rest
    | _ => if isLegacy then readZeroLed chars else readDecimal chars
  if rest.head?.any isWordRest then none else some (value, isLegacy, rest)

/-- The units of four hexadecimal digits, or of a code point in braces, after the escape's letter. -/
def readUnicodeEscape (chars : List Char) : Option (Units × List Char) :=
  -- A code point becomes a pair of units where it needs one.
  match chars with
  | '{' :: rest =>
    let digits := rest.takeWhile (· != '}')
    if digits.isEmpty || !digits.all (fun digit => (digitOf? digit).any (· < 16)) then none
    else
      let code := valueInBase 16 digits
      if 0x10ffff < code then none
      else if 0xd800 ≤ code && code ≤ 0xdfff then
        some ([UInt16.ofNat code], (rest.dropWhile (· != '}')).drop 1)
      else some (Units.ofChar (Char.ofNat code), (rest.dropWhile (· != '}')).drop 1)
  | _ =>
    let digits := chars.take 4
    if digits.length == 4 && digits.all (fun digit => (digitOf? digit).any (· < 16)) then
      some ([UInt16.ofNat (valueInBase 16 digits)], chars.drop 4)
    else none

/-- The units of an escape after its backslash. -/
def readScriptEscape (chars : List Char) : Option (Units × List Char) :=
  -- A line end is left out, and any other character stands for itself.
  match chars with
  | 'n' :: rest => some ([10], rest)
  | 't' :: rest => some ([9], rest)
  | 'b' :: rest => some ([8], rest)
  | 'v' :: rest => some ([11], rest)
  | 'f' :: rest => some ([12], rest)
  | 'r' :: rest => some ([13], rest)
  | 'x' :: first :: second :: rest => do
    let high ← (digitOf? first).filter (· < 16)
    let low ← (digitOf? second).filter (· < 16)
    some ([UInt16.ofNat (high * 16 + low)], rest)
  | 'x' :: _ => none
  | 'u' :: rest => readUnicodeEscape rest
  | '\r' :: '\n' :: rest => some ([], rest)
  | char :: rest =>
    if isLineTerminator char then some ([], rest)
    else if (digitOf? char).any (· < 8) then
      -- At most three octal digits are taken, up to 255.
      let most := if char ≤ '3' then 3 else 2
      let digits := ((char :: rest).take most).takeWhile fun digit => (digitOf? digit).any (· < 8)
      some ([UInt16.ofNat (valueInBase 8 digits)], (char :: rest).drop digits.length)
    else some (Units.ofChar char, rest)
  | [] => none

/-- Whether an escape after its backslash is one with octal digits, which the strict rules forbid. -/
def isLegacyEscape (chars : List Char) : Bool :=
  -- A zero alone is the null character.
  match chars with
  | '0' :: rest => rest.head?.any Char.isDigit
  | char :: _ => char.isDigit
  | [] => false

/-- Whether a text up to its closing quote has an escape that the strict rules forbid. -/
def hasLegacyEscape (quote : Char) : List Char → Bool
  | [] => false
  | '\\' :: char :: rest => isLegacyEscape (char :: rest) || hasLegacyEscape quote rest
  | char :: rest => if char == quote then false else hasLegacyEscape quote rest

/-- The units of a quoted text up to its closing quote, in reverse. -/
def readScriptText (quote : Char) : Nat → List Char → Units → Option (Units × List Char)
  | 0, _, _ => none
  | bound + 1, chars, units =>
    match chars with
    | [] => none
    | '\\' :: rest => do
      let (escaped, rest) ← readScriptEscape rest
      readScriptText quote bound rest (escaped.reverse ++ units)
    | char :: rest =>
      if char == quote then some (units, rest)
      else if char == '\n' || char == '\r' then none
      else readScriptText quote bound rest ((Units.ofChar char).reverse ++ units)

/-- The units of a part of a template, in reverse, with whether an expression follows. -/
def readTemplatePart : Nat → List Char → Units → Option (Units × Bool × List Char)
  | 0, _, _ => none
  | bound + 1, chars, units =>
    match chars with
    | [] => none
    | '\x60' :: rest => some (units, false, rest)
    | '$' :: '{' :: rest => some (units, true, rest)
    | '\\' :: rest =>
      if isLegacyEscape rest then none
      else do
        let (escaped, rest) ← readScriptEscape rest
        readTemplatePart bound rest (escaped.reverse ++ units)
    | '\r' :: '\n' :: rest => readTemplatePart bound rest (10 :: units)
    | '\r' :: rest => readTemplatePart bound rest (10 :: units)
    | char :: rest => readTemplatePart bound rest ((Units.ofChar char).reverse ++ units)

/-- The units of a pattern up to its closing slash, in reverse. -/
def readPatternBody : Nat → List Char → Bool → Units → Option (Units × List Char)
  | 0, _, _, _ => none
  | bound + 1, chars, inClass, units =>
    match chars with
    | [] => none
    | '\\' :: char :: rest =>
      if isLineTerminator char then none
      else readPatternBody bound rest inClass ((Units.ofChar char).reverse ++ (92 :: units))
    | char :: rest =>
      if isLineTerminator char then none
      else if char == '/' && !inClass then some (units, rest)
      else
        let inClass := if char == '[' then true else if char == ']' then false else inClass
        readPatternBody bound rest inClass ((Units.ofChar char).reverse ++ units)

/-- The marks of the grammar, the longest first. -/
def marks : List String :=
  [">>>=", "...", "===", "!==", "**=", "<<=", ">>=", ">>>", "&&=", "||=", "??=", "=>", "==", "!=",
    "<=", ">=", "&&", "||", "??", "?.", "++", "--", "+=", "-=", "*=", "/=", "%=", "&=", "|=", "^=",
    "<<", ">>", "**", "\x7b", "\x7d", "(", ")", "[", "]", ";", ",", "<", ">", "+", "-", "*", "/", "%",
    "&", "|", "^", "!", "~", "?", ":", "=", "."]

/-- The longest mark at the start of a text. -/
def readMark (chars : List Char) : Option (String × List Char) := do
  -- A question mark before a point and a digit stands alone.
  let found ← marks.find? fun mark =>
    mark.toList.isPrefixOf chars
      && !(mark == "?." && (chars[2]?).any Char.isDigit)
  some (found, chars.drop found.length)

/-- Words after which an expression starts. -/
def operatorWords : List String :=
  ["return", "typeof", "case", "in", "instanceof", "new", "delete", "void", "throw", "do", "else"]

/-- Whether a slash after a token divides, and does not start a pattern. -/
def endsOperand : Option Lexeme → Bool
  | none => false
  | some (.word text) => !operatorWords.contains text
  | some (.mark text) => text == ")" || text == "]" || text == "\x7d"
  | some _ => true

mutual

/-- The tokens of a text up to its end, or up to the brace that closes a template's expression. -/
def readTokens (inTemplate : Bool) :
    Nat → List Char → Option Lexeme → Nat → Option (List Token × List Char)
  | 0, _, _, _ => none
  | bound + 1, chars, previous, braces => do
    let (chars, broken) ← skipBlanks (chars.length + 1) chars false
    let continueWith (lexeme : Lexeme) (rest : List Char) (braces : Nat) :
        Option (List Token × List Char) := do
      let (tokens, rest) ← readTokens inTemplate bound rest (some lexeme) braces
      some (.mk lexeme broken :: tokens, rest)
    match chars with
    | [] => if inTemplate then none else some ([], [])
    | '\x60' :: rest => do
      let (units, hasPart, rest) ← readTemplatePart (rest.length + 1) rest []
      if hasPart then
        let (parts, rest) ← readTemplateParts bound rest
        continueWith (.template units.reverse parts) rest braces
      else continueWith (.template units.reverse []) rest braces
    | char :: rest =>
      if char == '"' || char == '\x27' then do
        let (units, after) ← readScriptText char (rest.length + 1) rest []
        let isDirective := rest.take 10 == "use strict".toList && rest[10]? == some char
        continueWith (.text units.reverse isDirective (hasLegacyEscape char rest)) after braces
      else if isWordStart char then
        let text := (char :: rest).takeWhile isWordRest
        continueWith (.word (String.ofList text)) ((char :: rest).dropWhile isWordRest) braces
      else if char.isDigit || (char == '.' && rest.head?.any Char.isDigit) then do
        let (value, isLegacy, rest) ← readScriptNumber (char :: rest)
        continueWith (.number value isLegacy) rest braces
      else if char == '/' && !endsOperand previous then do
        let (units, rest) ← readPatternBody (rest.length + 1) rest false []
        let flags := rest.takeWhile isWordRest
        continueWith (.pattern units.reverse (Units.ofChars flags)) (rest.dropWhile isWordRest) braces
      else if char == '}' && inTemplate && braces == 0 then some ([], rest)
      else do
        let (mark, rest) ← readMark (char :: rest)
        let braces := if char == '{' then braces + 1 else if char == '}' then braces - 1 else braces
        continueWith (.mark mark) rest braces

/-- The expressions of a template with the texts after them. -/
def readTemplateParts : Nat → List Char → Option (List (List Token × Units) × List Char)
  | 0, _ => none
  | bound + 1, chars => do
    let (tokens, rest) ← readTokens true bound chars none 0
    let (units, hasPart, rest) ← readTemplatePart (rest.length + 1) rest []
    if hasPart then
      let (parts, rest) ← readTemplateParts bound rest
      some ((tokens, units.reverse) :: parts, rest)
    else some ([(tokens, units.reverse)], rest)

end

/-- The tokens of a script. -/
def tokensOf? (source : List Char) : Option (List Token) := do
  -- Every token takes at least one character.
  let (tokens, _) ← readTokens false (2 * source.length + 2) source none 0
  some tokens

end Script

end PipelineTrial
