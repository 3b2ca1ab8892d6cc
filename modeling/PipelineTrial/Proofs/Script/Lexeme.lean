import Mathlib.Tactic.Choose
import Mathlib.Tactic.IntervalCases
import PipelineTrial.Proofs.Json.Compact
import PipelineTrial.Proofs.Script.Literal
import PipelineTrial.Script.Lexeme

/-! The compact JSON of a value is cut into the tokens of a script. -/

namespace PipelineTrial

namespace Script

/-- A word on the line of what stands before it. -/
def wordToken (text : String) : Token := .mk (.word text) false

/-- A mark on the line of what stands before it. -/
def markToken (text : String) : Token := .mk (.mark text) false

/-- A text without octal escapes, which may look like a directive. -/
def textToken (value : String) (isDirective : Bool) : Token :=
  .mk (.text (Units.ofString value) isDirective false) false

/-- A natural number without a leading zero. -/
def magnitudeToken (value : Nat) : Token := .mk (.number (.ofNat value) false) false

/-- A whole number, in which the sign of one below zero is a mark of its own. -/
def wholeTokens (value : Int) : List Token :=
  -- Scripts have no negative numbers, only an operator in front of positive ones.
  if value < 0 then [markToken "-", magnitudeToken value.natAbs] else [magnitudeToken value.natAbs]

/-- A value whose numbers are whole is spelled by tokens. -/
inductive Spelled : Json → List Token → Prop where
  | null : Spelled .null [wordToken "null"]
  | true : Spelled (.boolean true) [wordToken "true"]
  | false : Spelled (.boolean false) [wordToken "false"]
  | integer (value : Int) : Spelled (.integer value) (wholeTokens value)
  | text (value : String) (isDirective : Bool) : Spelled (.text value) [textToken value isDirective]
  | list (items : List (Json × List Token)) (each : ∀ item ∈ items, Spelled item.1 item.2) :
    Spelled (.list (items.map (·.1)))
      (markToken "[" :: (List.intercalate [markToken ","] (items.map (·.2)) ++ [markToken "]"]))
  /-- The name of a member may look like a directive as well. -/
  | object (members : List ((String × Bool) × (Json × List Token)))
    (each : ∀ member ∈ members, Spelled member.2.1 member.2.2) :
    Spelled (.object (members.map fun member => (member.1.1, member.2.1)))
      (markToken "\x7b" :: (List.intercalate [markToken ","] (members.map fun member =>
        textToken member.1.1 member.1.2 :: markToken ":" :: member.2.2) ++ [markToken "\x7d"]))

/-- What is read with tokens before it. -/
def readBehind (tokens : List Token) (read : Option (List Token × List Char)) :
    Option (List Token × List Char) :=
  -- What cannot be read behind them makes all of it unreadable.
  read.bind fun found => some (tokens ++ found.1, found.2)

/-- Tokens before tokens are all before what is read. -/
private theorem readBehind_append (tokens others : List Token) (read : Option (List Token × List Char)) :
    readBehind (tokens ++ others) read = readBehind tokens (readBehind others read) := by
  -- Both put the same tokens before what is read, if anything is.
  cases read <;> simp [readBehind]

/-- A text does not go on with a word or a number that stands before it. -/
def EndsToken (chars : List Char) : Prop := ∀ next ∈ chars.head?, isWordRest next = false ∧ next ≠ '.'

/-- Characters are read as tokens before everything that may follow them. -/
structure Lexes (mayFollow : List Char → Prop) (chars : List Char) (tokens : List Token) : Prop where
  short : tokens.length ≤ chars.length
  reads : ∀ bound previous braces rest, mayFollow rest → ∃ last after,
    readTokens false (tokens.length + bound) (chars ++ rest) previous braces =
      readBehind tokens (readTokens false bound rest last after)

section Steps

variable {bound braces : Nat} {previous : Option Lexeme} {rest : List Char}

/-- A digit is one of ten characters. -/
private theorem mem_of_isDigit {char : Char} (digit : char.isDigit = true) : char ∈ "0123456789".toList := by
  -- Their codes are the ten from forty-eight on.
  simp only [Char.isDigit, Bool.and_eq_true, decide_eq_true_eq, ge_iff_le, UInt32.le_iff_toNat_le] at digit
  have low : 48 ≤ char.toNat := digit.1
  have high : char.toNat ≤ 57 := digit.2
  rw [← Char.ofNat_toNat char]
  interval_cases char.toNat <;> decide

/-- The marks of JSON. -/
private def jsonMarks : List Char := ['[', ']', '\x7b', '\x7d', ',', ':']

/-- A mark of JSON is a token of its own. -/
private theorem lexes_mark {char : Char} (isMark : char ∈ jsonMarks) :
    Lexes (fun _ => True) [char] [markToken (String.singleton char)] where
  short := Nat.le_refl 1
  reads := fun bound previous braces rest _ => by
    rw [List.length_singleton, Nat.add_comm]
    -- Braces are counted on the way.
    have each : char = '[' ∨ char = ']' ∨ char = '\x7b' ∨ char = '\x7d' ∨ char = ',' ∨ char = ':' := by
      simpa [jsonMarks] using isMark
    rcases each with rfl | rfl | rfl | rfl | rfl | rfl <;> exact ⟨_, _, rfl⟩

/-- A word of JSON is a token of its own. -/
private theorem lexes_word {word : String} (isWord : word ∈ ["null", "true", "false"]) :
    Lexes EndsToken word.toList [wordToken word] where
  -- There are three words, which end where no letter follows.
  short := by
    have each : ∀ word ∈ ["null", "true", "false"], 1 ≤ word.toList.length := by decide
    exact each word isWord
  reads := fun bound previous braces rest ends => by
    rw [List.length_singleton, Nat.add_comm]
    refine ⟨some (.word word), braces, ?_⟩
    have each : ∀ word ∈ ["null", "true", "false"], word.toList.all isWordRest = true := by decide
    have letters : ∀ char ∈ word.toList, isWordRest char = true := List.all_eq_true.1 (each word isWord)
    have taken : (word.toList ++ rest).takeWhile isWordRest = word.toList ∧
        (word.toList ++ rest).dropWhile isWordRest = rest := by
      rw [List.takeWhile_append_of_pos letters, List.dropWhile_append_of_pos letters]
      cases rest with
      | nil => simp
      | cons next more => simp [(ends next rfl).1]
    -- The first letter tells that a word comes.
    have read : readTokens false (bound + 1) (word.toList ++ rest) previous braces =
        readBehind [.mk (.word (String.ofList ((word.toList ++ rest).takeWhile isWordRest))) false]
          (readTokens false bound ((word.toList ++ rest).dropWhile isWordRest)
            (some (.word (String.ofList ((word.toList ++ rest).takeWhile isWordRest)))) braces) := by
      simp only [List.mem_cons, List.not_mem_nil, or_false] at isWord
      rcases isWord with rfl | rfl | rfl <;> rfl
    rw [read, taken.1, taken.2, String.ofList_toList]
    rfl

end Steps

section Numbers

variable {number : Nat} {digits rest : List Char}

/-- Digits write the same number in scripts. -/
private theorem digitsValue_eq (digits : List Char) (start : Nat) :
    digits.foldl (fun total digit => total * 10 + (digit.toNat - 48)) start = Nat.ofDigitChars 10 digits start := by
  -- Both take up one digit after another.
  induction digits generalizing start with
  | nil => rfl
  | cons digit more ih =>
    rw [List.foldl_cons, ih, Nat.ofDigitChars_cons, Nat.mul_comm]
    rfl

/-- The digits of a number are read up to a text that does not go on with it. -/
private theorem readSeparatedDigits_numeral (numeral : Numeral number digits) (ends : EndsToken rest) :
    readSeparatedDigits Char.isDigit (digits ++ rest) = some (digits, rest) := by
  -- No underscore is among the digits or behind them.
  have noUnderscore : '_' ∉ digits := fun member => absurd (numeral.digits _ member) (by decide)
  have parts : ∀ digit ∈ digits, (digit.isDigit || digit == '_') = true := by
    intro digit member
    rw [numeral.digits digit member, Bool.true_or]
  have stopped : rest.takeWhile (fun char => char.isDigit || char == '_') = [] ∧
      rest.dropWhile (fun char => char.isDigit || char == '_') = rest := by
    cases rest with
    | nil => exact ⟨rfl, rfl⟩
    | cons next more =>
      have foreign := (ends next rfl).1
      have ended : (next.isDigit || next == '_') = false := by
        rw [isWordRest, isWordStart] at foreign
        simp only [Bool.or_eq_false_iff] at foreign ⊢
        exact ⟨foreign.2, foreign.1.1.2⟩
      simp [ended]
  have noPair : ((digits.zip digits.tail).any fun pair => pair.1 == '_' && pair.2 == '_') = false := by
    rw [List.any_eq_false]
    intro pair member
    have first := (List.of_mem_zip member).1
    have different : pair.1 ≠ '_' := fun same => noUnderscore (same ▸ first)
    simp [different]
  have noFirst : (digits.head? == some '_') = false := by
    rw [beq_eq_false_iff_ne]
    exact fun same => noUnderscore (List.mem_of_head? same)
  have noLast : (digits.getLast? == some '_') = false := by
    rw [beq_eq_false_iff_ne]
    exact fun same => noUnderscore (List.mem_of_getLast? same)
  have kept : digits.filter (· != '_') = digits := by
    refine List.filter_eq_self.2 fun digit member => ?_
    have different : digit ≠ '_' := fun same => noUnderscore (same ▸ member)
    simp [different]
  rw [readSeparatedDigits, List.takeWhile_append_of_pos parts, List.dropWhile_append_of_pos parts, stopped.1, stopped.2,
    List.append_nil]
  simp [noPair, noFirst, noLast, kept]

/-- The digits of a number are read as that number. -/
private theorem readDecimal_numeral (numeral : Numeral number digits) (ends : EndsToken rest) :
    readDecimal (digits ++ rest) = some (.ofNat number, rest) := by
  -- Neither a fraction nor an exponent follows.
  have exponent : readScriptExponent rest = some (0, rest) := by
    cases rest with
    | nil => rfl
    | cons next more =>
      have foreign := (ends next rfl).1
      -- The mark of an exponent is a letter, which a word could go on with.
      have notMark : (next == 'e' || next == 'E') = false := by
        by_contra mark
        have goesOn : isWordRest next = true := by
          rcases Bool.or_eq_true_iff.1 (Bool.eq_true_of_not_eq_false mark) with small | capital
          · rw [eq_of_beq small]
            decide
          · rw [eq_of_beq capital]
            decide
        exact absurd goesOn (by simp [foreign])
      simp [readScriptExponent, notMark]
  have value : digitsValue digits = number := (digitsValue_eq digits 0).trans numeral.value
  have whole : Number.ofDecimal number 0 = .ofNat number := by
    simp [Number.ofDecimal]
  rw [readDecimal, readSeparatedDigits_numeral numeral ends]
  simp only [Option.bind_eq_bind, Option.bind_some, exponent, List.append_nil, value]
  split
  · exact absurd rfl (ends '.' rfl).2
  · exact congrArg (fun number => some (number, _)) whole

/-- The digits of a number are read as a number of the usual form. -/
private theorem readScriptNumber_numeral (numeral : Numeral number digits) (ends : EndsToken rest) :
    readScriptNumber (digits ++ rest) = some (.ofNat number, false, rest) := by
  -- A zero stands alone, so the second character is no digit and no mark of a base.
  have decimal := readDecimal_numeral numeral ends
  have foreign : ∀ first second more, digits ++ rest = first :: second :: more → first = '0' →
      isWordRest second = false := by
    rintro first second more spelled rfl
    have zero : digits = ['0'] := by
      refine numeral.plain ?_
      rw [← List.head?_append_of_ne_nil _ numeral.nonempty, spelled]
      rfl
    rw [zero] at spelled
    obtain ⟨-, rfl⟩ := List.cons.inj spelled
    exact (ends second rfl).1
  have ended : rest.head?.any isWordRest = false := by
    cases rest with
    | nil => rfl
    | cons next more => exact (ends next rfl).1
  generalize digits ++ rest = chars at decimal foreign ⊢
  -- The old form of octal numbers has a digit behind a zero.
  have usual : (chars.head? == some '0' && (chars[1]?).any fun char => char.isDigit || char == '_') = false := by
    match chars, foreign with
    | [], _ => rfl
    | [_], _ => exact Bool.and_false _
    | first :: second :: more, foreign =>
      by_cases zero : first = '0'
      · have notRest := foreign first second more rfl zero
        rw [isWordRest, isWordStart] at notRest
        simp only [Bool.or_eq_false_iff] at notRest
        simp [notRest]
      · simp [zero]
  -- The forms with a base have a letter behind a zero.
  unfold readScriptNumber
  simp only [usual]
  split
  all_goals try exact absurd (foreign _ _ _ rfl rfl) (by decide)
  simp [decimal, ended]

/-- The digits of a number are a token of their own. -/
private theorem lexes_numeral (numeral : Numeral number digits) :
    Lexes EndsToken digits [magnitudeToken number] where
  -- The first of the ten digits tells that a number comes.
  short := List.length_pos_iff.2 numeral.nonempty
  reads := fun bound previous braces rest ends => by
    rw [List.length_singleton, Nat.add_comm]
    have read := readScriptNumber_numeral numeral ends
    obtain ⟨first, more, rfl⟩ := List.exists_cons_of_ne_nil numeral.nonempty
    have step : readTokens false (bound + 1) (first :: (more ++ rest)) previous braces =
        (readScriptNumber (first :: (more ++ rest))).bind fun found =>
          readBehind [.mk (.number found.1 found.2.1) false]
            (readTokens false bound found.2.2 (some (.number found.1 found.2.1)) braces) := by
      have each := mem_of_isDigit (numeral.digits first List.mem_cons_self)
      simp only [String.reduceToList, List.mem_cons, List.not_mem_nil, or_false] at each
      rcases each with rfl | rfl | rfl | rfl | rfl | rfl | rfl | rfl | rfl | rfl <;> rfl
    rw [List.cons_append] at read ⊢
    rw [step, read]
    exact ⟨_, _, rfl⟩

/-- The sign of a number is a token of its own. -/
private theorem lexes_sign :
    Lexes (fun rest => ∃ digit more, rest = digit :: more ∧ digit.isDigit = true) ['-'] [markToken "-"] where
  -- Before a digit the sign is neither a counting mark nor part of an assignment.
  short := Nat.le_refl 1
  reads := by
    rintro bound previous braces rest ⟨digit, more, rfl, isDigit⟩
    rw [List.length_singleton, Nat.add_comm]
    have each := mem_of_isDigit isDigit
    simp only [String.reduceToList, List.mem_cons, List.not_mem_nil, or_false] at each
    rcases each with rfl | rfl | rfl | rfl | rfl | rfl | rfl | rfl | rfl | rfl <;> exact ⟨_, _, rfl⟩

end Numbers

section Texts

variable {value : String} {char : Char} {part rest : List Char}

/-- The hexadecimal digits of a control are read as its number. -/
private theorem valueInBase_control {high low : Char} (control : char.toNat < 32)
    (highDigit : Json.hexDigits[char.toNat / 16]? = some high)
    (lowDigit : Json.hexDigits[char.toNat % 16]? = some low) :
    (∀ digit ∈ ['0', '0', high, low], (digitOf? digit).any (· < 16) = true) ∧
      valueInBase 16 ['0', '0', high, low] = char.toNat := by
  -- There are thirty-two controls.
  generalize char.toNat = code at control highDigit lowDigit
  have each : ∀ code : Fin 32, (Json.hexDigits[code.val / 16]?.all fun high =>
      Json.hexDigits[code.val % 16]?.all fun low =>
        ['0', '0', high, low].all (fun digit => (digitOf? digit).any (· < 16)) &&
          valueInBase 16 ['0', '0', high, low] == code.val) = true := by
    decide
  have here := each ⟨code, control⟩
  simp only [highDigit, lowDigit, Option.all_some, Bool.and_eq_true, List.all_eq_true, beq_iff_eq] at here
  exact here

/-- A character without an escape of its own is neither a quote nor a backslash, and ends no line. -/
private theorem plain_of_noLetter (noLetter : ∀ letter, (char, letter) ∉ Json.letterEscapes) :
    char ≠ '"' ∧ char ≠ '\\' ∧ char ≠ '\n' ∧ char ≠ '\r' := by
  -- All four have a letter.
  refine ⟨?_, ?_, ?_, ?_⟩ <;> rintro rfl
  · exact noLetter '"' (by decide)
  · exact noLetter '\\' (by decide)
  · exact noLetter 'n' (by decide)
  · exact noLetter 'r' (by decide)

/-- What stands for a character is read as that character. -/
private theorem readScriptText_escaped (escaped : Json.Escaped char part) (bound : Nat) (units : Units) :
    readScriptText '"' (bound + 1) (part ++ rest) units =
      readScriptText '"' bound rest ((Units.ofChar char).reverse ++ units) := by
  -- A step reads the character itself, its letter behind a backslash, or its number.
  cases escaped with
  | plain visible noLetter =>
    obtain ⟨quote, backslash, newline, ret⟩ := plain_of_noLetter noLetter
    rw [List.singleton_append, readScriptText]
    · simp [quote, newline, ret]
    · exact backslash
  | letter member =>
    simp only [Json.letterEscapes, List.mem_cons, Prod.mk.injEq, List.not_mem_nil, or_false] at member
    rcases member with ⟨rfl, rfl⟩ | ⟨rfl, rfl⟩ | ⟨rfl, rfl⟩ | ⟨rfl, rfl⟩ | ⟨rfl, rfl⟩ | ⟨rfl, rfl⟩ | ⟨rfl, rfl⟩ <;> rfl
  -- A number has four hexadecimal digits, of which the first two are zeros.
  | @number high low control noLetter highDigit lowDigit =>
    obtain ⟨small, value⟩ := valueInBase_control control highDigit lowDigit
    have read : readUnicodeEscape ('0' :: '0' :: high :: low :: rest) = some (Units.ofChar char, rest) := by
      have all : ['0', '0', high, low].all (fun digit => (digitOf? digit).any (· < 16)) = true :=
        List.all_eq_true.2 small
      have units : Units.ofChar char = [UInt16.ofNat char.toNat] := if_pos (by omega)
      simp only [readUnicodeEscape, List.take, List.length, all, value, units]
      rfl
    have escape : readScriptEscape ('u' :: '0' :: '0' :: high :: low :: rest) = some (Units.ofChar char, rest) := read
    rw [show ['\\', 'u', '0', '0', high, low] ++ rest = '\\' :: 'u' :: '0' :: '0' :: high :: low :: rest from rfl,
      readScriptText, escape]
    rfl

/-- What stands for a character holds no octal escape. -/
private theorem hasLegacyEscape_escaped (escaped : Json.Escaped char part) :
    hasLegacyEscape '"' (part ++ rest) = hasLegacyEscape '"' rest := by
  -- A digit never stands right behind a backslash.
  cases escaped with
  | plain visible noLetter =>
    obtain ⟨quote, backslash, -, -⟩ := plain_of_noLetter noLetter
    simp [hasLegacyEscape, quote, backslash]
  | letter member =>
    simp only [Json.letterEscapes, List.mem_cons, Prod.mk.injEq, List.not_mem_nil, or_false] at member
    rcases member with ⟨rfl, rfl⟩ | ⟨rfl, rfl⟩ | ⟨rfl, rfl⟩ | ⟨rfl, rfl⟩ | ⟨rfl, rfl⟩ | ⟨rfl, rfl⟩ | ⟨rfl, rfl⟩ <;> rfl
  | @number high low control noLetter highDigit lowDigit =>
    have each : (Json.hexDigits.all fun digit => digit != '"' && digit != '\\') = true := by decide
    have plain : ∀ digit ∈ Json.hexDigits, digit ≠ '"' ∧ digit ≠ '\\' := by simpa using each
    obtain ⟨highQuote, highBackslash⟩ := plain high (List.mem_of_getElem? highDigit)
    obtain ⟨lowQuote, lowBackslash⟩ := plain low (List.mem_of_getElem? lowDigit)
    simp [hasLegacyEscape, isLegacyEscape, highQuote, highBackslash, lowQuote, lowBackslash]

/-- What stands for characters is read as these characters up to the quote behind it. -/
private theorem readScriptText_parts {chars : List Char} {parts : List (List Char)}
    (each : List.Forall₂ Json.Escaped chars parts) {bound : Nat} (enough : chars.length < bound) (units : Units) :
    readScriptText '"' bound (parts.flatten ++ '"' :: rest) units =
      some ((Units.ofChars chars).reverse ++ units, rest) := by
  -- By induction on the characters: each takes one step.
  obtain ⟨bound, rfl⟩ : ∃ less, bound = less + 1 := ⟨bound - 1, by omega⟩
  induction each generalizing bound units with
  | nil => rfl
  | @cons char part chars parts escaped _ ih =>
    obtain ⟨bound, rfl⟩ : ∃ less, bound = less + 1 := ⟨bound - 1, by simp only [List.length_cons] at enough; omega⟩
    rw [List.flatten_cons, List.append_assoc, readScriptText_escaped escaped,
      ih _ bound (by simpa using enough)]
    simp [Units.ofChars]

/-- What stands for characters holds no octal escape. -/
private theorem hasLegacyEscape_parts {chars : List Char} {parts : List (List Char)}
    (each : List.Forall₂ Json.Escaped chars parts) : hasLegacyEscape '"' (parts.flatten ++ '"' :: rest) = false := by
  -- By induction on the characters, up to the quote.
  induction each with
  | nil => rfl
  | cons escaped _ ih => rw [List.flatten_cons, List.append_assoc, hasLegacyEscape_escaped escaped, ih]

/-- Characters are stood for by as many characters at least. -/
private theorem length_le_parts {chars : List Char} {parts : List (List Char)}
    (each : List.Forall₂ Json.Escaped chars parts) : chars.length ≤ parts.flatten.length := by
  -- By induction on the characters: none is stood for by nothing.
  induction each with
  | nil => rfl
  | @cons char part chars parts escaped _ ih =>
    have nonempty : 1 ≤ part.length := by cases escaped <;> simp
    rw [List.flatten_cons, List.length_append, List.length_cons]
    omega

/-- Whether the characters of a text up to its quote ask for the strict rules. -/
private def asksForStrict (chars : List Char) : Bool :=
  -- The quote has to follow at once.
  chars.take 10 == "use strict".toList && chars[10]? == some '"'

/-- Whether a text asks for the strict rules is known at its quote. -/
private theorem asksForStrict_append {chars : List Char} (quoted : '"' ∈ chars) (rest : List Char) :
    asksForStrict (chars ++ rest) = asksForStrict chars := by
  -- Eleven characters decide.
  by_cases long : 10 < chars.length
  · rw [asksForStrict, asksForStrict, List.take_append_of_le_length (Nat.le_of_lt long), List.getElem?_append_left long]
  · -- The directive has no quote among its letters.
    have short : chars.length ≤ 10 := Nat.not_lt.1 long
    have noDirective {others : List Char} (sublist : chars ⊆ others.take 10) : asksForStrict others = false := by
      have different : others.take 10 ≠ "use strict".toList := by
        intro same
        rw [same] at sublist
        exact absurd (sublist quoted) (by decide)
      rw [asksForStrict, beq_eq_false_iff_ne.2 different, Bool.false_and]
    rw [@noDirective (chars ++ rest), @noDirective chars]
    · rw [List.take_of_length_le short]
      exact List.Subset.refl _
    · rw [List.take_append, List.take_of_length_le short]
      exact List.subset_append_left _ _

/-- A text between quotes is a token of its own. -/
private theorem lexes_quoted {chars : List Char} (quoted : Json.Quoted value chars) :
    ∃ isDirective, Lexes (fun _ => True) chars [textToken value isDirective] := by
  -- The opening quote tells that a text comes, and the bound is as long as the rest.
  cases quoted with
  | @quoted parts each =>
    refine ⟨asksForStrict (parts.flatten ++ ['"']), by simp, fun bound previous braces rest _ => ?_⟩
    have fits : value.toList.length < (parts.flatten ++ '"' :: rest).length + 1 := by
      have atLeast := length_le_parts each
      rw [List.length_append]
      omega
    -- Whether it looks like a directive is known before what follows.
    have flag := @asksForStrict_append (parts.flatten ++ ['"']) (by simp) rest
    rw [List.append_assoc, List.singleton_append] at flag
    have step : readTokens false (bound + 1) ('"' :: (parts.flatten ++ '"' :: rest)) previous braces =
        (readScriptText '"' ((parts.flatten ++ '"' :: rest).length + 1) (parts.flatten ++ '"' :: rest) []).bind
          fun found =>
            let lexeme := Lexeme.text found.1.reverse (asksForStrict (parts.flatten ++ '"' :: rest))
              (hasLegacyEscape '"' (parts.flatten ++ '"' :: rest))
            readBehind [.mk lexeme false] (readTokens false bound found.2 (some lexeme) braces) := rfl
    rw [List.length_singleton, Nat.add_comm, List.cons_append, List.append_assoc, List.singleton_append, step,
      readScriptText_parts each fits, hasLegacyEscape_parts each, flag, Option.bind_some, List.append_nil,
      List.reverse_reverse]
    exact ⟨_, _, rfl⟩

end Texts

namespace Lexes

variable {mayFollow laterFollow : List Char → Prop} {chars others : List Char} {tokens more : List Token}

/-- Characters that may follow one another are read one after another. -/
theorem append (first : Lexes mayFollow chars tokens) (second : Lexes laterFollow others more)
    (follows : ∀ rest, laterFollow rest → mayFollow (others ++ rest)) :
    Lexes laterFollow (chars ++ others) (tokens ++ more) where
  -- The second part is read where the first has ended, with what is left of the bound.
  short := by
    rw [List.length_append, List.length_append]
    exact Nat.add_le_add first.short second.short
  reads := fun bound previous braces rest ends => by
    obtain ⟨last, after, firstReads⟩ :=
      first.reads (more.length + bound) previous braces (others ++ rest) (follows rest ends)
    obtain ⟨lastOfAll, afterAll, secondReads⟩ := second.reads bound last after rest ends
    refine ⟨lastOfAll, afterAll, ?_⟩
    rw [List.length_append, Nat.add_assoc, List.append_assoc, firstReads, secondReads, readBehind_append]

/-- Less may follow than is allowed. -/
theorem restrict (lexes : Lexes mayFollow chars tokens) (fewer : ∀ rest, laterFollow rest → mayFollow rest) :
    Lexes laterFollow chars tokens where
  short := lexes.short
  reads := fun bound previous braces rest ends => lexes.reads bound previous braces rest (fewer rest ends)

end Lexes

section Values

/-- A word or a number ends at a mark that could not belong to it. -/
theorem endsToken_cons {char : Char} (foreign : isWordRest char = false ∧ char ≠ '.') (rest : List Char) :
    EndsToken (char :: rest) := by
  -- The mark is the next character.
  rintro next ⟨⟩
  exact foreign

/-- Parts with commas between them are read one after another. -/
private theorem lexes_joined {α : Type} (textOf : α → List Char) (tokensOf : α → List Token) (parts : List α)
    (each : ∀ part ∈ parts, Lexes EndsToken (textOf part) (tokensOf part)) :
    Lexes EndsToken (List.intercalate [','] (parts.map textOf))
      (List.intercalate [markToken ","] (parts.map tokensOf)) := by
  -- By induction on the parts: each but the last is followed by a comma.
  induction parts with
  | nil => exact ⟨Nat.le_refl 0, fun bound previous braces rest _ => ⟨previous, braces, by simp [readBehind]⟩⟩
  | cons part rest ih =>
    obtain ⟨partLexes, restLexes⟩ := List.forall_mem_cons.1 each
    cases rest with
    | nil => simpa using partLexes
    | cons next rest =>
      have comma : Lexes (fun _ => True) [','] [markToken ","] := lexes_mark (by decide)
      have later := comma.append (ih restLexes) fun _ _ => trivial
      have joined := partLexes.append later fun _ _ => endsToken_cons (by decide) _
      simpa using joined

/-- Parts in brackets are read with the brackets around them. -/
private theorem lexes_enclosed {opening closing : Char} (opens : opening ∈ jsonMarks)
    (closes : closing ∈ jsonMarks) {chars : List Char} {tokens : List Token}
    (inside : Lexes EndsToken chars tokens) :
    Lexes (fun _ => True) (opening :: (chars ++ [closing]))
      (markToken (String.singleton opening) :: (tokens ++ [markToken (String.singleton closing)])) := by
  -- The closing bracket ends what stands inside.
  have each : (jsonMarks.all fun char => !isWordRest char && char != '.') = true := by decide
  have foreign : ∀ char ∈ jsonMarks, isWordRest char = false ∧ char ≠ '.' := by
    simpa only [List.all_eq_true, Bool.and_eq_true, Bool.not_eq_true', bne_iff_ne] using each
  have closed := inside.append (lexes_mark closes) fun rest _ => endsToken_cons (foreign closing closes) rest
  exact (lexes_mark opens).append closed fun _ _ => trivial

/-- Items between brackets are read as tokens that spell their list, when each item is. -/
private theorem lexes_list {items : List (Json × List Char)}
    (found : ∀ item ∈ items, ∃ tokens, Spelled item.1 tokens ∧ Lexes EndsToken item.2 tokens) :
    ∃ tokens, Spelled (.list (items.map (·.1))) tokens ∧
      Lexes EndsToken ('[' :: (List.intercalate [','] (items.map (·.2)) ++ [']'])) tokens := by
  -- The tokens of the items are chosen and joined in brackets.
  choose! tokensOf spelled lexes using found
  have spelling := Spelled.list (items.map fun item => (item.1, tokensOf item)) (List.forall_mem_map.2 spelled)
  simp only [List.map_map, Function.comp_def] at spelling
  have joined := lexes_joined (·.2) tokensOf items lexes
  exact ⟨_, spelling, (lexes_enclosed (by decide) (by decide) joined).restrict fun _ _ => trivial⟩

/-- Members between braces are read as tokens that spell their object, when each name and each value is. -/
private theorem lexes_object {members : List ((String × List Char) × (Json × List Char))}
    (names : ∀ member ∈ members, Json.Quoted member.1.1 member.1.2)
    (found : ∀ member ∈ members, ∃ tokens, Spelled member.2.1 tokens ∧ Lexes EndsToken member.2.2 tokens) :
    ∃ tokens, Spelled (.object (members.map fun member => (member.1.1, member.2.1))) tokens ∧
      Lexes EndsToken
        ('\x7b' :: (List.intercalate [','] (members.map fun member => member.1.2 ++ ':' :: member.2.2) ++ ['\x7d']))
        tokens := by
  -- The tokens of the names and of the values are chosen.
  have named : ∀ member ∈ members, ∃ isDirective,
      Lexes (fun _ => True) member.1.2 [textToken member.1.1 isDirective] :=
    fun member isMember => lexes_quoted (names member isMember)
  choose! tokensOf spelled lexes using found
  choose! directiveOf nameLexes using named
  have spelling := Spelled.object
    (members.map fun member => ((member.1.1, directiveOf member), (member.2.1, tokensOf member)))
    (List.forall_mem_map.2 spelled)
  simp only [List.map_map, Function.comp_def] at spelling
  -- A colon stands between a name and its value.
  have each : ∀ member ∈ members, Lexes EndsToken (member.1.2 ++ ':' :: member.2.2)
      (textToken member.1.1 (directiveOf member) :: markToken ":" :: tokensOf member) := by
    intro member isMember
    have colon : Lexes (fun _ => True) [':'] [markToken ":"] := lexes_mark (by decide)
    have value := colon.append (lexes member isMember) fun _ _ => trivial
    exact (nameLexes member isMember).append value fun _ _ => trivial
  have joined := lexes_joined _ _ members each
  exact ⟨_, spelling, (lexes_enclosed (by decide) (by decide) joined).restrict fun _ _ => trivial⟩

/-- The compact JSON of a value is read as tokens that spell the value. -/
theorem lexes_compact {depth : Nat} {json : Json} {chars : List Char} (compact : Json.Compact json chars)
    (exact : Exact depth json) : ∃ tokens, Spelled json tokens ∧ Lexes EndsToken chars tokens := by
  -- By induction on the text: each part has its tokens, and marks stand between them.
  induction compact generalizing depth with
  | null => exact ⟨_, .null, lexes_word (by decide)⟩
  | true => exact ⟨_, .true, lexes_word (by decide)⟩
  | false => exact ⟨_, .false, lexes_word (by decide)⟩
  | @integer value digits numeral =>
    refine ⟨_, .integer value, ?_⟩
    rw [wholeTokens]
    split
    · -- Below zero the digits follow the sign.
      refine lexes_sign.append (lexes_numeral numeral) fun rest _ => ?_
      obtain ⟨first, more, rfl⟩ := List.exists_cons_of_ne_nil numeral.nonempty
      exact ⟨first, more ++ rest, rfl, numeral.digits first List.mem_cons_self⟩
    · -- Otherwise there are only digits.
      exact lexes_numeral numeral
  -- Numbers with a fraction are not looked at.
  | float => cases exact
  | special => cases exact
  | text quoted =>
    obtain ⟨isDirective, lexes⟩ := lexes_quoted quoted
    exact ⟨_, .text _ isDirective, lexes.restrict fun _ _ => trivial⟩
  -- What holds of the parts is put together.
  | list items each ih =>
    cases exact with
    | list eachExact => exact lexes_list fun item member => ih item member (eachExact _ (List.mem_map_of_mem member))
  | object members names each ih =>
    cases exact with
    | object ascending eachExact =>
      exact lexes_object names fun member isMember => ih member isMember (eachExact _ (List.mem_map_of_mem isMember))

end Values

end Script

end PipelineTrial
