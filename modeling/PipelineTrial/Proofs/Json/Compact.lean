import Mathlib.Data.List.Forall2
import PipelineTrial.Json.Printer
import PipelineTrial.Proofs.Decimal.Text

/-! Compact JSON as a grammar of its own, and that values are written in it. -/

namespace PipelineTrial

namespace Json

/-- The characters with an escape of one letter, each with its letter. -/
def letterEscapes : List (Char × Char) :=
  [('"', '"'), ('\\', '\\'), ('\x08', 'b'), ('\x0c', 'f'), ('\n', 'n'), ('\r', 'r'), ('\t', 't')]

/-- The digits of hexadecimal numbers. -/
def hexDigits : List Char := "0123456789abcdef".toList

/-- What stands for a character between the quotes of a text. -/
inductive Escaped : Char → List Char → Prop where
  | plain {char : Char} (visible : 32 ≤ char.toNat) (noLetter : ∀ letter, (char, letter) ∉ letterEscapes) :
    Escaped char [char]
  | letter {char letter : Char} (member : (char, letter) ∈ letterEscapes) : Escaped char ['\\', letter]
  /-- All other controls are given by their number. -/
  | number {char high low : Char} (control : char.toNat < 32) (noLetter : ∀ letter, (char, letter) ∉ letterEscapes)
    (highDigit : hexDigits[char.toNat / 16]? = some high) (lowDigit : hexDigits[char.toNat % 16]? = some low) :
    Escaped char ['\\', 'u', '0', '0', high, low]

/-- A text stands between quotes, with its characters escaped one by one. -/
inductive Quoted : String → List Char → Prop where
  | quoted {text : String} {parts : List (List Char)} (each : List.Forall₂ Escaped text.toList parts) :
    Quoted text ('"' :: (parts.flatten ++ ['"']))

/-- The compact JSON of a value: its text without blanks between the signs of the grammar. -/
inductive Compact : Json → List Char → Prop where
  | null : Compact .null "null".toList
  | true : Compact (.boolean true) "true".toList
  | false : Compact (.boolean false) "false".toList
  | integer {value : Int} {digits : List Char} (numeral : Numeral value.natAbs digits) :
    Compact (.integer value) (if value < 0 then '-' :: digits else digits)
  /-- A number with a fraction is written as a decimal that rounds to it. -/
  | float {number : Float} {value : ℚ} {chars : List Char} (text : WritesNumber value chars)
    (rounds : RoundsTo value number) : Compact (.float number) chars
  /-- JSON has no text for infinities and for what is no number. -/
  | special {number : Float} (special : exactValue? number = none) : Compact (.float number) "null".toList
  | text {value : String} {chars : List Char} (quoted : Quoted value chars) : Compact (.text value) chars
  | list (items : List (Json × List Char)) (each : ∀ item ∈ items, Compact item.1 item.2) :
    Compact (.list (items.map (·.1))) ('[' :: (List.intercalate [','] (items.map (·.2)) ++ [']']))
  /-- The fields stand in the order in which the object has them. -/
  | object (members : List ((String × List Char) × (Json × List Char)))
    (names : ∀ member ∈ members, Quoted member.1.1 member.1.2)
    (each : ∀ member ∈ members, Compact member.2.1 member.2.2) :
    Compact (.object (members.map fun member => (member.1.1, member.2.1)))
      ('\x7b' :: (List.intercalate [','] (members.map fun member => member.1.2 ++ ':' :: member.2.2) ++ ['\x7d']))

/-- Hexadecimal digits are numbered as they are listed. -/
private theorem hexDigits_getElem? {digit : Nat} (small : digit < 16) : hexDigits[digit]? = some (hexDigit digit) := by
  -- There are sixteen digits.
  have each : ∀ digit : Fin 16, hexDigits[digit.val]? = some (hexDigit digit.val) := by decide
  exact each ⟨digit, small⟩

/-- Characters are written with the escapes of the grammar. -/
private theorem escaped_escapeChar (char : Char) : Escaped char (escapeChar char) := by
  -- Seven characters have a letter, and the other controls a number.
  have lettered {letter : Char} (member : (char, letter) ∈ letterEscapes) : Escaped char ['\\', letter] :=
    .letter member
  unfold escapeChar
  split_ifs with quote backslash backspace tab newline feed ret control
  · exact lettered (by simp [letterEscapes, quote])
  · exact lettered (by simp [letterEscapes, backslash])
  · exact lettered (by simp [letterEscapes, backspace])
  · exact lettered (by simp [letterEscapes, tab])
  · exact lettered (by simp [letterEscapes, newline])
  · exact lettered (by simp [letterEscapes, feed])
  · exact lettered (by simp [letterEscapes, ret])
  · -- A control without a letter is given by its number.
    have noLetter (letter : Char) : (char, letter) ∉ letterEscapes := by
      simp [letterEscapes, quote, backslash, backspace, tab, newline, feed, ret]
    exact .number control noLetter (hexDigits_getElem? (by omega)) (hexDigits_getElem? (by omega))
  · -- Any other character stands for itself.
    have noLetter (letter : Char) : (char, letter) ∉ letterEscapes := by
      simp [letterEscapes, quote, backslash, backspace, tab, newline, feed, ret]
    exact .plain (Nat.not_lt.1 control) noLetter

/-- Texts are written between quotes. -/
theorem quoted_writeText (text : String) : Quoted text (writeText text) := by
  -- The characters are written one by one.
  have each : List.Forall₂ Escaped text.toList (text.toList.map escapeChar) := by
    rw [List.forall₂_map_right_iff]
    exact List.forall₂_same.2 fun char _ => escaped_escapeChar char
  rw [writeText, List.flatMap_def]
  exact .quoted each

/-- Integers are written in decimal. -/
private theorem compact_integer (value : Int) : Compact (.integer value) (toString value).toList := by
  -- A sign stands before the digits of a negative number.
  have text := Compact.integer (numeral_toDigits value.natAbs)
  cases value with
  | ofNat value =>
    have spelled : (toString (Int.ofNat value)).toList = Nat.toDigits 10 value := Nat.toList_repr
    rw [spelled]
    exact text
  | negSucc value =>
    have spelled : (toString (Int.negSucc value)).toList = '-' :: Nat.toDigits 10 (value + 1) := by
      change ("-" ++ (value + 1).repr).toList = _
      rw [String.toList_append, Nat.toList_repr]
      rfl
    rw [if_pos (Int.negSucc_lt_zero value)] at text
    rw [spelled]
    exact text

/-- Numbers with a fraction are written as decimals that round to them. -/
private theorem compact_float (number : Float) : Compact (.float number) (writeFloat number) := by
  -- Only finite numbers have a text.
  unfold writeFloat
  split
  · next finite =>
    -- A finite number is written as the decimal that its layout gives.
    obtain ⟨value, text, rounds⟩ := numberLayout.exists_writesNumber rfl rfl finite
    exact .float text rounds
  · next special =>
    -- Any other number has no exact value.
    refine .special (exactValue?_special ?_)
    by_contra ordinary
    exact special (isFinite_iff.2 ordinary)

/-- The items of a list are written with commas between them. -/
private theorem intercalate_write (item : Json) (rest : List Json) :
    List.intercalate [','] ((item :: rest).map write) = write item ++ writeItems rest := by
  -- By induction on the other items: a comma stands before each of them.
  induction rest generalizing item with
  | nil => simp [writeItems]
  | cons next rest ih =>
    have following := ih next
    simp only [List.map_cons, List.intercalate_cons_cons, writeItems] at following ⊢
    rw [following]
    simp

/-- A field is written as its name, a colon and its value. -/
def writeField (field : String × Json) : List Char := writeText field.1 ++ ':' :: write field.2

/-- The fields of an object are written with commas between them. -/
private theorem intercalate_writeField (field : String × Json) (rest : List (String × Json)) :
    List.intercalate [','] ((field :: rest).map writeField) = writeField field ++ writeFields rest := by
  -- By induction on the other fields: a comma stands before each of them.
  induction rest generalizing field with
  | nil => simp [writeFields]
  | cons next rest ih =>
    have following := ih next
    simp only [List.map_cons, List.intercalate_cons_cons] at following ⊢
    rw [following, writeFields]
    simp [writeField]

mutual

/-- Every value is written as compact JSON. -/
theorem compact_write : (value : Json) → Compact value (write value)
  | .null => .null
  | .boolean true => .true
  | .boolean false => .false
  | .integer value => compact_integer value
  | .float value => compact_float value
  | .text value => .text (quoted_writeText value)
  -- The first item has no comma before it, all others have.
  | .list items => by
    have text := Compact.list (items.map fun item => (item, write item)) (compact_items items)
    cases items with
    | nil => exact text
    | cons item rest =>
      have joined := intercalate_write item rest
      simp only [List.map_map, Function.comp_def, List.map_id'] at text joined
      rw [joined] at text
      simpa [write] using text
  -- The names are quoted, and the first field has no comma before it.
  | .object fields => by
    have names : ∀ member ∈ fields.map (fun field => ((field.1, writeText field.1), (field.2, write field.2))),
        Quoted member.1.1 member.1.2 := by
      simp only [List.forall_mem_map]
      exact fun field _ => quoted_writeText field.1
    have text := Compact.object _ names (compact_fields fields)
    cases fields with
    | nil => exact text
    | cons field rest =>
      have joined := intercalate_writeField field rest
      simp only [List.map_map, Function.comp_def, List.map_id'] at text
      change Compact _ ('\x7b' :: (List.intercalate [','] (List.map writeField (field :: rest)) ++ ['\x7d'])) at text
      rw [joined] at text
      simpa [write, writeField] using text

/-- The items of a list are written as compact JSON. -/
theorem compact_items : (items : List Json) →
    ∀ item ∈ items.map (fun item => (item, write item)), Compact item.1 item.2
  | [], _, member => nomatch member
  | item :: rest, _, member => by
    rcases List.mem_cons.1 member with rfl | later
    · exact compact_write item
    · exact compact_items rest _ later

/-- The values of fields are written as compact JSON. -/
theorem compact_fields : (fields : List (String × Json)) →
    ∀ member ∈ fields.map (fun field => ((field.1, writeText field.1), (field.2, write field.2))),
      Compact member.2.1 member.2.2
  | [], _, member => nomatch member
  | (name, value) :: rest, _, member => by
    rcases List.mem_cons.1 member with rfl | later
    · exact compact_write value
    · exact compact_fields rest _ later

end

end Json

end PipelineTrial
