import Mathlib.Data.List.TakeWhile
import PipelineTrial.Json.Reader

/-! Numbers, texts and marks are read from the front of a text in the same way whatever follows them. -/

namespace PipelineTrial

namespace Json

variable {α : Type}

/-- A reader takes a value from a part of a text before everything that may follow that part. -/
def Takes (read : List Char → Option (α × List Char)) (mayFollow : List Char → Prop)
    (used : List Char) (value : α) : Prop :=
  -- The reader stops exactly at the end of the part.
  ∀ other, mayFollow other → read (used ++ other) = some (value, other)

/-- A text does not start with a digit. -/
private def EndsDigits (chars : List Char) : Prop := ∀ next ∈ chars.head?, next.isDigit = false

/-- A text goes on neither with digits nor with a point. -/
private def EndsFraction (chars : List Char) : Prop :=
  ∀ next ∈ chars.head?, next.isDigit = false ∧ next ≠ '.'

/-- A text does not go on with a number that stands before it. -/
def EndsNumber (chars : List Char) : Prop :=
  -- Digits, a point and the marks of an exponent would belong to the number.
  ∀ next ∈ chars.head?, next.isDigit = false ∧ next ≠ '.' ∧ next ≠ 'e' ∧ next ≠ 'E'

/-- The digits before a text that does not go on with them are cut off exactly. -/
private theorem span_digits {digits other : List Char}
    (all : ∀ digit ∈ digits, digit.isDigit = true) (ended : EndsDigits other) :
    (digits ++ other).takeWhile Char.isDigit = digits ∧
      (digits ++ other).dropWhile Char.isDigit = other := by
  -- Nothing of the other text is taken.
  have stopped : other.takeWhile Char.isDigit = [] ∧ other.dropWhile Char.isDigit = other := by
    cases other with
    | nil => exact ⟨rfl, rfl⟩
    | cons next rest => simp [ended next rfl]
  rw [List.takeWhile_append_of_pos all, List.dropWhile_append_of_pos all, stopped.1, stopped.2]
  exact ⟨List.append_nil digits, rfl⟩

/-- The leading digits of a text are digits. -/
private theorem isDigit_of_mem_takeWhile (chars : List Char) :
    ∀ digit ∈ chars.takeWhile Char.isDigit, digit.isDigit = true :=
  fun _ member => List.mem_takeWhile_imp member

/-- Digits are read up to a text that does not go on with them. -/
private theorem readDigits_takes {chars digits rest : List Char}
    (read : readDigits chars = some (digits, rest)) :
    chars = digits ++ rest ∧ (∃ first more, digits = first :: more ∧ first.isDigit = true) ∧
      Takes readDigits EndsDigits digits digits := by
  -- The digits are the whole leading run, here and before the other text.
  unfold readDigits at read
  extract_lets leading at read
  split at read
  · cases read
  · next nonempty =>
    obtain ⟨rfl, rfl⟩ : leading = digits ∧ chars.dropWhile Char.isDigit = rest := by
      simpa using read
    refine ⟨List.takeWhile_append_dropWhile.symm, ?_, ?_⟩
    · cases shape : leading with
      | nil => simp [shape] at nonempty
      | cons first more =>
        have leads : first ∈ leading := shape ▸ List.mem_cons_self
        exact ⟨first, more, rfl, isDigit_of_mem_takeWhile chars first leads⟩
    · intro other ended
      obtain ⟨taken, left⟩ := span_digits (isDigit_of_mem_takeWhile chars) ended
      unfold readDigits
      rw [taken, left]
      exact if_neg nonempty

/-- A whole number is read from its digits. -/
private theorem readWhole_takes {chars digits rest : List Char}
    (read : readWhole chars = some (digits, rest)) :
    chars = digits ++ rest ∧ (∃ first more, digits = first :: more ∧ first.isDigit = true) ∧
      Takes readWhole EndsDigits digits digits := by
  -- The leading zero is looked for in the digits alone.
  unfold readWhole at read
  split at read
  · cases read
  · next found =>
    split at read
    · cases read
    · next passes =>
      cases read
      obtain ⟨spelled, start, takes⟩ := readDigits_takes found
      refine ⟨spelled, start, fun other ended => ?_⟩
      simp only [readWhole, takes other ended]
      exact if_neg passes

/-- A fraction is read from its point and its digits; without one the whole digits end all the same. -/
private theorem readFraction_takes {chars digits rest : List Char}
    (read : readFraction chars = some (digits, rest)) :
    ∃ used, chars = used ++ rest ∧ Takes readFraction EndsFraction used digits ∧
      ∀ other, EndsFraction other → EndsDigits (used ++ other) := by
  -- Without a point nothing is taken, and what follows must not start with one.
  unfold readFraction at read
  split at read
  · obtain ⟨rfl, -, takes⟩ := readDigits_takes read
    refine ⟨'.' :: digits, rfl, fun other ended => ?_, fun other _ next found => ?_⟩
    · exact takes other fun next found => (ended next found).1
    · obtain rfl : '.' = next := by simpa using found
      rfl
  · next pointless =>
    cases read
    refine ⟨[], rfl, fun other ended => ?_, fun other ended next found => (ended next found).1⟩
    cases other with
    | nil => rfl
    | cons next more =>
      have goesOn := (ended next rfl).2
      unfold readFraction
      split
      · next same => exact absurd (List.cons.inj same).1 goesOn
      · rfl

/-- A sign is read before every digit as before the one that follows it. -/
private theorem readSign_spec (chars : List Char) :
    ∃ sign, chars = sign ++ (readSign chars).2 ∧
      ∀ digit other, digit.isDigit = true →
        readSign (sign ++ digit :: other) = ((readSign chars).1, digit :: other) := by
  -- Without a sign the digit itself must not be taken for one.
  unfold readSign
  split
  · exact ⟨['+'], rfl, fun _ _ _ => rfl⟩
  · exact ⟨['-'], rfl, fun _ _ _ => rfl⟩
  · refine ⟨[], rfl, fun digit other isDigit => ?_⟩
    split
    · next same => exact absurd isDigit ((List.cons.inj same).1 ▸ by decide)
    · next same => exact absurd isDigit ((List.cons.inj same).1 ▸ by decide)
    · rfl

/-- An exponent is read from its sign and digits up to a text that does not go on with them. -/
private theorem readExponent_takes {chars rest : List Char} {exponent : Int}
    (read : readExponent chars = some (exponent, rest)) :
    ∃ used, chars = used ++ rest ∧ Takes readExponent EndsDigits used exponent := by
  -- The sign is read in the same way because a digit follows it.
  obtain ⟨sign, spelled, signed⟩ := readSign_spec chars
  simp only [readExponent] at read
  split at read
  · cases read
  · next digits afterDigits found =>
    cases read
    obtain ⟨unsignedSpelled, ⟨first, more, rfl, digit⟩, takes⟩ := readDigits_takes found
    refine ⟨sign ++ first :: more, ?_, fun other ended => ?_⟩
    · rw [List.append_assoc, ← unsignedSpelled]
      exact spelled
    · have taken := takes other ended
      unfold readExponent
      rw [List.append_assoc, List.cons_append, signed first _ digit]
      simp only [← List.cons_append, taken]

/-- An exponent is read from its mark, sign and digits, and a number without one ends its fraction. -/
private theorem readOptionalExponent_takes {chars rest : List Char} {exponent : Option Int}
    (read : readOptionalExponent chars = some (exponent, rest)) :
    ∃ used, chars = used ++ rest ∧ Takes readOptionalExponent EndsNumber used exponent ∧
      ∀ other, EndsNumber other → EndsFraction (used ++ other) := by
  -- Without a mark nothing is taken, and what follows must not start with one.
  have absent (other : List Char) (ended : EndsNumber other) :
      readOptionalExponent other = some (none, other) := by
    cases other with
    | nil => rfl
    | cons next more =>
      obtain ⟨-, -, small, large⟩ := ended next rfl
      simp [readOptionalExponent, small, large]
  cases chars with
  | nil =>
    obtain ⟨rfl, rfl⟩ : none = exponent ∧ [] = rest := by simpa [readOptionalExponent] using read
    exact ⟨[], rfl, absent, fun other ended next found => ⟨(ended next found).1, (ended next found).2.1⟩⟩
  | cons mark more =>
    simp only [readOptionalExponent] at read
    split at read
    · next marked =>
      split at read
      · cases read
      · next value afterDigits found =>
        obtain ⟨rfl, rfl⟩ : some value = exponent ∧ afterDigits = rest := by simpa using read
        obtain ⟨used, rfl, takes⟩ := readExponent_takes found
        refine ⟨mark :: used, rfl, ?_, ?_⟩
        · intro other ended
          simp [readOptionalExponent, marked, takes other fun next first => (ended next first).1]
        · intro other _ next first
          obtain rfl : mark = next := by simpa using first
          rcases (by simpa using marked : mark = 'e' ∨ mark = 'E') with rfl | rfl <;> decide
    · obtain ⟨rfl, rfl⟩ : none = exponent ∧ mark :: more = rest := by simpa using read
      exact ⟨[], rfl, absent, fun other ended next found => ⟨(ended next found).1, (ended next found).2.1⟩⟩

/-- Numbers are no objects. -/
private theorem ne_object_of_numberOf? {negative : Bool} {whole fraction : List Char}
    {exponent : Option Int} {value : Json}
    (number : numberOf? negative whole fraction exponent = some value)
    (fields : List (String × Json)) : value ≠ .object fields := by
  -- A number is scaled, which makes it a floating-point one, or it is whole.
  have scaled {significand : Nat} {exponent : Int}
      (number : scaledNumber? negative significand exponent = some value) :
      value ≠ .object fields := by
    unfold scaledNumber? at number
    split at number
    · cases number
    · cases number
      exact Json.noConfusion
  simp only [numberOf?] at number
  split at number
  · split_ifs at number
    · exact scaled number
    · cases number
      exact Json.noConfusion
    · exact scaled number
    · cases number
      exact Json.noConfusion
  · exact scaled number

/-- A number starts with a digit and is read up to a text that does not go on with it. -/
theorem readMagnitude_takes {negative : Bool} {chars rest : List Char} {value : Json}
    (read : readMagnitude negative chars = some (value, rest)) :
    ∃ first used, chars = first :: used ++ rest ∧ first.isDigit = true ∧
      (∀ fields, value ≠ .object fields) ∧
      Takes (readMagnitude negative) EndsNumber (first :: used) value := by
  -- Each part ends where the next one starts.
  simp only [readMagnitude, Option.bind_eq_bind, Option.bind_eq_some_iff] at read
  obtain ⟨⟨whole, afterWhole⟩, wholeRead, ⟨fraction, afterFraction⟩, fractionRead,
    ⟨exponent, afterExponent⟩, exponentRead, number, isNumber, same⟩ := read
  obtain ⟨rfl, rfl⟩ : number = value ∧ afterExponent = rest := by simpa using same
  obtain ⟨rfl, ⟨first, more, rfl, digit⟩, wholeTakes⟩ := readWhole_takes wholeRead
  obtain ⟨fractionUsed, rfl, fractionTakes, fractionEnds⟩ := readFraction_takes fractionRead
  obtain ⟨exponentUsed, rfl, exponentTakes, exponentEnds⟩ := readOptionalExponent_takes exponentRead
  refine ⟨first, more ++ (fractionUsed ++ exponentUsed), by simp, digit,
    ne_object_of_numberOf? isNumber, ?_⟩
  intro other ended
  have fractionEnded := exponentEnds other ended
  have spelled : first :: (more ++ (fractionUsed ++ exponentUsed)) ++ other =
      first :: more ++ (fractionUsed ++ (exponentUsed ++ other)) := by simp
  simp only [readMagnitude, Option.bind_eq_bind]
  rw [spelled, wholeTakes _ (fractionEnds _ fractionEnded), Option.bind_some,
    fractionTakes _ fractionEnded, Option.bind_some, exponentTakes _ ended, Option.bind_some, isNumber]
  rfl

/-- Every text may follow a token that shows its own end. -/
def Anything (_ : List Char) : Prop := True

/-- Four hexadecimal digits are read whatever follows them. -/
private theorem readUnit_takes {chars rest : List Char} {unit : UInt16}
    (read : readUnit chars = some (unit, rest)) :
    ∃ used, chars = used ++ rest ∧ Takes readUnit Anything used unit := by
  -- The rest is handed on unread.
  unfold readUnit at read
  split at read
  · next first second third fourth afterUnit =>
    simp only [Option.bind_eq_bind, Option.bind_eq_some_iff] at read
    obtain ⟨a, aRead, b, bRead, c, cRead, d, dRead, same⟩ := read
    cases same
    refine ⟨[first, second, third, fourth], rfl, fun other _ => ?_⟩
    simp [readUnit, aRead, bRead, cRead, dRead]
  · cases read

/-- A numbered escape is read whatever follows it. -/
private theorem readNumberedEscape_takes {chars rest : List Char} {char : Char}
    (read : readNumberedEscape chars = some (char, rest)) :
    ∃ used, chars = used ++ rest ∧ Takes readNumberedEscape Anything used char := by
  -- A high surrogate takes the escape behind it along.
  simp only [readNumberedEscape, Option.bind_eq_bind, Option.bind_eq_some_iff] at read
  obtain ⟨⟨unit, afterUnit⟩, unitRead, read⟩ := read
  obtain ⟨used, rfl, takes⟩ := readUnit_takes unitRead
  split at read
  · cases read
  · next notLow =>
    split at read
    · next high =>
      split at read
      · next afterMark =>
        simp only [Option.bind_eq_some_iff] at read
        obtain ⟨⟨low, afterLow⟩, lowRead, read⟩ := read
        obtain ⟨lowUsed, rfl, lowTakes⟩ := readUnit_takes lowRead
        split at read
        · next isLow =>
          obtain ⟨rfl, rfl⟩ : Units.pairChar unit low = char ∧ afterLow = rest := by simpa using read
          refine ⟨used ++ '\\' :: 'u' :: lowUsed, by simpa using afterMark, fun other _ => ?_⟩
          have first := takes ('\\' :: 'u' :: lowUsed ++ other) trivial
          have second := lowTakes other trivial
          simp only [List.cons_append] at first
          simp only [readNumberedEscape, List.append_assoc, List.cons_append, first,
            Option.bind_eq_bind, Option.bind_some, if_neg notLow, if_pos high, second, if_pos isLow]
        · cases read
      · cases read
    · next notHigh =>
      cases read
      exact ⟨used, rfl, fun other _ => by
        simp [readNumberedEscape, takes other trivial, notLow, notHigh]⟩

/-- An escape is read whatever follows it. -/
private theorem readEscape_takes {mark : Char} {chars rest : List Char} {char : Char}
    (read : readEscape mark chars = some (char, rest)) :
    ∃ used, chars = used ++ rest ∧ Takes (readEscape mark) Anything used char := by
  -- Only a numbered escape takes more than its mark.
  unfold readEscape at read
  split at read
  all_goals first
    | exact readNumberedEscape_takes read
    | cases read; exact ⟨[], rfl, fun _ _ => rfl⟩
    | cases read

/-- A character that stands for itself in a text. -/
def IsPlain (char : Char) : Prop :=
  -- Quotes, backslashes and controls are escaped.
  char ≠ '"' ∧ 32 ≤ char.toNat ∧ char ≠ '\\'

/-- A plain character is read as itself. -/
theorem readText_plain {char : Char} (plain : IsPlain char) (fuel : Nat) (rest : List Char) :
    readText (fuel + 1) (char :: rest) =
      (readText fuel rest).map fun read => (char :: read.1, read.2) := by
  obtain ⟨notQuote, visible, notEscape⟩ := plain
  cases found : readText fuel rest <;> simp [readText, notEscape, visible, found]

/-- An escape is read as the character that it stands for. -/
theorem readText_escape (fuel : Nat) (mark : Char) (rest : List Char) :
    readText (fuel + 1) ('\\' :: mark :: rest) =
      (readEscape mark rest).bind fun escape =>
        (readText fuel escape.2).map fun read => (escape.1 :: read.1, read.2) := by
  simp only [readText, Option.bind_eq_bind, Option.map_eq_bind]
  rfl

/-- A text is read up to its closing quote whatever follows that. -/
theorem readText_takes {fuel : Nat} {chars content rest : List Char}
    (read : readText fuel chars = some (content, rest)) :
    ∃ used, chars = used ++ rest ∧
      ∀ fuel, used.length ≤ fuel → Takes (readText fuel) Anything used content := by
  -- Each step takes a character of the part, so its length is fuel enough.
  fun_induction readText fuel chars generalizing content rest with
  | case1 => cases read
  | case2 =>
    cases read
    refine ⟨['"'], rfl, fun fuel enough other _ => ?_⟩
    cases fuel with
    | zero => simp at enough
    | succ fuel => rfl
  | case3 _ mark _ ih =>
    simp only [Option.bind_eq_bind, Option.bind_eq_some_iff] at read
    obtain ⟨⟨char, afterEscape⟩, escapeRead, ⟨tail, afterTail⟩, tailRead, same⟩ := read
    cases same
    obtain ⟨escapeUsed, rfl, escapeTakes⟩ := readEscape_takes escapeRead
    obtain ⟨tailUsed, rfl, tailTakes⟩ := ih _ tailRead
    refine ⟨'\\' :: mark :: (escapeUsed ++ tailUsed), by simp, fun fuel enough other _ => ?_⟩
    simp only [List.length_cons, List.length_append] at enough
    cases fuel with
    | zero => omega
    | succ fuel =>
      simp only [List.cons_append, List.append_assoc, readText_escape]
      rw [escapeTakes _ trivial, Option.bind_some, tailTakes fuel (by omega) other trivial]
      rfl
  | case4 => cases read
  | case5 _ char _ notQuote _ plain ih =>
    simp only [Option.bind_eq_bind, Option.bind_eq_some_iff] at read
    obtain ⟨⟨tail, afterTail⟩, tailRead, same⟩ := read
    cases same
    obtain ⟨tailUsed, rfl, tailTakes⟩ := ih tailRead
    have isPlain : IsPlain char := ⟨notQuote, by simpa using plain⟩
    refine ⟨char :: tailUsed, rfl, fun fuel enough other _ => ?_⟩
    simp only [List.length_cons] at enough
    cases fuel with
    | zero => omega
    | succ fuel =>
      rw [List.cons_append, readText_plain isPlain, tailTakes fuel (by omega) other trivial]
      rfl
  | case6 => cases read

/-- Blanks are skipped up to the same part of a text whatever follows that part. -/
theorem skipSpace_spec {chars : List Char} (used : List Char) {rest : List Char}
    (skipped : skipSpace chars = used ++ rest) (nonempty : used ≠ []) :
    ∃ blanks, chars = blanks ++ used ++ rest ∧ (∀ blank ∈ blanks, isSpace blank = true) ∧
      ∀ other, skipSpace (blanks ++ used ++ other) = used ++ other := by
  -- The first character left is no blank.
  obtain ⟨first, more, rfl⟩ := List.exists_cons_of_ne_nil nonempty
  have visible : isSpace first = false := by
    have := List.head?_dropWhile_not isSpace chars
    simpa [show chars.dropWhile isSpace = first :: more ++ rest from skipped] using this
  have blank : ∀ blank ∈ chars.takeWhile isSpace, isSpace blank = true :=
    fun _ member => List.mem_takeWhile_imp member
  refine ⟨chars.takeWhile isSpace, ?_, blank, fun other => ?_⟩
  · rw [List.append_assoc, ← skipped]
    exact List.takeWhile_append_dropWhile.symm
  · rw [skipSpace, List.append_assoc, List.dropWhile_append_of_pos blank]
    simp [visible]

/-- Blanks are skipped up to a mark whatever follows the mark. -/
theorem skipSpace_mark {chars rest : List Char} {mark : Char}
    (skipped : skipSpace chars = mark :: rest) :
    ∃ blanks, chars = blanks ++ mark :: rest ∧ (∀ blank ∈ blanks, isSpace blank = true) ∧
      ∀ other, skipSpace (blanks ++ mark :: other) = mark :: other := by
  obtain ⟨blanks, spelled, blank, skips⟩ :=
    skipSpace_spec [mark] skipped (List.cons_ne_nil mark [])
  exact ⟨blanks, by simpa using spelled, blank, fun other => by simpa using skips other⟩

/-- A number ends at a mark that could not belong to it, and at the blanks before that. -/
theorem endsNumber_mark {blanks other : List Char} {mark : Char}
    (blank : ∀ blank ∈ blanks, isSpace blank = true)
    (ends : mark.isDigit = false ∧ mark ≠ '.' ∧ mark ≠ 'e' ∧ mark ≠ 'E') :
    EndsNumber (blanks ++ mark :: other) := by
  -- What follows the number starts with a blank or with the mark.
  intro next found
  cases blanks with
  | nil =>
    obtain rfl : mark = next := by simpa using found
    exact ends
  | cons first more =>
    obtain rfl : first = next := by simpa using found
    have := blank first List.mem_cons_self
    simp only [isSpace, Bool.or_eq_true, beq_iff_eq] at this
    rcases this with ((rfl | rfl) | rfl) | rfl <;> decide

/-- A word stands before what follows it. -/
private theorem append_of_expect {word chars rest : List Char} (read : expect word chars = some rest) :
    chars = word ++ rest := by
  -- Each character of the word is compared with one of the text.
  induction word generalizing chars with
  | nil => simpa [expect] using read
  | cons wanted more ih =>
    cases chars with
    | nil => cases read
    | cons char tail =>
      simp only [expect] at read
      split at read
      · next same =>
        obtain rfl : wanted = char := by simpa using same
        rw [ih read, List.cons_append]
      · cases read

/-- A value that is a word is followed by the rest of its text. -/
theorem of_readWord {word chars rest : List Char} {literal value : Json}
    (read : (expect word chars).bind (fun rest => some (literal, rest)) = some (value, rest)) :
    literal = value ∧ chars = word ++ rest := by
  obtain ⟨afterWord, wordRead, same⟩ := Option.bind_eq_some_iff.1 read
  cases same
  exact ⟨rfl, append_of_expect wordRead⟩

end Json

end PipelineTrial
