import PipelineTrial.Proofs.Decimal.Numeral
import PipelineTrial.Proofs.Json.Written

/-! A value is read back from its text without blanks, in which the fields of objects stand in any order. -/

namespace PipelineTrial

namespace Json

/-- The text of a field, with the text of its value. -/
def fieldText (name : String) (chars : List Char) : List Char := writeText name ++ ':' :: chars

/-- A value of at most `depth` brackets inside each other has a text without blanks. -/
inductive Rendered : Nat → Json → List Char → Prop where
  | null {depth : Nat} : Rendered depth .null ['n', 'u', 'l', 'l']
  | boolean {depth : Nat} (value : Bool) : Rendered depth (.boolean value) (write (.boolean value))
  | integer {depth : Nat} {value : Int} (exact : value.natAbs < Nat.pow 2 53) :
    Rendered depth (.integer value) (toString value).toList
  | text {depth : Nat} (value : String) : Rendered depth (.text value) (writeText value)
  | list {depth : Nat} (items : List (Json × List Char))
    (each : ∀ item ∈ items, Rendered depth item.1 item.2) :
    Rendered (depth + 1) (.list (items.map (·.1)))
      ('[' :: (List.intercalate [','] (items.map (·.2)) ++ [']']))
  /-- Fields may be written in any order, and are put in order when they are read. -/
  | object {depth : Nat} (members : List (String × Json × List Char))
    (each : ∀ member ∈ members, Rendered depth member.2.1 member.2.2) :
    Rendered (depth + 1)
      (.object (Entries.ofList (members.map fun member => (member.1, member.2.1))))
      ('{' :: (List.intercalate [','] (members.map fun member => fieldText member.1 member.2.2)
        ++ ['}']))

section Integers

/-- Digits only add to a significand. -/
private theorem le_ofDigitChars (digits : List Char) (significand : Nat) :
    significand ≤ Nat.ofDigitChars 10 digits significand := by
  rw [Nat.ofDigitChars_eq_ofDigitChars_zero]
  have := Nat.le_mul_of_pos_left significand (Nat.pow_pos (n := digits.length) (show 0 < 10 by decide))
  omega

/-- All digits of a number that fits a word are taken in. -/
private theorem absorbDigits_eq {digits : List Char} {significand : Nat}
    (fits : Nat.ofDigitChars 10 digits significand < Nat.pow 2 64) :
    absorbDigits significand digits = (Nat.ofDigitChars 10 digits significand, []) := by
  -- No significand on the way is above the last one.
  induction digits generalizing significand with
  | nil => rfl
  | cons digit rest ih =>
    have next : significand * 10 + (digit.toNat - 48) = 10 * significand + (digit.toNat - '0'.toNat) := by
      rw [Nat.mul_comm]
      rfl
    rw [Nat.ofDigitChars_cons, ← next] at fits ⊢
    have below := le_ofDigitChars rest (significand * 10 + (digit.toNat - 48))
    rw [absorbDigits, ih fits]
    exact if_pos (Nat.lt_of_le_of_lt below fits)

/-- The digits of a natural number are read as its magnitude. -/
private theorem readMagnitude_toDigits (negative : Bool) {value : Nat} (exact : value < Nat.pow 2 53)
    (signed : negative = true → 0 < value) :
    readMagnitude negative (Nat.toDigits 10 value) =
      some (.integer (if negative then -(value : Int) else value), []) := by
  -- All characters are digits, and a leading zero is the only one.
  have digits : ∀ digit ∈ Nat.toDigits 10 value, digit.isDigit = true :=
    fun _ => Nat.isDigit_of_mem_toDigits (by decide) (by decide)
  have nonempty : (Nat.toDigits 10 value).isEmpty = false := by simp
  have read : readDigits (Nat.toDigits 10 value) = some (Nat.toDigits 10 value, []) := by
    rw [readDigits, List.takeWhile_eq_self_iff.2 digits, List.dropWhile_eq_nil_iff.2 digits, nonempty]
    rfl
  have alone : ((Nat.toDigits 10 value).head? == some '0' && (Nat.toDigits 10 value).length != 1) =
      false := by
    rcases Nat.eq_zero_or_pos value with rfl | positive
    · rfl
    · simp [head?_toDigits positive]
  have whole : readWhole (Nat.toDigits 10 value) = some (Nat.toDigits 10 value, []) := by
    simp only [readWhole, read, alone]
    rfl
  have absorbed : absorbDigits 0 (Nat.toDigits 10 value) = (value, []) := by
    have same : Nat.ofDigitChars 10 (Nat.toDigits 10 value) 0 = value := Nat.ofDigitChars_ten_toDigits
    have fits : value < Nat.pow 2 64 := Nat.lt_of_lt_of_le exact (by decide)
    rw [absorbDigits_eq (same.symm ▸ fits), same]
  have number : numberOf? negative (Nat.toDigits 10 value) [] none =
      some (.integer (if negative then -(value : Int) else value)) := by
    cases negative with
    | false => simp [numberOf?, absorbed]
    | true =>
      have nonzero : value ≠ 0 := Nat.pos_iff_ne_zero.1 (signed rfl)
      have fits : ¬ Nat.pow 2 63 < value :=
        Nat.not_lt.2 (Nat.le_of_lt (Nat.lt_of_lt_of_le exact (by decide)))
      simp [numberOf?, absorbed, nonzero, fits]
  simp [readMagnitude, whole, readFraction, readOptionalExponent, number]

/-- The digits of a natural number are read before everything that does not go on with them. -/
private theorem readMagnitude_digits (negative : Bool) {value : Nat} (exact : value < Nat.pow 2 53)
    (signed : negative = true → 0 < value) :
    ∃ first more, Nat.toDigits 10 value = first :: more ∧ first.isDigit = true ∧
      Takes (readMagnitude negative) EndsNumber (Nat.toDigits 10 value)
        (.integer (if negative then -(value : Int) else value)) := by
  obtain ⟨first, more, spelled, digit, -, takes⟩ :=
    readMagnitude_takes (readMagnitude_toDigits negative exact signed)
  rw [List.append_nil] at spelled
  exact ⟨first, more, spelled, digit, spelled ▸ takes⟩

/-- A written integer is read before everything that does not go on with it. -/
private theorem readValue_integer {value : Int} (exact : value.natAbs < Nat.pow 2 53) :
    ∃ first more, (toString value).toList = first :: more ∧ isSpace first = false ∧ first ≠ ']' ∧
      ∀ fuel bound, Takes (readValue (fuel + 1) bound) EndsNumber (toString value).toList
        (.integer value) := by
  -- A sign stands before the digits of a negative number.
  have goesOn {first : Char} (digit : first.isDigit = true) : first ≠ ']' := by
    rintro rfl
    exact absurd digit (by decide)
  cases value with
  | ofNat value =>
    have small : value < Nat.pow 2 53 := exact
    obtain ⟨first, more, spelled, digit, takes⟩ := readMagnitude_digits false small (by simp)
    have text : (toString (Int.ofNat value)).toList = Nat.toDigits 10 value := Nat.toList_repr
    rw [text]
    refine ⟨first, more, spelled, isSpace_of_isDigit digit, goesOn digit, fun fuel bound other ended => ?_⟩
    have read := takes other ended
    rw [spelled, List.cons_append] at read ⊢
    rw [readValue_digit digit, read]
    rfl
  | negSucc value =>
    have small : value + 1 < Nat.pow 2 53 := exact
    obtain ⟨first, more, spelled, digit, takes⟩ :=
      readMagnitude_digits true small fun _ => Nat.succ_pos value
    have text : (toString (Int.negSucc value)).toList = '-' :: Nat.toDigits 10 (value + 1) := by
      change ("-" ++ (value + 1).repr).toList = _
      rw [String.toList_append, Nat.toList_repr]
      rfl
    rw [text]
    exact ⟨'-', _, rfl, rfl, by decide, fun fuel bound other ended => takes other ended⟩

end Integers

section Reading

variable {bound : Nat}

/-- A number ends at a mark that could not belong to it. -/
private theorem endsNumber_cons {mark : Char} (other : List Char)
    (ends : mark.isDigit = false ∧ mark ≠ '.' ∧ mark ≠ 'e' ∧ mark ≠ 'E') :
    EndsNumber (mark :: other) :=
  @endsNumber_mark [] other mark (by simp) ends

/-- A text that starts visibly is read as a value before everything that may follow it. -/
def ReadAs (bound : Nat) (chars : List Char) (value : Json) : Prop :=
  (∃ first more, chars = first :: more ∧ isSpace first = false ∧ first ≠ ']') ∧
    ∀ fuel, 2 * chars.length ≤ fuel → Takes (readValue fuel bound) EndsNumber chars value

/-- A text is read as a value when it starts visibly and is read so with some fuel left. -/
private theorem readAs_of_succ {chars more : List Char} {first : Char} {value : Json}
    (spelled : chars = first :: more) (visible : isSpace first = false) (goesOn : first ≠ ']')
    (takes : ∀ fuel, 2 * more.length ≤ fuel → Takes (readValue (fuel + 1) bound) EndsNumber chars value) :
    ReadAs bound chars value := by
  -- Every text takes fuel for its first character.
  subst spelled
  refine ⟨⟨first, more, rfl, visible, goesOn⟩, fun fuel enough => ?_⟩
  simp only [List.length_cons] at enough
  obtain ⟨fuel, rfl⟩ : ∃ less, fuel = less + 1 := ⟨fuel - 1, by omega⟩
  exact takes fuel (by omega)

/-- Items after commas are read up to the bracket that closes their list. -/
private theorem readItems_joined (item : Json × List Char) (others : List (Json × List Char))
    (each : ∀ one ∈ item :: others, ReadAs bound one.2 one.1) (fuel : Nat)
    (enough : 2 * ((List.intercalate [','] ((item :: others).map (·.2))).length + 1) ≤ fuel)
    (rest : List Char) :
    readItems fuel bound (List.intercalate [','] ((item :: others).map (·.2)) ++ ']' :: rest) =
      some ((item :: others).map (·.1), rest) := by
  -- By induction on the items that follow, each behind its comma.
  induction others generalizing item fuel with
  | nil =>
    obtain ⟨-, itemTakes⟩ := each item List.mem_cons_self
    simp only [List.map_cons, List.map_nil, List.intercalate_singleton] at enough ⊢
    obtain ⟨fuel, rfl⟩ : ∃ less, fuel = less + 1 := ⟨fuel - 1, by omega⟩
    have read := itemTakes fuel (by omega) (']' :: rest) (endsNumber_cons _ (by decide))
    exact readItems_eq_some.2 ⟨item.1, _, read, .inr ⟨rfl, rfl⟩⟩
  | cons next others ih =>
    obtain ⟨itemReads, othersRead⟩ := List.forall_mem_cons.1 each
    simp only [List.map_cons, List.intercalate_cons_cons, List.append_assoc, List.cons_append,
      List.nil_append, List.length_append, List.length_cons] at enough ⊢
    obtain ⟨fuel, rfl⟩ : ∃ less, fuel = less + 1 := ⟨fuel - 1, by omega⟩
    have read := itemReads.2 fuel (by omega) (',' ::
      (List.intercalate [','] (next.2 :: others.map (·.2)) ++ ']' :: rest))
      (endsNumber_cons _ (by decide))
    have following := ih next othersRead fuel (by simp only [List.map_cons]; omega)
    exact readItems_eq_some.2 ⟨item.1, _, read, .inl ⟨_, _, rfl, following, rfl⟩⟩

/-- Fields after commas are read up to the brace that closes their object. -/
private theorem readFields_joined (member : String × Json × List Char)
    (others : List (String × Json × List Char))
    (each : ∀ one ∈ member :: others, ReadAs bound one.2.2 one.2.1) (fuel : Nat)
    (enough : 2 * ((List.intercalate [','] ((member :: others).map fun member =>
      fieldText member.1 member.2.2)).length + 1) ≤ fuel) (rest : List Char) :
    readFields fuel bound (List.intercalate [','] ((member :: others).map fun member =>
      fieldText member.1 member.2.2) ++ '}' :: rest) =
      some ((member :: others).map fun member => (member.1, member.2.1), rest) := by
  -- By induction on the fields that follow, each behind its comma.
  induction others generalizing member fuel with
  | nil =>
    obtain ⟨-, valueTakes⟩ := each member List.mem_cons_self
    simp only [List.map_cons, List.map_nil, List.intercalate_singleton, fieldText, List.append_assoc,
      List.cons_append, List.length_append, List.length_cons] at enough ⊢
    obtain ⟨fuel, rfl⟩ : ∃ less, fuel = less + 1 := ⟨fuel - 1, by omega⟩
    obtain ⟨inner, quoted, nameRead, colon⟩ :=
      readText_writtenName member.1 (member.2.2 ++ '}' :: rest)
    have read := valueTakes fuel (by omega) ('}' :: rest) (endsNumber_cons _ (by decide))
    exact readFields_eq_some.2 ⟨inner, _, _, _, _, _, quoted, nameRead, colon, read,
      .inr ⟨rfl, by rw [String.ofList_toList]⟩⟩
  | cons next others ih =>
    obtain ⟨valueReads, othersRead⟩ := List.forall_mem_cons.1 each
    have following := ih next othersRead
    simp only [List.map_cons, List.intercalate_cons_cons] at enough following ⊢
    generalize List.intercalate [','] _ = joined at enough following ⊢
    simp only [fieldText, List.append_assoc, List.cons_append, List.nil_append, List.length_append,
      List.length_cons] at enough ⊢
    obtain ⟨fuel, rfl⟩ : ∃ less, fuel = less + 1 := ⟨fuel - 1, by omega⟩
    obtain ⟨inner, quoted, nameRead, colon⟩ :=
      readText_writtenName member.1 (member.2.2 ++ ',' :: (joined ++ '}' :: rest))
    have read := valueReads.2 fuel (by omega) (',' :: (joined ++ '}' :: rest))
      (endsNumber_cons _ (by decide))
    exact readFields_eq_some.2 ⟨inner, _, _, _, _, _, quoted, nameRead, colon, read,
      .inl ⟨_, _, rfl, following fuel (by omega), by rw [String.ofList_toList]⟩⟩

/-- A rendered value is read before everything that may follow it, within as many brackets as it has. -/
theorem Rendered.readAs {depth : Nat} {value : Json} {chars : List Char}
    (rendered : Rendered depth value chars) {bound : Nat} (shallow : depth ≤ bound) :
    ReadAs bound chars value := by
  -- By induction on the value: its parts are read within one bracket less.
  induction rendered generalizing bound with
  | null =>
    refine readAs_of_succ rfl rfl (by decide) fun fuel _ other _ => rfl
  | boolean value =>
    cases value
    · exact readAs_of_succ rfl rfl (by decide) fun fuel _ other _ => rfl
    · exact readAs_of_succ rfl rfl (by decide) fun fuel _ other _ => rfl
  | integer exact =>
    obtain ⟨first, more, spelled, visible, goesOn, takes⟩ := readValue_integer exact
    exact readAs_of_succ spelled visible goesOn fun fuel _ => takes fuel bound
  | text value =>
    refine readAs_of_succ rfl rfl (by decide) fun fuel _ other _ => ?_
    obtain ⟨inner, quoted, read⟩ := readText_writeText value other
    rw [quoted]
    exact readValue_text_eq_some.2 ⟨value.toList, read, by rw [String.ofList_toList]⟩
  | list items each ih =>
    obtain ⟨bound, rfl⟩ : ∃ less, bound = less + 1 := ⟨bound - 1, by omega⟩
    refine readAs_of_succ rfl rfl (by decide) fun fuel enough other _ => ?_
    simp only [List.cons_append, List.append_assoc, List.nil_append]
    cases items with
    | nil => exact readValue_list_eq_some.2 ⟨bound, rfl, .inl ⟨rfl, rfl⟩⟩
    | cons item others =>
      have reads : ∀ one ∈ item :: others, ReadAs bound one.2 one.1 :=
        fun one member => ih one member (by omega)
      have read := readItems_joined item others reads fuel (by simpa using enough) other
      obtain ⟨⟨first, more, spelled, visible, goesOn⟩, -⟩ := reads item List.mem_cons_self
      rw [List.map_cons, spelled, List.intercalate_cons_cons_left, List.cons_append] at read ⊢
      refine readValue_list_eq_some.2 ⟨bound, rfl, .inr ⟨fun closed same => ?_, _, ?_, rfl⟩⟩
      · rw [skipSpace_visible visible] at same
        exact goesOn (List.cons.inj same).1
      · rw [skipSpace_visible visible]
        exact read
  | object members each ih =>
    obtain ⟨bound, rfl⟩ : ∃ less, bound = less + 1 := ⟨bound - 1, by omega⟩
    refine readAs_of_succ rfl rfl (by decide) fun fuel enough other _ => ?_
    simp only [List.cons_append, List.append_assoc, List.nil_append]
    cases members with
    | nil => exact readValue_object_eq_some.2 ⟨bound, rfl, .inl ⟨rfl, rfl⟩⟩
    | cons member others =>
      have reads : ∀ one ∈ member :: others, ReadAs bound one.2.2 one.2.1 :=
        fun one found => ih one found (by omega)
      have read := readFields_joined member others reads fuel (by simpa using enough) other
      rw [List.map_cons, fieldText, writeText, List.cons_append, List.intercalate_cons_cons_left,
        List.cons_append] at read ⊢
      exact readValue_object_eq_some.2
        ⟨bound, rfl, .inr ⟨fun closed same => absurd (List.cons.inj same).1 (by decide), _, read, rfl⟩⟩

/-- A rendered value is the one that its text writes. -/
theorem Rendered.parse? {depth : Nat} {value : Json} {chars : List Char}
    (rendered : Rendered depth value chars) (shallow : depth ≤ depthLimit) :
    Json.parse? (String.ofList chars) = some value := by
  -- Nothing follows the value.
  have nothing : EndsNumber [] := fun next found => by cases found
  have read := (rendered.readAs shallow).2 (2 * chars.length + 2) (by omega) [] nothing
  rw [List.append_nil] at read
  simp only [Json.parse?, String.toList_ofList, read]
  rfl

end Reading

end Json

end PipelineTrial
