import Mathlib.Data.List.DropRight
import PipelineTrial.Proofs.Dictionary
import PipelineTrial.Proofs.Json.Token

/-! What is read from a text does not depend on what follows, so an object can be cut out of its blanks. -/

namespace PipelineTrial

namespace Json

/-- A value is read from behind the blanks before it. -/
theorem readValue_skipSpace {chars others : List Char} (same : skipSpace chars = skipSpace others)
    (fuel depth : Nat) : readValue fuel depth chars = readValue fuel depth others := by
  cases fuel with
  | zero => simp [readValue]
  | succ fuel => simp [readValue, same]

/-- Fields are read from behind the blanks before them. -/
theorem readFields_skipSpace {chars others : List Char} (same : skipSpace chars = skipSpace others)
    (fuel depth : Nat) : readFields fuel depth chars = readFields fuel depth others := by
  cases fuel with
  | zero => simp [readFields]
  | succ fuel => simp [readFields, same]

/-- A digit is no blank. -/
theorem isSpace_of_isDigit {char : Char} (digit : char.isDigit = true) : isSpace char = false := by
  by_contra space
  simp only [isSpace, Bool.not_eq_false, Bool.or_eq_true, beq_iff_eq] at space
  rcases space with ((rfl | rfl) | rfl) | rfl <;> exact absurd digit (by decide)

/-- Nothing is skipped before a character that is no blank. -/
theorem skipSpace_visible {first : Char} (visible : isSpace first = false) (more : List Char) :
    skipSpace (first :: more) = first :: more := by
  simp [skipSpace, visible]

/-- A number without sign is read as one. -/
theorem readValue_digit {first : Char} (digit : first.isDigit = true) (fuel depth : Nat)
    (rest : List Char) :
    readValue (fuel + 1) depth (first :: rest) = readMagnitude false (first :: rest) := by
  -- A digit is no blank and starts nothing else.
  unfold readValue
  rw [skipSpace_visible (isSpace_of_isDigit digit)]
  split
  case h_8 => rfl
  all_goals
    next same => exact absurd digit ((List.cons.inj same).1 ▸ by decide)

/-- What is made of a part that was read is followed by what follows the part. -/
private theorem bind_read_eq_some {α β : Type} (make : α → β) {read : Option (α × List Char)}
    {value : β} {rest : List Char} :
    (read.bind fun taken => some (make taken.1, taken.2)) = some (value, rest) ↔
      ∃ part, read = some (part, rest) ∧ value = make part := by
  constructor
  · intro made
    obtain ⟨⟨part, after⟩, rfl, same⟩ := Option.bind_eq_some_iff.1 made
    cases same
    exact ⟨part, rfl, rfl⟩
  · rintro ⟨part, rfl, rfl⟩
    rfl

/-- A quote starts a text. -/
theorem readValue_text_eq_some {fuel depth : Nat} {inner rest : List Char} {value : Json} :
    readValue (fuel + 1) depth ('"' :: inner) = some (value, rest) ↔
      ∃ content, readText (inner.length + 1) inner = some (content, rest) ∧
        value = .text (String.ofList content) := by
  have visible : skipSpace ('"' :: inner) = '"' :: inner := rfl
  simp only [readValue, visible]
  exact bind_read_eq_some fun content => Json.text (String.ofList content)

/-- A bracket starts a list, which ends at once or after items. -/
theorem readValue_list_eq_some {fuel depth : Nat} {inner rest : List Char} {value : Json} :
    readValue (fuel + 1) depth ('[' :: inner) = some (value, rest) ↔
      ∃ less, depth = less + 1 ∧ (skipSpace inner = ']' :: rest ∧ value = .list [] ∨
        (∀ closed, skipSpace inner ≠ ']' :: closed) ∧ ∃ items,
          readItems fuel less (skipSpace inner) = some (items, rest) ∧ value = .list items) := by
  -- No list may be opened at the limit of the depth.
  have visible : skipSpace ('[' :: inner) = '[' :: inner := rfl
  cases depth with
  | zero => simp [readValue, visible]
  | succ depth =>
    simp only [readValue, visible]
    split
    · next after closed => simp [closed, eq_comm, and_comm]
    · next filled =>
      have goesOn (closed : List Char) : skipSpace inner ≠ ']' :: closed := filled closed
      simpa [goesOn] using bind_read_eq_some Json.list

/-- A brace starts an object, which ends at once or after fields. -/
theorem readValue_object_eq_some {fuel depth : Nat} {inner rest : List Char} {value : Json} :
    readValue (fuel + 1) depth ('{' :: inner) = some (value, rest) ↔
      ∃ less, depth = less + 1 ∧ (skipSpace inner = '}' :: rest ∧ value = .object [] ∨
        (∀ closed, skipSpace inner ≠ '}' :: closed) ∧ ∃ fields,
          readFields fuel less (skipSpace inner) = some (fields, rest) ∧
            value = .object (Entries.ofList fields)) := by
  -- No object may be opened at the limit of the depth.
  have visible : skipSpace ('{' :: inner) = '{' :: inner := rfl
  cases depth with
  | zero => simp [readValue, visible]
  | succ depth =>
    simp only [readValue, visible]
    split
    · next after closed => simp [closed, eq_comm, and_comm]
    · next filled =>
      have goesOn (closed : List Char) : skipSpace inner ≠ '}' :: closed := filled closed
      simpa [goesOn] using bind_read_eq_some fun fields => Json.object (Entries.ofList fields)

/-- Items are a value and what follows its comma, or a last value before the closing bracket. -/
theorem readItems_eq_some {fuel depth : Nat} {chars rest : List Char} {items : List Json} :
    readItems (fuel + 1) depth chars = some (items, rest) ↔
      ∃ item after, readValue fuel depth chars = some (item, after) ∧
        ((∃ more others, skipSpace after = ',' :: more ∧
            readItems fuel depth more = some (others, rest) ∧ items = item :: others) ∨
          skipSpace after = ']' :: rest ∧ items = [item]) := by
  simp only [readItems, Option.bind_eq_bind, Option.bind_eq_some_iff, Prod.exists]
  refine exists_congr fun item => exists_congr fun after => and_congr_right fun _ => ?_
  -- What stands behind the item tells whether another one follows.
  split
  · next more comma => simpa [comma] using bind_read_eq_some (item :: ·)
  · next more closed => simp [closed, eq_comm, and_comm]
  · next notComma notClosed =>
    have noMore (more : List Char) : skipSpace after ≠ ',' :: more := notComma more
    have noEnd (more : List Char) : skipSpace after ≠ ']' :: more := notClosed more
    simp [noMore, noEnd]

/-- Fields are a name with a value and what follows its comma, or a last one before the closing brace. -/
theorem readFields_eq_some {fuel depth : Nat} {chars rest : List Char}
    {fields : List (String × Json)} :
    readFields (fuel + 1) depth chars = some (fields, rest) ↔
      ∃ inner name afterName afterColon value after, skipSpace chars = '"' :: inner ∧
        readText (inner.length + 1) inner = some (name, afterName) ∧
        skipSpace afterName = ':' :: afterColon ∧
        readValue fuel depth afterColon = some (value, after) ∧
        ((∃ more others, skipSpace after = ',' :: more ∧
            readFields fuel depth more = some (others, rest) ∧
            fields = (String.ofList name, value) :: others) ∨
          skipSpace after = '}' :: rest ∧ fields = [(String.ofList name, value)]) := by
  constructor
  · -- Each part is read in turn, and a failure at any of them is one of the whole.
    intro read
    simp only [readFields] at read
    split at read
    · next inner quoted =>
      obtain ⟨⟨name, afterName⟩, nameRead, read⟩ := Option.bind_eq_some_iff.1 read
      dsimp only at read
      split at read
      · next afterColon colon =>
        obtain ⟨⟨value, after⟩, valueRead, read⟩ := Option.bind_eq_some_iff.1 read
        dsimp only at read
        refine ⟨inner, name, afterName, afterColon, value, after, quoted, nameRead, colon,
          valueRead, ?_⟩
        split at read
        · next more comma =>
          -- Behind a comma further fields are read.
          obtain ⟨others, othersRead, same⟩ :=
            (bind_read_eq_some ((String.ofList name, value) :: ·)).1 read
          exact .inl ⟨more, others, comma, othersRead, same⟩
        · next more closed =>
          -- A brace ends the object.
          cases read
          exact .inr ⟨closed, rfl⟩
        · cases read
      · cases read
    · cases read
  · rintro ⟨inner, name, afterName, afterColon, value, after, quoted, nameRead, colon, valueRead,
      ⟨more, others, comma, othersRead, rfl⟩ | ⟨closed, rfl⟩⟩
    · simp [readFields, quoted, nameRead, colon, valueRead, comma, othersRead]
    · simp [readFields, quoted, nameRead, colon, valueRead, closed]

/-- A text between braces. -/
def inBraces (body : List Char) : List Char := '{' :: (body ++ ['}'])

/-- An object is written between braces and has its names in order. -/
def Braced (core : List Char) : Json → Prop
  | .object fields => Entries.Ascending fields ∧ ∃ body, core = inBraces body
  | _ => True

/-- Values other than objects need no braces. -/
private theorem braced_of_ne_object {value : Json} (other : ∀ fields, value ≠ .object fields)
    (core : List Char) : Braced core value := by
  cases value with
  | object fields => exact absurd rfl (other fields)
  | _ => trivial

section Locality

variable {fuel depth : Nat} {chars inner rest : List Char} {value : Json}

/-- A text starts with a value, which is read there before every text that may follow it. -/
def StartsWith (depth : Nat) (chars : List Char) (value : Json) (rest : List Char) : Prop :=
  -- Two steps for each character are fuel enough.
  ∃ first used, chars = first :: used ++ rest ∧ Braced (first :: used) value ∧
    ∀ fuel, 2 * used.length < fuel →
      Takes (readValue (fuel + 1) depth) EndsNumber (first :: used) value

/-- A text starts with items and the bracket that closes them, whatever follows that. -/
def StartsWithItems (depth : Nat) (chars : List Char) (items : List Json) (rest : List Char) : Prop :=
  ∃ used, chars = used ++ rest ∧ used ≠ [] ∧
    ∀ fuel, 2 * used.length < fuel → Takes (readItems fuel depth) Anything used items

/-- A text starts with fields and the brace that closes them, whatever follows that. -/
def StartsWithFields (depth : Nat) (chars : List Char) (fields : List (String × Json))
    (rest : List Char) : Prop :=
  ∃ used, chars = used ++ '}' :: rest ∧ used ≠ [] ∧
    ∀ fuel, 2 * (used.length + 1) < fuel →
      Takes (readFields fuel depth) Anything (used ++ ['}']) fields

/-- A text value is read up to its closing quote. -/
private theorem startsWith_text
    (read : readValue (fuel + 1) depth ('"' :: inner) = some (value, rest)) :
    StartsWith depth ('"' :: inner) value rest := by
  obtain ⟨content, textRead, rfl⟩ := readValue_text_eq_some.1 read
  obtain ⟨used, rfl, takes⟩ := readText_takes textRead
  refine ⟨'"', used, rfl, trivial, fun fuel _ other _ => ?_⟩
  exact readValue_text_eq_some.2
    ⟨content, takes ((used ++ other).length + 1) (by simp; omega) other trivial, rfl⟩

/-- A list is read up to its closing bracket when its items are. -/
private theorem startsWith_list
    (itemsStart : ∀ {depth chars items rest}, readItems fuel depth chars = some (items, rest) →
      StartsWithItems depth chars items rest)
    (read : readValue (fuel + 1) depth ('[' :: inner) = some (value, rest)) :
    StartsWith depth ('[' :: inner) value rest := by
  -- What stands behind the opening bracket is skipped to in the same way.
  obtain ⟨depth, rfl, ⟨closed, rfl⟩ | ⟨filled, items, itemsRead, rfl⟩⟩ :=
    readValue_list_eq_some.1 read
  · obtain ⟨blanks, rfl, -, skips⟩ := skipSpace_mark closed
    refine ⟨'[', blanks ++ [']'], by simp, trivial, fun fuel _ other _ => ?_⟩
    exact readValue_list_eq_some.2 ⟨depth, rfl, .inl ⟨by simpa using skips other, rfl⟩⟩
  · obtain ⟨used, spelled, nonempty, takes⟩ := itemsStart itemsRead
    obtain ⟨blanks, rfl, -, skips⟩ := skipSpace_spec used spelled nonempty
    refine ⟨'[', blanks ++ used, by simp, trivial, fun fuel enough other _ => ?_⟩
    simp only [List.length_append] at enough
    rw [List.cons_append]
    refine readValue_list_eq_some.2 ⟨depth, rfl, .inr ⟨fun after closed => ?_, items, ?_, rfl⟩⟩
    · obtain ⟨first, more, rfl⟩ := List.exists_cons_of_ne_nil nonempty
      rw [skips] at closed
      obtain rfl : first = ']' := (List.cons.inj closed).1
      exact filled _ spelled
    · rw [skips]
      exact takes fuel (by omega) other trivial

/-- An object is read up to its closing brace when its fields are. -/
private theorem startsWith_object
    (fieldsStart : ∀ {depth chars fields rest}, readFields fuel depth chars = some (fields, rest) →
      StartsWithFields depth chars fields rest)
    (read : readValue (fuel + 1) depth ('{' :: inner) = some (value, rest)) :
    StartsWith depth ('{' :: inner) value rest := by
  -- What stands behind the opening brace is skipped to in the same way.
  obtain ⟨depth, rfl, ⟨closed, rfl⟩ | ⟨filled, fields, fieldsRead, rfl⟩⟩ :=
    readValue_object_eq_some.1 read
  · obtain ⟨blanks, rfl, -, skips⟩ := skipSpace_mark closed
    refine ⟨'{', blanks ++ ['}'], by simp, ⟨List.Pairwise.nil, blanks, rfl⟩,
      fun fuel _ other _ => ?_⟩
    exact readValue_object_eq_some.2 ⟨depth, rfl, .inl ⟨by simpa using skips other, rfl⟩⟩
  · obtain ⟨used, spelled, nonempty, takes⟩ := fieldsStart fieldsRead
    obtain ⟨blanks, rfl, -, skips⟩ :=
      skipSpace_spec (used ++ ['}']) (by simpa using spelled) (by simp)
    refine ⟨'{', blanks ++ (used ++ ['}']), by simp,
      ⟨Entries.ascending_ofList fields, blanks ++ used, by simp [inBraces]⟩,
      fun fuel enough other _ => ?_⟩
    simp only [List.length_append, List.length_cons, List.length_nil] at enough
    rw [List.cons_append]
    refine readValue_object_eq_some.2 ⟨depth, rfl, .inr ⟨fun after closed => ?_, fields, ?_, rfl⟩⟩
    · obtain ⟨first, more, rfl⟩ := List.exists_cons_of_ne_nil nonempty
      rw [skips] at closed
      obtain rfl : first = '}' := (List.cons.inj closed).1
      exact filled _ spelled
    · rw [skips]
      exact takes fuel (by omega) other trivial

/-- A value is read in the same way behind other blanks. -/
private theorem StartsWith.takes (starts : StartsWith depth (skipSpace chars) value rest) :
    ∃ blanks core, chars = blanks ++ core ++ rest ∧ (∀ blank ∈ blanks, isSpace blank = true) ∧
      Braced core value ∧
      ∀ fuel, 2 * core.length ≤ fuel → ∀ blanks, (∀ blank ∈ blanks, isSpace blank = true) →
        Takes (readValue fuel depth) EndsNumber (blanks ++ core) value := by
  -- The reader starts by skipping blanks.
  obtain ⟨first, used, skipped, braced, takes⟩ := starts
  obtain ⟨blanks, spelled, blank, -⟩ :=
    skipSpace_spec (first :: used) skipped (List.cons_ne_nil first used)
  refine ⟨blanks, first :: used, spelled, blank, braced, ?_⟩
  intro fuel enough blanks blank other ended
  simp only [List.length_cons] at enough
  cases fuel with
  | zero => omega
  | succ fuel =>
    rw [List.append_assoc, readValue_skipSpace (List.dropWhile_append_of_pos blank)]
    exact takes fuel (by omega) other ended

mutual

/-- A value that is read stands at the start of its text, behind blanks. -/
theorem startsWith_of_readValue {depth : Nat} {chars rest : List Char} {value : Json} :
    (fuel : Nat) → readValue fuel depth chars = some (value, rest) →
      StartsWith depth (skipSpace chars) value rest
  | 0, read => by cases read
  | fuel + 1, read => by
    -- The first character behind the blanks decides the kind of value.
    have here : readValue (fuel + 1) depth (skipSpace chars) = some (value, rest) := by
      rw [← read]
      exact readValue_skipSpace (List.dropWhile_idempotent isSpace chars) (fuel + 1) depth
    unfold readValue at read
    split at read
    · next skipped =>
      obtain ⟨rfl, rfl⟩ := of_readWord read
      exact ⟨'n', ['u', 'l', 'l'], skipped, trivial, fun _ _ _ _ => rfl⟩
    · next skipped =>
      obtain ⟨rfl, rfl⟩ := of_readWord read
      exact ⟨'t', ['r', 'u', 'e'], skipped, trivial, fun _ _ _ _ => rfl⟩
    · next skipped =>
      obtain ⟨rfl, rfl⟩ := of_readWord read
      exact ⟨'f', ['a', 'l', 's', 'e'], skipped, trivial, fun _ _ _ _ => rfl⟩
    · next skipped =>
      rw [skipped] at here ⊢
      exact startsWith_text here
    · next skipped =>
      obtain ⟨first, used, rfl, digit, notObject, takes⟩ := readMagnitude_takes read
      exact ⟨'-', first :: used, skipped, braced_of_ne_object notObject _,
        fun fuel _ other ended => takes other ended⟩
    · next skipped =>
      rw [skipped] at here ⊢
      exact startsWith_list (startsWithItems_of_readItems fuel) here
    · next skipped =>
      rw [skipped] at here ⊢
      exact startsWith_object (startsWithFields_of_readFields fuel) here
    · obtain ⟨first, used, spelled, digit, notObject, takes⟩ := readMagnitude_takes read
      refine ⟨first, used, spelled, braced_of_ne_object notObject _, fun fuel _ other ended => ?_⟩
      rw [List.cons_append, readValue_digit digit]
      exact takes other ended

/-- Items that are read stand at the start of their text. -/
theorem startsWithItems_of_readItems {depth : Nat} {chars rest : List Char} {items : List Json} :
    (fuel : Nat) → readItems fuel depth chars = some (items, rest) →
      StartsWithItems depth chars items rest
  | 0, read => by cases read
  | fuel + 1, read => by
    -- The mark behind an item ends a number there, and the items behind a comma stand there too.
    obtain ⟨item, after, itemRead, following⟩ := readItems_eq_some.1 read
    obtain ⟨blanks, core, rfl, blank, -, itemTakes⟩ :=
      (startsWith_of_readValue fuel itemRead).takes
    obtain ⟨more, others, comma, othersRead, rfl⟩ | ⟨closed, rfl⟩ := following
    · obtain ⟨before, rfl, beforeBlank, skips⟩ := skipSpace_mark comma
      obtain ⟨used, rfl, -, takes⟩ := startsWithItems_of_readItems fuel othersRead
      refine ⟨blanks ++ core ++ (before ++ ',' :: used), by simp, by simp, ?_⟩
      intro fuel enough other _
      simp only [List.length_append, List.length_cons] at enough
      obtain ⟨fuel, rfl⟩ : ∃ less, fuel = less + 1 := ⟨fuel - 1, by omega⟩
      have first := itemTakes fuel (by omega) blanks blank (before ++ ',' :: (used ++ other))
        (endsNumber_mark beforeBlank (by decide))
      simp only [List.append_assoc, List.cons_append] at first ⊢
      exact readItems_eq_some.2 ⟨item, _, first,
        .inl ⟨_, others, skips _, takes fuel (by omega) other trivial, rfl⟩⟩
    · obtain ⟨before, rfl, beforeBlank, skips⟩ := skipSpace_mark closed
      refine ⟨blanks ++ core ++ (before ++ [']']), by simp, by simp, ?_⟩
      intro fuel enough other _
      simp only [List.length_append, List.length_cons] at enough
      obtain ⟨fuel, rfl⟩ : ∃ less, fuel = less + 1 := ⟨fuel - 1, by omega⟩
      have last := itemTakes fuel (by omega) blanks blank (before ++ ']' :: other)
        (endsNumber_mark beforeBlank (by decide))
      simp only [List.append_assoc, List.cons_append, List.nil_append] at last ⊢
      exact readItems_eq_some.2 ⟨item, _, last, .inr ⟨skips other, rfl⟩⟩

/-- Fields that are read stand at the start of their text. -/
theorem startsWithFields_of_readFields {depth : Nat} {chars rest : List Char}
    {fields : List (String × Json)} :
    (fuel : Nat) → readFields fuel depth chars = some (fields, rest) →
      StartsWithFields depth chars fields rest
  | 0, read => by cases read
  | fuel + 1, read => by
    -- A field is its blanks, its name, a colon and its value, and a mark behind that.
    obtain ⟨inner, name, afterName, afterColon, value, after, quoted, nameRead, colon, valueRead,
      following⟩ := readFields_eq_some.1 read
    obtain ⟨start, rfl, -, skipsStart⟩ := skipSpace_mark quoted
    obtain ⟨nameUsed, rfl, nameTakes⟩ := readText_takes nameRead
    obtain ⟨beforeColon, rfl, -, skipsColon⟩ := skipSpace_mark colon
    obtain ⟨blanks, core, rfl, blank, -, valueTakes⟩ :=
      (startsWith_of_readValue fuel valueRead).takes
    have named (after : List Char) :
        readText ((nameUsed ++ (beforeColon ++ ':' :: after)).length + 1)
          (nameUsed ++ (beforeColon ++ ':' :: after)) =
          some (name, beforeColon ++ ':' :: after) :=
      nameTakes _ (by simp; omega) _ trivial
    obtain ⟨more, others, comma, othersRead, rfl⟩ | ⟨closed, rfl⟩ := following
    · obtain ⟨before, rfl, beforeBlank, skips⟩ := skipSpace_mark comma
      obtain ⟨used, rfl, -, takes⟩ := startsWithFields_of_readFields fuel othersRead
      refine ⟨start ++ '"' :: (nameUsed ++ (beforeColon ++ ':' ::
        (blanks ++ core ++ (before ++ ',' :: used)))), by simp, by simp, ?_⟩
      intro fuel enough other _
      simp only [List.length_append, List.length_cons] at enough
      obtain ⟨fuel, rfl⟩ : ∃ less, fuel = less + 1 := ⟨fuel - 1, by omega⟩
      have first := valueTakes fuel (by omega) blanks blank (before ++ ',' :: (used ++ '}' :: other))
        (endsNumber_mark beforeBlank (by decide))
      have remaining := takes fuel (by omega) other trivial
      simp only [List.append_assoc, List.cons_append, List.nil_append] at first remaining ⊢
      exact readFields_eq_some.2 ⟨_, name, _, _, value, _, skipsStart _, named _, skipsColon _, first,
        .inl ⟨_, others, skips _, remaining, rfl⟩⟩
    · obtain ⟨before, rfl, beforeBlank, skips⟩ := skipSpace_mark closed
      refine ⟨start ++ '"' :: (nameUsed ++ (beforeColon ++ ':' ::
        (blanks ++ core ++ before))), by simp, by simp, ?_⟩
      intro fuel enough other _
      simp only [List.length_append, List.length_cons] at enough
      obtain ⟨fuel, rfl⟩ : ∃ less, fuel = less + 1 := ⟨fuel - 1, by omega⟩
      have last := valueTakes fuel (by omega) blanks blank (before ++ '}' :: other)
        (endsNumber_mark beforeBlank (by decide))
      simp only [List.append_assoc, List.cons_append, List.nil_append] at last ⊢
      exact readFields_eq_some.2 ⟨_, name, _, _, value, _, skipsStart _, named _, skipsColon _, last,
        .inr ⟨skips other, rfl⟩⟩

end

end Locality

/-- A text that starts with a brace writes no value other than an object. -/
theorem object_of_parse?_brace {rest : List Char} {value : Json}
    (parsed : parse? (String.ofList ('{' :: rest)) = some value) : ∃ fields, value = .object fields := by
  -- The brace decides the kind of the value that is read.
  simp only [parse?, String.toList_ofList, Option.bind_eq_bind, Option.bind_eq_some_iff] at parsed
  obtain ⟨⟨found, after⟩, read, ended⟩ := parsed
  split at ended
  · cases ended
    obtain ⟨_, _, ⟨_, rfl⟩ | ⟨_, fields, _, rfl⟩⟩ := readValue_object_eq_some.1 read
    · exact ⟨[], rfl⟩
    · exact ⟨Entries.ofList fields, rfl⟩
  · cases ended

/-- Within blanks, the text of an object has braces, and what stands from brace to brace writes the same object. -/
theorem parse?_inBraces {text : String} {fields : List (String × Json)}
    (parsed : parse? text = some (.object fields)) :
    Entries.Ascending fields ∧ ∃ before body after,
      text.toList = before ++ inBraces body ++ after ∧
      (∀ blank ∈ before, isSpace blank = true) ∧ (∀ blank ∈ after, isSpace blank = true) ∧
      parse? (String.ofList (inBraces body)) = some (.object fields) := by
  -- The object is read in the same way when nothing stands before or after it.
  simp only [parse?, Option.bind_eq_bind, Option.bind_eq_some_iff] at parsed
  obtain ⟨⟨value, after⟩, read, ended⟩ := parsed
  split at ended
  · next blankAfter =>
    cases ended
    obtain ⟨before, core, spelled, blankBefore, ⟨ascending, body, rfl⟩, takes⟩ :=
      (startsWith_of_readValue _ read).takes
    refine ⟨ascending, before, body, after, spelled, blankBefore,
      by simpa [skipSpace] using blankAfter, ?_⟩
    have nothing : EndsNumber [] := fun next found => by cases found
    have taken := takes (2 * (inBraces body).length + 2) (by omega) [] (by simp) [] nothing
    rw [List.nil_append, List.append_nil] at taken
    simp only [parse?, String.toList_ofList, taken]
    rfl
  · cases ended

end Json

end PipelineTrial
