import PipelineTrial.Json.Printer
import PipelineTrial.Proofs.Json.Reader

/-! Written texts, and written objects of texts, are read back. -/

namespace PipelineTrial

namespace Json

/-- A written hexadecimal digit has its value. -/
private theorem hexValue?_hexDigit {digit : Nat} (small : digit < 16) :
    hexValue? (hexDigit digit) = some digit := by
  -- There are sixteen digits.
  have each : ∀ digit : Fin 16, hexValue? (hexDigit digit) = some digit.val := by decide
  exact each ⟨digit, small⟩

/-- The numbered escape of a control is read as that control. -/
private theorem readNumberedEscape_control {code : Nat} (control : code < 32) (rest : List Char) :
    readNumberedEscape ('0' :: '0' :: hexDigit (code / 16) :: hexDigit (code % 16) :: rest) =
      some (Char.ofNat code, rest) := by
  -- The four digits write the code, which is no surrogate.
  have high : hexValue? (hexDigit (code / 16)) = some (code / 16) := hexValue?_hexDigit (by omega)
  have low : hexValue? (hexDigit (code % 16)) = some (code % 16) := hexValue?_hexDigit (by omega)
  have zero : hexValue? '0' = some 0 := rfl
  have joined : code / 16 * 16 + code % 16 = code := Nat.div_add_mod' code 16
  have unit : readUnit ('0' :: '0' :: hexDigit (code / 16) :: hexDigit (code % 16) :: rest) =
      some (UInt16.ofNat code, rest) := by
    simp only [readUnit, zero, high, low, Option.bind_eq_bind, Option.bind_some, Nat.zero_mul,
      Nat.zero_add, joined]
  have number : (UInt16.ofNat code).toNat = code := by
    simp
    omega
  have notLow : Units.isLowSurrogate (UInt16.ofNat code) = false := by
    simp [Units.isLowSurrogate, UInt16.le_iff_toNat_le, number]
    omega
  have notHigh : Units.isHighSurrogate (UInt16.ofNat code) = false := by
    simp [Units.isHighSurrogate, UInt16.le_iff_toNat_le, number]
    omega
  simp [readNumberedEscape, unit, notLow, notHigh, number]

/-- A written character is read as itself. -/
theorem readText_escapeChar (char : Char) (fuel : Nat) (rest : List Char) :
    readText (fuel + 1) (escapeChar char ++ rest) =
      (readText fuel rest).map fun read => (char :: read.1, read.2) := by
  -- A character is escaped by its own letter, by its number, or not at all.
  unfold escapeChar
  split_ifs with quote backslash backspace tab newline feed ret control
  · subst quote
    exact readText_escape fuel '"' rest
  · subst backslash
    exact readText_escape fuel '\\' rest
  · subst backspace
    exact readText_escape fuel 'b' rest
  · subst tab
    exact readText_escape fuel 't' rest
  · subst newline
    exact readText_escape fuel 'n' rest
  · subst feed
    exact readText_escape fuel 'f' rest
  · subst ret
    exact readText_escape fuel 'r' rest
  · have escape := readNumberedEscape_control control rest
    rw [Char.ofNat_toNat] at escape
    simp only [List.cons_append, List.nil_append, readText_escape, readEscape, escape, Option.bind_some]
  · exact readText_plain ⟨quote, Nat.not_lt.1 control, backslash⟩ fuel rest

/-- Characters are read up to the quote that closes them. -/
private theorem readText_escaped (chars rest : List Char) (fuel : Nat) (enough : chars.length < fuel) :
    readText fuel (chars.flatMap escapeChar ++ '"' :: rest) = some (chars, rest) := by
  -- Each character takes one step, and the closing quote one more.
  induction chars generalizing fuel with
  | nil =>
    cases fuel with
    | zero => simp at enough
    | succ fuel => rfl
  | cons char chars ih =>
    simp only [List.length_cons] at enough
    cases fuel with
    | zero => omega
    | succ fuel =>
      rw [List.flatMap_cons, List.append_assoc, readText_escapeChar, ih fuel (by omega)]
      rfl

/-- Escapes do not make characters fewer. -/
private theorem length_le_escaped (chars : List Char) :
    chars.length ≤ (chars.flatMap escapeChar).length := by
  -- Each character is written as at least one.
  induction chars with
  | nil => simp
  | cons char chars ih =>
    have some : 1 ≤ (escapeChar char).length := by
      unfold escapeChar
      split_ifs <;> simp
    simp only [List.flatMap_cons, List.length_append, List.length_cons]
    omega

/-- A written text starts with a quote, and behind that it is read as itself, whatever follows it. -/
theorem readText_writeText (text : String) (rest : List Char) :
    ∃ inner, writeText text ++ rest = '"' :: inner ∧
      readText (inner.length + 1) inner = some (text.toList, rest) := by
  refine ⟨text.toList.flatMap escapeChar ++ '"' :: rest, by simp [writeText], ?_⟩
  have longer := length_le_escaped text.toList
  refine readText_escaped text.toList rest _ ?_
  simp only [List.length_append, List.length_cons]
  omega

/-- The fields of an object of texts. -/
def ofTexts (pairs : List (String × String)) : List (String × Json) :=
  -- The order carries over.
  pairs.map fun pair => (pair.1, .text pair.2)

/-- Blanks at the start of a line are skipped. -/
private theorem skipSpace_lineAt (level : Nat) (rest : List Char) :
    skipSpace (lineAt level ++ rest) = skipSpace rest := by
  -- A line starts with its break and its indentation.
  have blank : ∀ char ∈ lineAt level, isSpace char = true := by
    intro char member
    rcases List.mem_cons.1 member with rfl | indent
    · rfl
    · rw [List.eq_of_mem_replicate indent]
      rfl
  exact List.dropWhile_append_of_pos blank

/-- A written text is read as a value behind a blank. -/
private theorem readValue_writeText (text : String) (after : List Char) (fuel depth : Nat) :
    readValue (fuel + 1) depth (' ' :: (writeText text ++ after)) = some (.text text, after) := by
  obtain ⟨content, quoted, read⟩ := readText_writeText text after
  have spaced : skipSpace (' ' :: '"' :: content) = skipSpace ('"' :: content) := rfl
  rw [quoted, readValue_skipSpace spaced]
  exact readValue_text_eq_some.2 ⟨text.toList, read, by rw [String.ofList_toList]⟩

/-- A written name is read up to its colon. -/
theorem readText_writtenName (name : String) (after : List Char) :
    ∃ inner, skipSpace (writeText name ++ ':' :: after) = '"' :: inner ∧
      readText (inner.length + 1) inner = some (name.toList, ':' :: after) ∧
      skipSpace (':' :: after) = ':' :: after := by
  obtain ⟨inner, quoted, read⟩ := readText_writeText name (':' :: after)
  exact ⟨inner, by rw [quoted]; rfl, read, rfl⟩

/-- Written fields are read up to the brace that closes their object. -/
theorem readFields_fieldLines (level : Nat) (name text : String) (pairs : List (String × String))
    (rest : List Char) (fuel depth : Nat) (enough : pairs.length + 1 < fuel) :
    readFields fuel depth (writeText name ++ ':' :: ' ' :: (writeText text ++
      (fieldLines level (ofTexts pairs) ++ (lineAt 0 ++ '}' :: rest)))) =
      some ((name, .text text) :: ofTexts pairs, rest) := by
  -- By induction on the fields that follow, each behind its comma on a line of its own.
  induction pairs generalizing name text fuel with
  | nil =>
    obtain ⟨fuel, rfl⟩ : ∃ less, fuel = less + 2 := ⟨fuel - 2, by simp at enough; omega⟩
    obtain ⟨inner, quoted, nameRead, colon⟩ := readText_writtenName name
      (' ' :: (writeText text ++ (fieldLines level (ofTexts []) ++ (lineAt 0 ++ '}' :: rest))))
    have closing : skipSpace (lineAt 0 ++ '}' :: rest) = '}' :: rest := skipSpace_lineAt 0 _
    exact readFields_eq_some.2 ⟨inner, _, _, _, _, _, quoted, nameRead, colon,
      readValue_writeText text _ fuel depth, .inr ⟨closing, by rw [String.ofList_toList]; rfl⟩⟩
  | cons pair pairs ih =>
    simp only [List.length_cons] at enough
    obtain ⟨fuel, rfl⟩ : ∃ less, fuel = less + 2 := ⟨fuel - 2, by omega⟩
    have spelled : fieldLines level (ofTexts (pair :: pairs)) ++ (lineAt 0 ++ '}' :: rest) =
        ',' :: (lineAt level ++ (writeText pair.1 ++ ':' :: ' ' :: (writeText pair.2 ++
          (fieldLines level (ofTexts pairs) ++ (lineAt 0 ++ '}' :: rest))))) := by
      simp [ofTexts, fieldLines, writeLines, write]
    rw [spelled]
    obtain ⟨inner, quoted, nameRead, colon⟩ := readText_writtenName name (' ' :: (writeText text ++
      ',' :: (lineAt level ++ (writeText pair.1 ++ ':' :: ' ' :: (writeText pair.2 ++
        (fieldLines level (ofTexts pairs) ++ (lineAt 0 ++ '}' :: rest)))))))
    refine readFields_eq_some.2 ⟨inner, _, _, _, _, _, quoted, nameRead, colon,
      readValue_writeText text _ fuel depth, .inl ⟨_, ofTexts (pair :: pairs), rfl, ?_, ?_⟩⟩
    · rw [readFields_skipSpace (skipSpace_lineAt level _)]
      exact ih pair.1 pair.2 (fuel + 1) (by omega)
    · rw [String.ofList_toList]

/-- Every written field takes at least a character. -/
private theorem length_le_fieldLines (level : Nat) (pairs : List (String × String)) :
    pairs.length ≤ (fieldLines level (ofTexts pairs)).length := by
  -- A comma stands before each of them.
  induction pairs with
  | nil => exact Nat.zero_le _
  | cons pair pairs ih =>
    have tail : ofTexts (pair :: pairs) = (pair.1, .text pair.2) :: ofTexts pairs := rfl
    simp only [tail, fieldLines, List.length_cons, List.length_append]
    omega

/-- The fields of a written object of texts are read back in their order. -/
theorem parseFields?_pretty (pairs : List (String × String)) :
    parseFields? (Json.object (ofTexts pairs)).pretty = some (ofTexts pairs) := by
  cases pairs with
  | nil => rfl
  | cons pair pairs =>
    -- Behind the brace stands the first line, which starts with the quote of a name.
    have spelled : writeLines 0 (.object (ofTexts (pair :: pairs))) =
        '{' :: (lineAt 1 ++ (writeText pair.1 ++ ':' :: ' ' :: (writeText pair.2 ++
          (fieldLines 1 (ofTexts pairs) ++ (lineAt 0 ++ ['}']))))) := by
      simp [ofTexts, writeLines, write]
    obtain ⟨inner, quoted, -⟩ := readText_writeText pair.1 (':' :: ' ' :: (writeText pair.2 ++
      (fieldLines 1 (ofTexts pairs) ++ (lineAt 0 ++ ['}']))))
    have opened (line : List Char) : skipSpace ('{' :: line) = '{' :: line := rfl
    have started : skipSpace (lineAt 1 ++ '"' :: inner) = '"' :: inner := skipSpace_lineAt 1 _
    have longer := length_le_fieldLines 1 pairs
    have longEnough : pairs.length + 1 < 2 * ('{' :: (lineAt 1 ++ '"' :: inner)).length + 2 := by
      rw [← quoted]
      simp only [List.length_cons, List.length_append]
      omega
    have read := readFields_fieldLines 1 pair.1 pair.2 pairs [] _ depthLimit longEnough
    rw [quoted] at spelled read
    simp only [parseFields?, pretty, String.toList_ofList, spelled, opened, started]
    change (readFields _ depthLimit ('"' :: inner)).bind _ = _
    rw [read]
    rfl

end Json

end PipelineTrial
