import Mathlib.Data.List.Permutation
import Mathlib.Data.List.TakeWhile
import PipelineTrial.Model.Exchange
import PipelineTrial.Proofs.Json.Reader

/-! The object in a reply is what stands from its first opening brace to its last closing one, however it is fenced. -/

namespace PipelineTrial

open Json (inBraces)

/-- Characters without braces. -/
def Braceless (chars : List Char) : Prop := '{' ∉ chars ∧ '}' ∉ chars

/-- A part of a text has all of its braces. -/
def KeepsBraces (kept chars : List Char) : Prop :=
  -- What stands before the part and after it may be cut off.
  ∃ before after, chars = before ++ kept ++ after ∧ Braceless before ∧ Braceless after

/-- Two braceless runs make one. -/
private theorem Braceless.append {first second : List Char} (left : Braceless first) (right : Braceless second) :
    Braceless (first ++ second) := by
  simp [Braceless, left.1, left.2, right.1, right.2]

/-- Nothing has to be cut off. -/
private theorem KeepsBraces.refl (chars : List Char) : KeepsBraces chars chars :=
  ⟨[], [], by simp, by simp [Braceless], by simp [Braceless]⟩

/-- What is cut off in two steps may be cut off in one. -/
private theorem KeepsBraces.trans {kept middle chars : List Char} (inner : KeepsBraces kept middle)
    (outer : KeepsBraces middle chars) : KeepsBraces kept chars := by
  obtain ⟨before, after, rfl, bareBefore, bareAfter⟩ := inner
  obtain ⟨first, last, rfl, bareFirst, bareLast⟩ := outer
  exact ⟨first ++ before, after ++ last, by simp, bareFirst.append bareBefore, bareAfter.append bareLast⟩

/-- What may be cut off may be cut off from the reversed text as well. -/
private theorem KeepsBraces.reverse {kept chars : List Char} (keeps : KeepsBraces kept chars) :
    KeepsBraces kept.reverse chars.reverse := by
  -- The two ends change places.
  obtain ⟨before, after, rfl, bareBefore, bareAfter⟩ := keeps
  exact ⟨after.reverse, before.reverse, by simp, by simpa [Braceless] using bareAfter,
    by simpa [Braceless] using bareBefore⟩

/-- A leading run that can hold no brace may be dropped. -/
private theorem keepsBraces_dropWhile {drops : Char → Bool} (opens : drops '{' = false)
    (closes : drops '}' = false) (chars : List Char) : KeepsBraces (chars.dropWhile drops) chars := by
  refine ⟨chars.takeWhile drops, [], by simp, ⟨fun found => ?_, fun found => ?_⟩, by simp [Braceless]⟩
  · simp [List.mem_takeWhile_imp found] at opens
  · simp [List.mem_takeWhile_imp found] at closes

/-- A braceless mark may be dropped from the start of a text. -/
private theorem keepsBraces_drop {mark chars : List Char} (bare : Braceless mark)
    (starts : mark.isPrefixOf chars = true) : KeepsBraces (chars.drop mark.length) chars := by
  obtain ⟨rest, rfl⟩ := List.isPrefixOf_iff_prefix.1 starts
  exact ⟨mark, [], by simp, bare, by simp [Braceless]⟩

/-- All copies of a braceless mark may be dropped. -/
private theorem keepsBraces_dropMarks {mark : List Char} (bare : Braceless mark) (bound : Nat)
    (chars : List Char) : KeepsBraces (dropMarks mark bound chars) chars := by
  -- The induction is on the copies that may be dropped.
  induction bound generalizing chars with
  | zero => exact .refl chars
  | succ bound ih =>
    simp only [dropMarks]
    split
    · next starts => exact (ih _).trans (keepsBraces_drop bare starts)
    · exact .refl chars

/-- Trailing blanks may be dropped. -/
private theorem keepsBraces_trimRight (chars : List Char) : KeepsBraces (trimRight chars) chars := by
  have reversed := @keepsBraces_dropWhile isBlank (by decide) (by decide) chars.reverse
  simpa [trimRight] using reversed.reverse

/-- Blanks at both ends may be dropped. -/
theorem keepsBraces_trimChars (chars : List Char) : KeepsBraces (trimChars chars) chars := by
  -- No brace is blank.
  have leading : KeepsBraces (trimLeft chars) chars := keepsBraces_dropWhile (by decide) (by decide) chars
  exact (keepsBraces_trimRight _).trans leading

/-- The fences around code may be dropped, and the name of the language with them. -/
theorem keepsBraces_unfence (chars : List Char) : KeepsBraces (unfence chars) chars := by
  unfold unfence
  -- Neither a fence nor the name of the language has a brace.
  have bareFence : Braceless fence := ⟨by decide, by decide⟩
  have bareName : Braceless ['j', 's', 'o', 'n'] := ⟨by decide, by decide⟩
  split
  · next fenced =>
    extract_lets afterFence content reversed
    have opened : KeepsBraces afterFence chars := keepsBraces_drop bareFence fenced
    have named : KeepsBraces content afterFence := by
      show KeepsBraces (if _ then _ else _) afterFence
      split
      · next starts => exact keepsBraces_drop bareName starts
      · exact .refl afterFence
    -- The closing fence is dropped from the text read backwards.
    have closed : KeepsBraces (dropMarks fence reversed.length reversed).reverse (trimRight content) := by
      simpa [reversed] using (keepsBraces_dropMarks bareFence reversed.length reversed).reverse
    have trimmed := (keepsBraces_trimChars _).trans (closed.trans (keepsBraces_trimRight content))
    exact trimmed.trans (named.trans opened)
  · exact .refl chars

/-- A text holds a span between braces, with no opening brace before it and no closing one after it. -/
def Surrounds (body chars : List Char) : Prop :=
  -- Closing braces before it and opening ones after it do no harm.
  ∃ before after, chars = before ++ inBraces body ++ after ∧ '{' ∉ before ∧ '}' ∉ after

section Surrounding

variable {body chars : List Char}

/-- A span stays where it is when a start without opening braces is cut off. -/
private theorem Surrounds.of_append_left {gone kept : List Char} (opens : '{' ∉ gone)
    (surrounds : Surrounds body (gone ++ kept)) : Surrounds body kept := by
  -- The start ends before the opening brace of the span.
  obtain ⟨before, after, same, opensBefore, closes⟩ := surrounds
  rw [List.append_assoc] at same
  rcases List.append_eq_append_iff.1 same with ⟨more, rfl, rfl⟩ | ⟨more, rfl, split⟩
  · exact ⟨more, after, by simp, fun found => opensBefore (by simp [found]), closes⟩
  · cases more with
    | nil => exact ⟨[], after, by simpa using split.symm, by simp, closes⟩
    | cons first more =>
      obtain rfl : '{' = first := (List.cons.inj split).1
      simp at opens

/-- A span stays where it is when an end without closing braces is cut off. -/
private theorem Surrounds.of_append_right {gone kept : List Char} (closes : '}' ∉ gone)
    (surrounds : Surrounds body (kept ++ gone)) : Surrounds body kept := by
  -- The end starts behind the closing brace of the span.
  obtain ⟨before, after, same, opens, closesAfter⟩ := surrounds
  rcases List.append_eq_append_iff.1 same with ⟨more, split, rfl⟩ | ⟨more, rfl, rfl⟩
  · rcases List.eq_nil_or_concat more with rfl | ⟨more, last, rfl⟩
    · exact ⟨before, [], by simpa using split.symm, opens, by simp⟩
    · have ends : before ++ '{' :: body ++ ['}'] = kept ++ more ++ [last] := by
        simpa [inBraces] using split
      obtain ⟨-, brace⟩ := List.append_inj' ends rfl
      cases brace
      simp at closes
  · exact ⟨before, more, rfl, opens, fun found => closesAfter (by simp [found])⟩

/-- A part of a text that has all its braces has the same spans. -/
theorem KeepsBraces.surrounds_iff {kept : List Char} (keeps : KeepsBraces kept chars) :
    Surrounds body kept ↔ Surrounds body chars := by
  obtain ⟨before, after, rfl, bareBefore, bareAfter⟩ := keeps
  constructor
  · rintro ⟨first, last, rfl, opens, closes⟩
    exact ⟨before ++ first, last ++ after, by simp, by simp [opens, bareBefore.1], by simp [closes, bareAfter.2]⟩
  · intro surrounds
    exact (surrounds.of_append_right bareAfter.2).of_append_left bareBefore.1

/-- A text whose first opening brace stands before some closing one has a span. -/
private theorem exists_surrounds_of_mem {start rest : List Char} (opens : '{' ∉ start) (closing : '}' ∈ rest) :
    ∃ body, Surrounds body (start ++ '{' :: rest) := by
  -- The span ends at the last closing brace.
  obtain ⟨last, inner, reversed, closes⟩ := List.eq_append_cons_of_mem (List.mem_reverse.2 closing)
  obtain rfl : rest = inner.reverse ++ '}' :: last.reverse := by
    simpa using congrArg List.reverse reversed
  exact ⟨inner.reverse, start, last.reverse, by simp [inBraces], opens, by simpa using closes⟩

/-- A text has a span exactly when some opening brace stands before some closing one. -/
theorem exists_surrounds_iff :
    (∃ body, Surrounds body chars) ↔ ∃ before body after, chars = before ++ inBraces body ++ after := by
  constructor
  · rintro ⟨body, before, after, same, _⟩
    exact ⟨before, body, after, same⟩
  · rintro ⟨before, body, after, rfl⟩
    -- The span starts at the first opening brace, which may stand before the given one.
    by_cases earlier : '{' ∈ before
    · obtain ⟨start, more, rfl, opens⟩ := List.eq_append_cons_of_mem earlier
      simpa [inBraces] using exists_surrounds_of_mem opens
        (by simp : '}' ∈ more ++ '{' :: (body ++ '}' :: after))
    · simpa [inBraces] using exists_surrounds_of_mem earlier (by simp : '}' ∈ body ++ '}' :: after)

/-- Characters among which a mark does not occur are different from it. -/
private theorem ne_of_absent {mark : Char} {chars : List Char} (absent : mark ∉ chars) :
    ∀ char ∈ chars, (char != mark) = true := by
  intro char member
  simpa using fun same : char = mark => absent (same ▸ member)

/-- A run without a mark ends where the mark stands. -/
private theorem takeWhile_until {mark : Char} {before rest : List Char} (absent : mark ∉ before) :
    (before ++ mark :: rest).takeWhile (· != mark) = before := by
  rw [List.takeWhile_append_of_pos (ne_of_absent absent)]
  simp

/-- A run without a mark is dropped on the way to the mark. -/
private theorem dropWhile_until {mark : Char} {before rest : List Char} (absent : mark ∉ before) :
    (before ++ rest).dropWhile (· != mark) = rest.dropWhile (· != mark) :=
  List.dropWhile_append_of_pos (ne_of_absent absent)

/-- A span is found from its opening brace to its closing one. -/
theorem Surrounds.braceSpan? (surrounds : Surrounds body chars) : braceSpan? chars = some (inBraces body) := by
  -- The first opening brace and the last closing one are those of the span.
  obtain ⟨before, after, rfl, opens, closes⟩ := surrounds
  have start : (before ++ inBraces body ++ after).takeWhile (· != '{') = before := by
    rw [List.append_assoc]
    exact takeWhile_until opens
  have ends : (before ++ inBraces body).reverse = '}' :: (body.reverse ++ '{' :: before.reverse) := by
    simp [inBraces]
  have last : ((before ++ inBraces body ++ after).reverse.dropWhile (· != '}')).length =
      (before ++ inBraces body).length := by
    rw [List.reverse_append, dropWhile_until (by simpa using closes), ends,
      List.dropWhile_cons_of_neg (by decide), ← ends, List.length_reverse]
  simp only [PipelineTrial.braceSpan?, start, last]
  rw [if_pos (by simp [inBraces]), List.take_left' rfl, List.drop_left' rfl]

/-- No span is found in a text that has none. -/
theorem braceSpan?_eq_none (absent : ∀ body, ¬Surrounds body chars) : braceSpan? chars = none := by
  -- The closing braces, if there are any, stand before the first opening one.
  have before : (chars.reverse.dropWhile (· != '}')).length ≤ (chars.takeWhile (· != '{')).length := by
    by_cases opening : '{' ∈ chars
    · obtain ⟨start, rest, rfl, opens⟩ := List.eq_append_cons_of_mem opening
      have noClosing : '}' ∉ '{' :: rest := by
        intro closing
        obtain ⟨body, surrounds⟩ := exists_surrounds_of_mem opens (List.mem_of_ne_of_mem (by decide) closing)
        exact absent body surrounds
      rw [takeWhile_until opens, List.reverse_append, dropWhile_until (by simpa using noClosing)]
      exact (List.length_dropWhile_le _ _).trans_eq List.length_reverse
    · rw [List.takeWhile_eq_self_iff.2 (ne_of_absent opening)]
      exact (List.length_dropWhile_le _ _).trans_eq List.length_reverse
  rw [PipelineTrial.braceSpan?, if_neg (by omega)]

/-- A span is what stands from the first opening brace of a text to its last closing one. -/
theorem braceSpan?_eq_some_iff {part : List Char} :
    braceSpan? chars = some part ↔ ∃ body, Surrounds body chars ∧ part = inBraces body := by
  constructor
  · intro found
    by_cases has : ∃ body, Surrounds body chars
    · obtain ⟨body, surrounds⟩ := has
      rw [surrounds.braceSpan?] at found
      cases found
      exact ⟨body, surrounds, rfl⟩
    · rw [braceSpan?_eq_none fun body surrounds => has ⟨body, surrounds⟩] at found
      cases found
  · rintro ⟨body, surrounds, rfl⟩
    exact surrounds.braceSpan?

/-- A text that starts with an opening brace and ends with a closing one is a span as a whole. -/
theorem surrounds_of_ends (first : chars.head? = some '{') (last : chars.getLast? = some '}') :
    ∃ body, Surrounds body chars ∧ chars = inBraces body := by
  -- The two are different braces.
  obtain ⟨rest, rfl⟩ := List.head?_eq_some_iff.1 first
  rcases List.eq_nil_or_concat rest with rfl | ⟨body, closing, rfl⟩
  · simp at last
  · rw [List.concat_eq_append, ← List.cons_append, List.getLast?_concat] at last
    obtain rfl : closing = '}' := Option.some.inj last
    exact ⟨body, ⟨[], [], by simp [inBraces], by simp, by simp⟩, by simp [inBraces]⟩

/-- A part of a text that has all its braces has the same span. -/
theorem KeepsBraces.braceSpan?_eq {kept : List Char} (keeps : KeepsBraces kept chars) :
    braceSpan? kept = braceSpan? chars := by
  refine Option.ext fun part => ?_
  simp only [braceSpan?_eq_some_iff, keeps.surrounds_iff]

end Surrounding

/-- What is found in a text is its span, whether blanks and fences are cut off first or not. -/
theorem extractObject?_eq (text : String) : extractObject? text = (braceSpan? text.toList).map String.ofList := by
  -- What is left is searched for its span, or it is the span.
  have keeps := (keepsBraces_unfence _).trans (keepsBraces_trimChars text.toList)
  rw [← keeps.braceSpan?_eq, extractObject?]
  split
  · next ends =>
    simp only [Bool.and_eq_true, beq_iff_eq] at ends
    obtain ⟨body, surrounds, same⟩ := surrounds_of_ends ends.1 ends.2
    rw [surrounds.braceSpan?, ← same]
    rfl
  · rfl

/-- The span of a text is found. -/
theorem Surrounds.extractObject? {body : List Char} {text : String} (surrounds : Surrounds body text.toList) :
    extractObject? text = some (String.ofList (inBraces body)) := by
  rw [extractObject?_eq, surrounds.braceSpan?]
  rfl

/-- What is found in a text is its span. -/
theorem extractObject?_eq_some_iff {text part : String} : extractObject? text = some part ↔
    ∃ body, Surrounds body text.toList ∧ part = String.ofList (inBraces body) := by
  constructor
  · intro found
    rw [extractObject?_eq, Option.map_eq_some_iff] at found
    obtain ⟨chars, spans, rfl⟩ := found
    obtain ⟨body, surrounds, rfl⟩ := braceSpan?_eq_some_iff.1 spans
    exact ⟨body, surrounds, rfl⟩
  · rintro ⟨body, surrounds, rfl⟩
    exact surrounds.extractObject?

/-- Nothing is found in a text exactly when no opening brace stands before a closing one. -/
theorem extractObject?_eq_none_iff {text : String} : extractObject? text = none ↔
    ∀ before body after, text.toList ≠ before ++ inBraces body ++ after := by
  constructor
  · -- Braces in order would surround an object, which is then found.
    intro missing before body after same
    obtain ⟨inner, surrounds⟩ := exists_surrounds_iff.2 ⟨before, body, after, same⟩
    rw [surrounds.extractObject?] at missing
    cases missing
  · intro absent
    rw [extractObject?_eq, braceSpan?_eq_none]
    · rfl
    · rintro body ⟨before, after, same, _⟩
      exact absent before body after same

/-- What is found writes an object, if it writes a value at all. -/
theorem object_of_extractObject? {text part : String} {value : Json} (found : extractObject? text = some part)
    (parsed : Json.parse? part = some value) : ∃ fields, value = .object fields := by
  -- It starts with a brace.
  obtain ⟨body, _, rfl⟩ := extractObject?_eq_some_iff.1 found
  exact Json.object_of_parse?_brace parsed

/-- How a text reply is judged under a schema, by the span of the text alone. -/
inductive JudgedBySpan (text : String) (schema : OutputSchema) : Except ModelError (Dictionary Json) → Prop where
  | absent : (∀ before body after, text.toList ≠ before ++ inBraces body ++ after) →
      JudgedBySpan text schema (.error (.unexpectedReply "response does not contain a JSON object"))
  | malformed {body : List Char} : Surrounds body text.toList →
      Json.parse? (String.ofList (inBraces body)) = none →
      JudgedBySpan text schema (.error (.unexpectedReply "malformed JSON object: not a JSON value"))
  | object {body : List Char} {fields : List (String × Json)} : Surrounds body text.toList →
      Json.parse? (String.ofList (inBraces body)) = some (.object fields) →
      JudgedBySpan text schema ((schema.validate fields).mapError fun fault => .unexpectedReply fault.message)

/-- A text reply is judged by its span. -/
theorem judgedBySpan_parseStructured (text : String) (schema : OutputSchema) :
    JudgedBySpan text schema (parseStructured text schema) := by
  unfold parseStructured
  split
  · next missing => exact .absent (extractObject?_eq_none_iff.1 missing)
  · next part found =>
    obtain ⟨body, surrounds, rfl⟩ := extractObject?_eq_some_iff.1 found
    split
    · next unread => exact .malformed surrounds unread
    · next fields parsed => exact .object surrounds parsed
    · next other notObject parsed =>
      -- The value would have to be an object.
      obtain ⟨fields, rfl⟩ := object_of_extractObject? found parsed
      exact absurd rfl (notObject fields)

/-- A text starts as its first part does. -/
private theorem head?_toList_append {first : String} {char : Char} (starts : first.toList.head? = some char)
    (rest : String) : (first ++ rest).toList.head? = some char := by
  rw [String.toList_append, List.head?_append, starts]
  rfl

/-- The message of a schema fault starts with what is missing, or with the field. -/
private theorem SchemaFault.head?_message (fault : SchemaFault) :
    fault.message.toList.head? = some 'm' ∨ fault.message.toList.head? = some 'f' := by
  cases fault with
  | missing field =>
    have starts : "missing declared field '".toList.head? = some 'm' := by decide
    exact .inl (head?_toList_append (head?_toList_append starts field) "'")
  | mismatch field expected found =>
    have starts : "field '".toList.head? = some 'f' := by decide
    have named := head?_toList_append (head?_toList_append starts field) "' expected "
    exact .inr (head?_toList_append (head?_toList_append (head?_toList_append named expected.tag) " but got ") found)

/-- The message of a failure says that there is no object, that it is malformed, or what the schema finds wrong. -/
private theorem JudgedBySpan.head?_ne {text : String} {schema : OutputSchema} {message : String}
    {outcome : Except ModelError (Dictionary Json)} (judged : JudgedBySpan text schema outcome)
    (failed : outcome = .error (.unexpectedReply message)) : message.toList.head? ≠ some 'e' := by
  -- Only the texts of the three kinds of failure are compared, by their first letters.
  cases judged with
  | absent _ =>
    cases failed
    decide
  | malformed _ _ =>
    cases failed
    decide
  | @object body fields _ _ =>
    cases validated : schema.validate fields with
    | ok valid => simp [validated, Except.mapError] at failed
    | error fault =>
      obtain rfl : fault.message = message := by simpa [validated, Except.mapError] using failed
      rcases fault.head?_message with starts | starts <;> simp [starts]

/-- No text reply is refused for a value other than an object. -/
theorem parseStructured_ne_notObject (text : String) (schema : OutputSchema) (kind : String) :
    parseStructured text schema ≠ .error (.unexpectedReply ("expected a JSON object but got " ++ kind)) := by
  -- Every other failure has a message that starts differently.
  intro refused
  have starts : "expected a JSON object but got ".toList.head? = some 'e' := by decide
  exact (judgedBySpan_parseStructured text schema).head?_ne refused (head?_toList_append starts kind)

/-- What is done to a text before its span is searched for changes nothing about the span. -/
structure KeepsSpan (chars : List Char) : Prop where
  trimmed : braceSpan? (trimChars chars) = braceSpan? chars
  unfenced : braceSpan? (unfence chars) = braceSpan? chars
  whole : chars.head? = some '{' → chars.getLast? = some '}' → braceSpan? chars = some chars

/-- What is found in a text, and what becomes of it. -/
structure FindsSpan (text : String) : Prop where
  found : ∀ part, extractObject? text = some part ↔
    ∃ body, Surrounds body text.toList ∧ part = String.ofList (inBraces body)
  missing : extractObject? text = none ↔ ∀ before body after, text.toList ≠ before ++ inBraces body ++ after
  searched : extractObject? text = (braceSpan? text.toList).map String.ofList
  object : ∀ part value, extractObject? text = some part → Json.parse? part = some value →
    ∃ fields, value = .object fields
  judged : ∀ schema, JudgedBySpan text schema (parseStructured text schema)
  /-- A value other than an object is never reported, as none is ever read. -/
  notOther : ∀ schema kind, parseStructured text schema ≠
    .error (.unexpectedReply ("expected a JSON object but got " ++ kind))

/--
What is found in a text is what stands from its first opening brace to its last closing one, if they come in this order.

Blanks and fences that are cut off first never change that, and what is found writes an object or no value at all.
-/
theorem extracts_outermost : (∀ chars, KeepsSpan chars) ∧ ∀ text, FindsSpan text := by
  constructor
  · intro chars
    refine ⟨(keepsBraces_trimChars chars).braceSpan?_eq, (keepsBraces_unfence chars).braceSpan?_eq, ?_⟩
    intro first last
    obtain ⟨body, surrounds, same⟩ := surrounds_of_ends first last
    rw [surrounds.braceSpan?, ← same]
  · intro text
    exact {
      found := fun part => extractObject?_eq_some_iff
      missing := extractObject?_eq_none_iff
      searched := extractObject?_eq text
      object := fun part value => object_of_extractObject?
      judged := judgedBySpan_parseStructured text
      notOther := parseStructured_ne_notObject text }

/-- An object whose text holds braces in the wrong order. -/
def braceObject : String := "\x7b\"a\": \"\x7d\x7b\"\x7d"

/-- The object in a fence that closes twice, with a stray brace on either side. -/
def fencedObject : String :=
  "\x60\x60\x60jsoné\x7d " ++ braceObject ++ "é\x7b\n\x60\x60\x60\x60\x60\x60"

/-- The object is found between the stray braces, and a text whose braces come in the wrong order holds none. -/
theorem extracts_outermost_fencedObject :
    extractObject? fencedObject = some braceObject ∧ (∃ fields, Json.parse? braceObject = some (.object fields)) ∧
      extractObject? "\x60\x60\x60\x7d\x7b\x60\x60\x60" = none := by
  have finds := extracts_outermost.2
  have found : extractObject? fencedObject = some braceObject := by
    refine ((finds _).found _).2 ⟨"\"a\": \"\x7d\x7b\"".toList, ?_, by decide⟩
    exact ⟨"\x60\x60\x60jsoné\x7d ".toList, "é\x7b\n\x60\x60\x60\x60\x60\x60".toList, by decide, by decide, by decide⟩
  have reads : Json.parse? braceObject = some (.object [("a", .text "\x7d\x7b")]) := by decide +kernel
  obtain ⟨fields, same⟩ := (finds _).object _ _ found reads
  refine ⟨found, ⟨fields, reads.trans (congrArg some same)⟩, ?_⟩
  rw [(finds _).searched]
  decide

end PipelineTrial
