import Mathlib.Data.List.Basic
import Mathlib.Data.List.TakeWhile
import PipelineTrial.Text.Pieces

/-! A text is cut in one way only at its leftmost marks, and its marks are replaced from left to right. -/

namespace PipelineTrial

section Names

/-- A name is an ASCII letter or an underscore, and after it letters, digits and underscores. -/
def IsName : List Char → Prop
  | [] => False
  | first :: rest => isNameStart first = true ∧ ∀ char ∈ rest, isNameRest char = true

/-- A character that starts a name may also continue one. -/
theorem isNameRest_of_isNameStart {char : Char} (starts : isNameStart char = true) :
    isNameRest char = true := by
  -- Letters are among letters and digits.
  simp only [isNameStart, isNameRest, Char.isAlphanum, Bool.or_eq_true] at starts ⊢
  rcases starts with letter | underscore
  · exact .inl (.inl letter)
  · exact .inr underscore

/-- A name holds no character that cannot continue one. -/
theorem IsName.not_mem {name : List Char} (named : IsName name) {char : Char}
    (foreign : isNameRest char = false) : char ∉ name := by
  -- The first character of a name could continue it as well.
  intro member
  cases name with
  | nil => cases member
  | cons first rest =>
    have continues : isNameRest char = true := by
      rcases List.mem_cons.1 member with rfl | later
      · exact isNameRest_of_isNameStart named.1
      · exact named.2 char later
    exact absurd continues (by simp [foreign])

/-- A name is read before a character that does not go on with it. -/
theorem readName_append {name : List Char} (named : IsName name) {mark : Char} (ended : isNameRest mark = false)
    (rest : List Char) :
    ∃ shorter, readName (name ++ mark :: rest) = some (name, ⟨mark :: rest, shorter⟩) := by
  -- The leading run of characters of a name is the name.
  cases name with
  | nil => cases named
  | cons first more =>
    have taken : (more ++ mark :: rest).takeWhile isNameRest = more := by
      simp [List.takeWhile_append_of_pos named.2, ended]
    have left : (more ++ mark :: rest).dropWhile isNameRest = mark :: rest := by
      simp [List.dropWhile_append_of_pos named.2, ended]
    refine ⟨by simp only [List.length_append, List.length_cons]; omega, ?_⟩
    simp only [readName, List.cons_append, named.1, if_true, taken, left]

/-- What is read as a name is one, and the rest follows it. -/
theorem isName_of_readName {chars name rest : List Char} {shorter : rest.length < chars.length}
    (read : readName chars = some (name, ⟨rest, shorter⟩)) : IsName name ∧ chars = name ++ rest := by
  -- The run that is taken and the text that is left make up the whole.
  unfold readName at read
  split at read
  · cases read
  · next first more =>
    split at read
    · next starts =>
      cases read
      exact ⟨⟨starts, fun _ member => List.mem_takeWhile_imp member⟩,
        congrArg (first :: ·) List.takeWhile_append_dropWhile.symm⟩
    · cases read

end Names

section Cutting

variable {α : Type} {read : MarkReader α} {writes : α → List Char → Prop} {chars : List Char}
  {pieces : List (Piece α)}

/-- A reader reads exactly the marks that are written in a given way. -/
def Reads (read : MarkReader α) (writes : α → List Char → Prop) : Prop :=
  -- A mark is read wherever its writing starts a text, and what follows is left.
  ∀ chars value rest, (∃ shorter, read chars = some (value, ⟨rest, shorter⟩)) ↔
    ∃ written, writes value written ∧ chars = written ++ rest

/--
A text is cut at its leftmost marks that do not overlap.

A character stands for itself only where no mark starts.
-/
inductive CutsInto (writes : α → List Char → Prop) : List Char → List (Piece α) → Prop where
  | nil : CutsInto writes [] []
  | literal {char : Char} {chars : List Char} {pieces : List (Piece α)}
      (unmarked : ∀ value written rest, writes value written → char :: chars ≠ written ++ rest)
      (later : CutsInto writes chars pieces) :
      CutsInto writes (char :: chars) (.literal char :: pieces)
  | mark {value : α} {written chars : List Char} {pieces : List (Piece α)}
      (marked : writes value written) (later : CutsInto writes chars pieces) :
      CutsInto writes (written ++ chars) (.mark value :: pieces)

/-- A text that starts with a mark is cut behind it. -/
theorem cutPieces_of_read {value : α} {rest : List Char} {shorter : rest.length < chars.length}
    (found : read chars = some (value, ⟨rest, shorter⟩)) :
    cutPieces read chars = .mark value :: cutPieces read rest := by
  -- A shorter rest leaves no room for the empty text.
  cases chars with
  | nil => cases shorter
  | cons char more => rw [cutPieces, found]

/-- A text that starts with no mark is cut behind its first character. -/
theorem cutPieces_of_unread {char : Char} (missed : read (char :: chars) = none) :
    cutPieces read (char :: chars) = .literal char :: cutPieces read chars := by
  rw [cutPieces, missed]

/-- A text that is cut at its leftmost marks is cut as the reader cuts it. -/
private theorem eq_cutPieces_of_cutsInto (reads : Reads read writes) (cut : CutsInto writes chars pieces) :
    pieces = cutPieces read chars := by
  -- The reader finds the mark that a text starts with, and no mark where none starts.
  induction cut with
  | nil => rw [cutPieces]
  | @literal char chars pieces unmarked _ ih =>
    have missed : read (char :: chars) = none := by
      cases found : read (char :: chars) with
      | none => rfl
      | some pair =>
        obtain ⟨value, rest, shorter⟩ := pair
        obtain ⟨written, marked, same⟩ := (reads _ _ _).1 ⟨shorter, found⟩
        exact absurd same (unmarked value written rest marked)
    rw [cutPieces_of_unread missed, ih]
  | mark marked _ ih =>
    obtain ⟨shorter, found⟩ := (reads _ _ _).2 ⟨_, marked, rfl⟩
    rw [cutPieces_of_read found, ih]

/-- The reader cuts a text at its leftmost marks. -/
theorem cutsInto_cutPieces (reads : Reads read writes) (chars : List Char) :
    CutsInto writes chars (cutPieces read chars) := by
  -- Each text that is cut later is shorter.
  induction length : chars.length using Nat.strong_induction_on generalizing chars with
  | _ bound ih =>
    subst length
    cases chars with
    | nil =>
      rw [cutPieces]
      exact .nil
    | cons char rest =>
      cases found : read (char :: rest) with
      | none =>
        rw [cutPieces_of_unread found]
        refine .literal (fun value written after marked same => ?_) (ih _ (by simp) rest rfl)
        obtain ⟨shorter, other⟩ := (reads _ _ _).2 ⟨written, marked, same⟩
        rw [found] at other
        cases other
      | some pair =>
        obtain ⟨value, after, shorter⟩ := pair
        obtain ⟨written, marked, same⟩ := (reads _ _ _).1 ⟨shorter, found⟩
        rw [cutPieces_of_read found, same]
        exact .mark marked (ih _ shorter after rfl)

/-- Cutting from left to right is the only way to cut a text at its leftmost marks. -/
theorem cutsInto_iff (reads : Reads read writes) :
    CutsInto writes chars pieces ↔ pieces = cutPieces read chars := by
  constructor
  · exact eq_cutPieces_of_cutsInto reads
  · rintro rfl
    exact cutsInto_cutPieces reads chars

end Cutting

section Filling

variable {α : Type} {text? : α → Option (List Char)} {pieces : List (Piece α)}

/-- The characters of pieces with a text in the place of each mark. -/
def filled (text : α → List Char) (pieces : List (Piece α)) : List Char :=
  -- Literal characters stay.
  pieces.flatMap fun
    | .literal char => [char]
    | .mark value => text value

/-- Pieces are filled in alike when their marks have the same texts. -/
theorem filled_congr {text other : α → List Char} (agree : ∀ value, .mark value ∈ pieces → text value = other value) :
    filled text pieces = filled other pieces := by
  -- Literal characters have no texts to compare.
  refine List.flatMap_congr fun piece member => ?_
  cases piece with
  | literal char => rfl
  | mark value => exact agree value member

/-- Pieces one after another are filled in one after another. -/
@[simp] theorem filled_append (text : α → List Char) (front back : List (Piece α)) :
    filled text (front ++ back) = filled text front ++ filled text back := List.flatMap_append

/-- A literal piece before others is filled in as its character. -/
@[simp] theorem filled_literal_cons (text : α → List Char) (char : Char) (rest : List (Piece α)) :
    filled text (.literal char :: rest) = char :: filled text rest := rfl

/-- A mark before other pieces is filled in as its text. -/
@[simp] theorem filled_mark_cons (text : α → List Char) (value : α) (rest : List (Piece α)) :
    filled text (.mark value :: rest) = text value ++ filled text rest := rfl

/-- A character that no text has which is put in comes from a literal piece. -/
theorem exists_literal_of_filled {text : α → List Char} {char : Char} {before after : List Char}
    (absent : ∀ value, .mark value ∈ pieces → char ∉ text value)
    (split : filled text pieces = before ++ char :: after) :
    ∃ front back, pieces = front ++ .literal char :: back ∧ filled text front = before ∧ filled text back = after := by
  -- The pieces up to the character are passed one by one.
  induction pieces generalizing before with
  | nil => simp [filled] at split
  | cons piece rest ih =>
    have later := fun value member => absent value (List.mem_cons_of_mem piece member)
    cases piece with
    | literal first =>
      rw [filled_literal_cons] at split
      cases before with
      | nil =>
        obtain ⟨rfl, rfl⟩ := List.cons.inj split
        exact ⟨[], rest, rfl, rfl, rfl⟩
      | cons other before =>
        obtain ⟨rfl, tail⟩ := List.cons.inj split
        obtain ⟨front, back, rfl, same, behind⟩ := ih later tail
        exact ⟨.literal first :: front, back, rfl, by rw [filled_literal_cons, same], behind⟩
    | mark value =>
      rw [filled_mark_cons] at split
      -- The character does not stand in the text, so the text ends before it.
      obtain ⟨between, rfl, tail⟩ : ∃ between, before = text value ++ between ∧
          filled text rest = between ++ char :: after := by
        rcases List.append_eq_append_iff.1 split with inside | ⟨between, same, tail⟩
        · exact inside
        · cases between with
          | nil => exact ⟨[], by simp [same], tail.symm⟩
          | cons first more =>
            obtain ⟨rfl, -⟩ := List.cons.inj tail
            exact absurd (same ▸ by simp) (absent value List.mem_cons_self)
      obtain ⟨front, back, rfl, same, behind⟩ := ih later tail
      exact ⟨.mark value :: front, back, rfl, by rw [filled_mark_cons, same], behind⟩

/-- Later pieces are cut from the end of a text, and earlier ones without marks are what stands before that. -/
theorem CutsInto.back {writes : α → List Char → Prop} {chars : List Char} {front back : List (Piece α)}
    (cut : CutsInto writes chars (front ++ back)) (text : α → List Char) :
    ∃ before after, chars = before ++ after ∧ CutsInto writes after back ∧
      ((∀ value, .mark value ∉ front) → before = filled text front) := by
  -- The induction is on the earlier pieces, each of which is cut off.
  induction front generalizing chars with
  | nil => exact ⟨[], chars, rfl, cut, fun _ => rfl⟩
  | cons piece rest ih =>
    cases cut with
    | @literal char chars _ _ later =>
      obtain ⟨before, after, rfl, behind, plain⟩ := ih later
      exact ⟨char :: before, after, rfl, behind, fun unmarked => by
        rw [filled_literal_cons, plain fun value member => unmarked value (List.mem_cons_of_mem _ member)]⟩
    | @mark value written chars _ _ later =>
      obtain ⟨before, after, rfl, behind, _⟩ := ih later
      exact ⟨written ++ before, after, by simp, behind, fun unmarked =>
        absurd List.mem_cons_self (unmarked value)⟩

/-- The characters of pieces with each mark replaced, or the first mark that cannot be. -/
def fillPieces (text? : α → Option (List Char)) : List (Piece α) → Except α (List Char)
  | [] => .ok []
  | .literal char :: rest => (fillPieces text? rest).map (char :: ·)
  | .mark value :: rest =>
    -- Earlier marks fail first.
    match text? value with
    | none => .error value
    | some text => (fillPieces text? rest).map (text ++ ·)

/-- Pieces are filled alike when their marks have the same texts. -/
theorem fillPieces_congr {other? : α → Option (List Char)}
    (agree : ∀ value, .mark value ∈ pieces → text? value = other? value) :
    fillPieces text? pieces = fillPieces other? pieces := by
  -- Literal characters have no texts to compare.
  induction pieces with
  | nil => rfl
  | cons piece rest ih =>
    have later := ih fun value member => agree value (List.mem_cons_of_mem _ member)
    cases piece with
    | literal char => rw [fillPieces, fillPieces, later]
    | mark value => rw [fillPieces, fillPieces, later, agree value List.mem_cons_self]

/-- A mapped outcome is a result only if the outcome is one. -/
private theorem map_eq_ok_iff {ε β γ : Type} {outcome : Except ε β} {f : β → γ} {result : γ} :
    outcome.map f = .ok result ↔ ∃ value, outcome = .ok value ∧ result = f value := by
  cases outcome <;> simp [Except.map, eq_comm]

/-- A mapped outcome fails as the outcome does. -/
private theorem map_eq_error_iff {ε β γ : Type} {outcome : Except ε β} {f : β → γ} {fault : ε} :
    outcome.map f = .error fault ↔ outcome = .error fault := by
  cases outcome <;> simp [Except.map]

/-- Pieces are filled exactly when every mark can be replaced, and then each mark is. -/
theorem fillPieces_eq_ok_iff {chars : List Char} :
    fillPieces text? pieces = .ok chars ↔
      (∀ value, .mark value ∈ pieces → (text? value).isSome = true) ∧
        chars = filled (fun value => (text? value).getD []) pieces := by
  -- Each piece adds its own characters before those of the rest.
  induction pieces generalizing chars with
  | nil => exact ⟨fun done => ⟨by simp, (Except.ok.inj done).symm⟩, fun same => congrArg Except.ok same.2.symm⟩
  | cons piece rest ih =>
    cases piece with
    | literal char => simp [fillPieces, map_eq_ok_iff, ih, filled, and_assoc]
    | mark value =>
      cases replaced : text? value with
      | none => simp [fillPieces, replaced]
      | some text => simp [fillPieces, map_eq_ok_iff, ih, filled, replaced, and_assoc]

/-- A mark that cannot be replaced. -/
private def Piece.lacksText (text? : α → Option (List Char)) : Piece α → Bool
  | .literal _ => false
  | .mark value => (text? value).isNone

/-- Filling stops at the first piece that lacks a text. -/
private theorem find?_of_fillPieces {value : α} :
    fillPieces text? pieces = .error value ↔ pieces.find? (Piece.lacksText text?) = some (.mark value) := by
  induction pieces with
  | nil => simp [fillPieces]
  | cons piece rest ih =>
    cases piece with
    | literal char => simp [fillPieces, map_eq_error_iff, ih, Piece.lacksText]
    | mark first =>
      cases replaced : text? first <;>
        simp [fillPieces, map_eq_error_iff, ih, Piece.lacksText, replaced]

/-- Filling fails at the first mark that cannot be replaced. -/
theorem fillPieces_eq_error_iff {value : α} :
    fillPieces text? pieces = .error value ↔ ∃ before after, pieces = before ++ .mark value :: after ∧
      (∀ earlier, .mark earlier ∈ before → (text? earlier).isSome = true) ∧ text? value = none := by
  -- Literal characters never lack a text.
  have settled (before : List (Piece α)) : (∀ piece ∈ before, (!piece.lacksText text?) = true) ↔
      ∀ earlier, .mark earlier ∈ before → (text? earlier).isSome = true := by
    constructor
    · intro none earlier member
      simpa [Piece.lacksText] using none _ member
    · intro replaced piece member
      cases piece with
      | literal char => rfl
      | mark earlier => simpa [Piece.lacksText] using replaced earlier member
  rw [find?_of_fillPieces, List.find?_eq_some_iff_append]
  constructor
  · rintro ⟨lacks, before, after, same, none⟩
    exact ⟨before, after, same, (settled before).1 none, by simpa [Piece.lacksText] using lacks⟩
  · rintro ⟨before, after, same, replaced, missing⟩
    exact ⟨by simp [Piece.lacksText, missing], before, after, same, (settled before).2 replaced⟩

end Filling

end PipelineTrial
