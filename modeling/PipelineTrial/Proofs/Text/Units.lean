import PipelineTrial.Text.Units

/-! Characters come back from their UTF-16 units, in which every surrogate is paired. -/

namespace PipelineTrial

namespace Units

/-- A unit that is no half of a surrogate pair. -/
def IsWhole (unit : UInt16) : Prop := isHighSurrogate unit = false ∧ isLowSurrogate unit = false

/-- Two units that are a surrogate pair. -/
def IsPair (high low : UInt16) : Prop := isHighSurrogate high = true ∧ isLowSurrogate low = true

/-- A character is one whole unit or a surrogate pair that stands for it. -/
theorem ofChar_cases (char : Char) :
    (ofChar char = [UInt16.ofNat char.toNat] ∧ IsWhole (UInt16.ofNat char.toNat) ∧
        (UInt16.ofNat char.toNat).toNat = char.toNat) ∨
      ∃ high low, ofChar char = [high, low] ∧ IsPair high low ∧ pairChar high low = char := by
  -- Codes of characters leave the surrogates out and end at the seventeenth plane.
  have valid : char.toNat < 0xd800 ∨ 0xdfff < char.toNat ∧ char.toNat < 0x110000 := char.valid
  by_cases inFirst : char.toNat < 0x10000
  · have number : (UInt16.ofNat char.toNat).toNat = char.toNat :=
      UInt16.toNat_ofNat_of_lt inFirst
    refine .inl ⟨if_pos inFirst, ?_, number⟩
    constructor <;> simp [isHighSurrogate, isLowSurrogate, UInt16.le_iff_toNat_le, number] <;> omega
  · have high : (UInt16.ofNat (0xd800 + (char.toNat - 0x10000) / 0x400)).toNat =
        0xd800 + (char.toNat - 0x10000) / 0x400 :=
      UInt16.toNat_ofNat_of_lt (by simp only [UInt16.size]; omega)
    have low : (UInt16.ofNat (0xdc00 + (char.toNat - 0x10000) % 0x400)).toNat =
        0xdc00 + (char.toNat - 0x10000) % 0x400 :=
      UInt16.toNat_ofNat_of_lt (by simp only [UInt16.size]; omega)
    refine .inr ⟨_, _, if_neg inFirst, ?_, ?_⟩
    · constructor <;> simp only [isHighSurrogate, isLowSurrogate, UInt16.le_iff_toNat_le, high, low,
        Bool.and_eq_true, decide_eq_true_eq] <;> exact ⟨by simp, by simp; omega⟩
    · have code : 0x10000 + (0xd800 + (char.toNat - 0x10000) / 0x400 - 0xd800) * 0x400 +
          (0xdc00 + (char.toNat - 0x10000) % 0x400 - 0xdc00) = char.toNat := by omega
      rw [pairChar, high, low, code, Char.ofNat_toNat]

/-- A whole unit is a piece of its own. -/
theorem pieces_whole {unit : UInt16} (whole : IsWhole unit) (rest : Units) :
    pieces (unit :: rest) = .char (Char.ofNat unit.toNat) :: pieces rest := by
  -- It neither starts a pair nor stands alone as half of one.
  cases rest <;> simp [pieces, whole.1, whole.2]

/-- A surrogate pair is one piece. -/
theorem pieces_pair {high low : UInt16} (pair : IsPair high low) (rest : Units) :
    pieces (high :: low :: rest) = .char (pairChar high low) :: pieces rest := by
  simp [pieces, pair.1, pair.2]

/-- The pieces of the units of characters are these characters. -/
theorem pieces_ofChars (chars : List Char) : pieces (ofChars chars) = chars.map .char := by
  induction chars with
  | nil => rfl
  | cons char rest ih =>
    have spelled : ofChars (char :: rest) = ofChar char ++ ofChars rest := rfl
    rw [spelled, List.map_cons, ← ih]
    rcases ofChar_cases char with ⟨same, whole, number⟩ | ⟨high, low, same, pair, joined⟩
    · rw [same, List.singleton_append, pieces_whole whole, number, Char.ofNat_toNat]
    · rw [same, List.cons_append, List.singleton_append, pieces_pair pair, joined]

/-- The units of characters are the text of these characters. -/
@[simp] theorem toStringEscaped_ofChars (chars : List Char) :
    (ofChars chars).toStringEscaped = String.ofList chars := by
  -- No surrogate stands alone, so nothing is escaped.
  simp [toStringEscaped, pieces_ofChars, List.flatMap_map]

/-- A text comes back from its units. -/
@[simp] theorem toStringEscaped_ofString (text : String) :
    (ofString text).toStringEscaped = text := by
  rw [ofString, toStringEscaped_ofChars, String.ofList_toList]

/-- Texts with the same units are the same. -/
theorem ofString_inj {left right : String} : ofString left = ofString right ↔ left = right := by
  -- Each text comes back from its units.
  constructor
  · intro same
    rw [← toStringEscaped_ofString left, same, toStringEscaped_ofString]
  · rintro rfl
    rfl

/-- The units of joined characters are joined. -/
@[simp] theorem ofChars_append (chars others : List Char) :
    ofChars (chars ++ others) = ofChars chars ++ ofChars others :=
  -- Characters are encoded one by one.
  List.flatMap_append

end Units

end PipelineTrial
