/-! Texts cut at their leftmost marks that do not overlap, as literal characters and marks. -/

namespace PipelineTrial

/-- A part of a cut text. -/
inductive Piece (α : Type) where
  | literal (char : Char)
  | mark (value : α)
  deriving DecidableEq

/-- Reads a mark at the start of a text and gives back the shorter rest. -/
abbrev MarkReader (α : Type) : Type :=
  (chars : List Char) → Option (α × { rest : List Char // rest.length < chars.length })

/-- A text cut at its marks, from left to right. -/
def cutPieces {α : Type} (read : MarkReader α) (chars : List Char) : List (Piece α) :=
  -- A character that starts no mark stands for itself.
  match chars with
  | [] => []
  | char :: rest =>
    match read (char :: rest) with
    | some (value, ⟨after, _⟩) => .mark value :: cutPieces read after
    | none => .literal char :: cutPieces read rest
termination_by chars.length
decreasing_by
  · assumption
  · exact Nat.lt_succ_self rest.length

/-- A character that may start a name. -/
def isNameStart (char : Char) : Bool :=
  -- Names start with an ASCII letter or an underscore.
  char.isAlpha || char == '_'

/-- A character that may continue a name. -/
def isNameRest (char : Char) : Bool :=
  -- Digits are allowed after the start.
  char.isAlphanum || char == '_'

/-- The longest name at the start of a text, and the rest. -/
def readName (chars : List Char) :
    Option (List Char × { rest : List Char // rest.length < chars.length }) :=
  -- The rest is what remains after the run of name characters.
  match chars with
  | [] => none
  | first :: rest =>
    if isNameStart first then
      some (first :: rest.takeWhile isNameRest,
        ⟨rest.dropWhile isNameRest,
          Nat.lt_succ_of_le (List.IsSuffix.length_le (List.dropWhile_suffix _))⟩)
    else none

end PipelineTrial
