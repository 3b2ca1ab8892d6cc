import PipelineTrial.Json.Printer
import PipelineTrial.Text.Pieces

/-! Text templates whose placeholders are names in braces. -/

namespace PipelineTrial

/-- The text that a value shows in a template: texts as they are, all else as compact JSON. -/
def Json.shown : Json → String
  | .text value => value
  | other => other.compact

/-- The placeholder at the start of a text, a name in braces. -/
def readPlaceholder : MarkReader String := fun chars =>
  -- Nothing but the name may stand between the braces.
  match chars with
  | '{' :: afterBrace =>
    match readName afterBrace with
    | none => none
    | some (name, ⟨afterName, shorter⟩) =>
      match afterName, shorter with
      | '}' :: rest, shorter =>
        some (String.ofList name, ⟨rest, by simp only [List.length_cons] at shorter ⊢; omega⟩)
      | _, _ => none
  | _ => none

/-- The placeholders and other characters of a template. -/
def templatePieces (template : String) : List (Piece String) :=
  -- Marks are cut from left to right.
  cutPieces readPlaceholder template.toList

/-- A template with the placeholders that name a value replaced once, and all others kept. -/
def renderKnown (template : String) (value? : String → Option Json) : String :=
  -- Inserted text is not read again.
  String.ofList <| (templatePieces template).flatMap fun
    | .literal char => [char]
    | .mark name =>
      match value? name with
      | some value => value.shown.toList
      | none => '{' :: (name.toList ++ ['}'])

/-- The characters of pieces whose placeholders all name a value, or the first name that does not. -/
def renderPieces (value? : String → Option Json) : List (Piece String) → Except String (List Char)
  | [] => .ok []
  | .literal char :: rest =>
    match renderPieces value? rest with
    | .ok tail => .ok (char :: tail)
    | .error name => .error name
  | .mark name :: rest =>
    -- Earlier placeholders fail first.
    match value? name with
    | none => .error name
    | some value =>
      match renderPieces value? rest with
      | .ok tail => .ok (value.shown.toList ++ tail)
      | .error name => .error name

/-- A template with every placeholder replaced once, or the first name without a value. -/
def renderAll (template : String) (value? : String → Option Json) : Except String String :=
  -- Inserted text is not read again.
  match renderPieces value? (templatePieces template) with
  | .ok chars => .ok (String.ofList chars)
  | .error name => .error name

end PipelineTrial
