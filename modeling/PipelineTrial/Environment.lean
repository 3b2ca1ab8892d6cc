import PipelineTrial.Dictionary
import PipelineTrial.Text.Pieces

/-! Environment variables, and references to them inside texts, with or without a default. -/

namespace PipelineTrial

/-- The variables of an environment. -/
abbrev Environment := Dictionary String

/-- A reference to a variable, `${NAME}` or `${NAME:default}`. -/
structure Reference where
  name : String
  fallback : Option String
  deriving DecidableEq

/-- The reference at the start of a text. -/
def readReference : MarkReader Reference := fun chars =>
  -- A default runs up to the first closing brace.
  match chars with
  | '$' :: '{' :: afterBrace =>
    match readName afterBrace with
    | none => none
    | some (name, ⟨afterName, shorter⟩) =>
      match afterName, shorter with
      | '}' :: rest, shorter =>
        some (⟨String.ofList name, none⟩,
          ⟨rest, by simp only [List.length_cons] at shorter ⊢; omega⟩)
      | ':' :: afterColon, shorter =>
        match ended : afterColon.dropWhile (· != '}') with
        | '}' :: rest =>
          some (⟨String.ofList name, some (String.ofList (afterColon.takeWhile (· != '}')))⟩,
            ⟨rest, by
              have length := (List.dropWhile_suffix (l := afterColon) (· != '}')).length_le
              simp only [ended, List.length_cons] at length shorter ⊢
              omega⟩)
        | _ => none
      | _, _ => none
  | _ => none

/-- A variable that is neither set nor given a default. -/
structure MissingVariable where
  name : String
  deriving DecidableEq

/-- The text that a piece stands for. -/
def Environment.expand (environment : Environment) :
    Piece Reference → Except MissingVariable (List Char)
  | .literal char => .ok [char]
  | .mark reference =>
    -- A set variable wins over the default.
    match environment.get? reference.name with
    | some value => .ok value.toList
    | none =>
      match reference.fallback with
      | some value => .ok value.toList
      | none => .error ⟨reference.name⟩

/-- The expansions of pieces, joined, or the first that fails. -/
def Environment.expandAll (environment : Environment) :
    List (Piece Reference) → Except MissingVariable (List Char)
  | [] => .ok []
  | piece :: rest =>
    -- Earlier pieces fail first.
    match environment.expand piece with
    | .error missing => .error missing
    | .ok expanded =>
      match environment.expandAll rest with
      | .error missing => .error missing
      | .ok tail => .ok (expanded ++ tail)

/-- A text with every reference replaced once; inserted text is not read again. -/
def resolveVariables (raw : String) (environment : Environment) : Except MissingVariable String :=
  -- The text is cut before anything is inserted.
  match environment.expandAll (cutPieces readReference raw.toList) with
  | .error missing => .error missing
  | .ok chars => .ok (String.ofList chars)

end PipelineTrial
