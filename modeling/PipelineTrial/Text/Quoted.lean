import PipelineTrial.Text.HiddenRanges

/-! Texts in double quotes, in which every character can be seen and the quotes are marked. -/

namespace PipelineTrial

/-- Whether a character does not show by itself. -/
def isHidden (char : Char) : Bool :=
  -- The controls of ASCII come before the table.
  let code := char.toNat
  if code < 128 then code < 32 || code == 127
  else hiddenRanges.any fun range => range.1 ≤ code && code ≤ range.2

/-- A character as it stands between quotes. -/
def quoteChar (char : Char) : List Char :=
  -- Quotes, backslashes and common controls have short marks, and other hidden characters a number.
  match char with
  | '"' => ['\\', '"']
  | '\\' => ['\\', '\\']
  | '\n' => ['\\', 'n']
  | '\r' => ['\\', 'r']
  | '\t' => ['\\', 't']
  | '\x00' => ['\\', '0']
  | other =>
    if isHidden other then
      ['\\', 'u', '{'] ++ Nat.toDigits 16 other.toNat ++ ['}']
    else [other]

/-- A text in double quotes. -/
def quoteText (text : String) : String :=
  -- Characters are quoted one by one.
  String.ofList ('"' :: (text.toList.flatMap quoteChar ++ ['"']))

end PipelineTrial
