import PipelineTrial.Toml.Number
import PipelineTrial.Toml.Part

/-! TOML documents: values, assignments and headers, read line by line into one table. -/

namespace PipelineTrial

namespace Toml

/-- The characters after blanks, comments and line ends. -/
def skipFiller : Nat → List Char → List Char
  | 0, chars => chars
  | fuel + 1, chars =>
    -- A comment counts only with the end of its line.
    match skipComment (skipSpaces chars) with
    | '\n' :: rest => skipFiller fuel rest
    | '\r' :: '\n' :: rest => skipFiller fuel rest
    | _ => skipSpaces chars

/-- The characters after blanks, comments and line ends, however many there are. -/
def skipAllFiller (chars : List Char) : List Char := skipFiller chars.length chars

/-- The last key of a path, and the keys before it. -/
def splitPath? (keys : List String) : Option (List String × String) :=
  -- A path has at least one key.
  match keys.reverse with
  | [] => none
  | key :: earlier => some (earlier.reverse, key)

mutual

/-- A value, within bounds on the work and on the values that may still be nested. -/
def readValue : Nat → Nat → List Char → Read Toml
  | 0, _, _ => none
  | fuel + 1, levels, chars =>
    match chars with
    | '[' :: rest =>
      if levels = 0 then none
      else
        match skipAllFiller rest with
        | ']' :: rest => some (.list [], rest)
        | rest =>
          match readItems fuel (levels - 1) rest with
          | none => none
          | some (items, rest) => some (.list items, rest)
    | '{' :: rest =>
      if levels = 0 then none
      else
        match skipSpaces rest with
        | '}' :: rest => some (.table [], rest)
        | rest =>
          match readAssignments fuel (levels - 1) rest with
          | none => none
          | some (assignments, rest) => (tableOf? assignments).map fun table => (table, rest)
    | 't' :: 'r' :: 'u' :: 'e' :: rest => some (.boolean true, rest)
    | 'f' :: 'a' :: 'l' :: 's' :: 'e' :: rest => some (.boolean false, rest)
    | chars => ((readText chars).map fun (content, rest) => (.text content, rest)).or (readNumeric chars)

/-- The items of a list after its bracket, with the closing one. -/
def readItems : Nat → Nat → List Char → Read (List Toml)
  | 0, _, _ => none
  | fuel + 1, levels, chars =>
    -- A comma may follow the last item.
    match readValue fuel levels chars with
    | none => none
    | some (item, rest) =>
      match skipAllFiller rest with
      | ']' :: rest => some ([item], rest)
      | ',' :: rest =>
        match skipAllFiller rest with
        | ']' :: rest => some ([item], rest)
        | rest =>
          match readItems fuel levels rest with
          | none => none
          | some (items, rest) => some (item :: items, rest)
      | _ => none

/-- An assignment with the blanks after it. -/
def readAssignment : Nat → Nat → List Char → Read Assignment
  | 0, _, _ => none
  | fuel + 1, levels, chars =>
    match readPath chars with
    | some (keys, '=' :: rest) =>
      match splitPath? keys, readValue fuel levels (skipSpaces rest) with
      | some (path, key), some (value, rest) => some (⟨path, key, value⟩, skipSpaces rest)
      | _, _ => none
    | _ => none

/-- The assignments of a table after its brace, with the closing one. -/
def readAssignments : Nat → Nat → List Char → Read (List Assignment)
  | 0, _, _ => none
  | fuel + 1, levels, chars =>
    -- No comma follows the last assignment, and all stand on one line.
    match readAssignment fuel levels chars with
    | some (assignment, '}' :: rest) => some ([assignment], rest)
    | some (assignment, ',' :: rest) =>
      match readAssignments fuel levels rest with
      | none => none
      | some (assignments, rest) => some (assignment :: assignments, rest)
    | _ => none

end

/-- A document in progress: its table, and the path of the latest header. -/
structure Draft where
  entries : Entries Part
  current : List String

namespace Draft

/-- The draft before the first line. -/
def start : Draft := ⟨[], []⟩

/-- The draft after an assignment. -/
def assign (draft : Draft) (assignment : Assignment) : Option Draft :=
  -- It belongs to the table of the latest header.
  (descend false (Toml.assign assignment.path assignment.key assignment.value) draft.current
    .header draft.entries).map fun entries => { draft with entries := entries }

/-- The draft after a header, which opens a table in one of two ways. -/
def head (draft : Draft) (openAt : String → Origin → Entries Part → Option (Entries Part))
    (keys : List String) : Option Draft :=
  -- The tables on the way may be missing.
  match splitPath? keys with
  | none => none
  | some (path, key) =>
    (descend false (openAt key) path .header draft.entries).map fun entries => ⟨entries, keys⟩

end Draft

/-- The draft after one statement, and the characters after its line. -/
def readStatement (draft : Draft) (chars : List Char) : Read Draft :=
  -- Brackets open headers, doubled ones for tables of a list.
  let finish (next : Option Draft) (rest : List Char) : Read Draft :=
    match next, endStatement? rest with
    | some draft, some rest => some (draft, rest)
    | _, _ => none
  match chars with
  | '[' :: '[' :: rest =>
    match readPath rest with
    | some (keys, ']' :: ']' :: rest) => finish (draft.head openSection keys) rest
    | _ => none
  | '[' :: rest =>
    match readPath rest with
    | some (keys, ']' :: rest) => finish (draft.head openTable keys) rest
    | _ => none
  | chars =>
    match readAssignment (2 * chars.length + 2) (depthLimit - 1) chars with
    | some (assignment, rest) => finish (draft.assign assignment) rest
    | none => none

/-- The draft after all statements, within a bound on their number. -/
def readStatements : Nat → Draft → List Char → Option Draft
  | 0, _, _ => none
  | fuel + 1, draft, chars =>
    match skipAllFiller chars with
    | [] => some draft
    | '#' :: rest => if (rest.dropWhile isVisible).isEmpty then some draft else none
    | chars =>
      match readStatement draft chars with
      | none => none
      | some (draft, rest) => readStatements fuel draft rest

/-- The table of a document, in front of which a byte-order mark may stand. -/
def parse? (document : String) : Option Toml :=
  -- Each statement takes at least one character.
  let chars := match document.toList with
    | '\ufeff' :: rest => rest
    | chars => chars
  (readStatements (chars.length + 1) Draft.start chars).map fun draft =>
    .table (entryContents draft.entries)

end Toml

end PipelineTrial
