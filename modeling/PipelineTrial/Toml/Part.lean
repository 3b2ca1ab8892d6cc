import PipelineTrial.Toml.Value

/-! Tables under construction: who may extend which table, by its origin. -/

namespace PipelineTrial

namespace Toml

/-- How a table came to be. -/
inductive Origin where
  /-- It has a header of its own, or braces. -/
  | header
  /-- It only occurs on the way to a header. -/
  | implied
  /-- It only occurs in the path of an assignment. -/
  | dotted
  deriving DecidableEq

/-- What stands under a key of a table under construction. -/
inductive Part where
  | value (content : Toml)
  | table (origin : Origin) (entries : List (String × Part))
  /-- The tables of a list that has headers, in order. -/
  | sections (tables : List (List (String × Part)))

/-- Changes the table at the end of a path, and adds the missing tables on the way. -/
def descend (dotted : Bool) (change : Origin → Entries Part → Option (Entries Part)) :
    List String → Origin → Entries Part → Option (Entries Part)
  | [], origin, entries => change origin entries
  | key :: path, _, entries =>
    -- Assignments may not pass tables that have a header.
    match entries.get? key with
    | none =>
      let origin : Origin := if dotted then .dotted else .implied
      (descend dotted change path origin []).map fun inner => entries.insert key (.table origin inner)
    | some (.value _) => none
    | some (.table origin inner) =>
      if dotted && origin = .header then none
      else (descend dotted change path origin inner).map fun inner =>
        entries.insert key (.table origin inner)
    | some (.sections tables) =>
      match tables.reverse with
      | [] => none
      | last :: earlier =>
        (descend dotted change path .header last).map fun last =>
          entries.insert key (.sections (last :: earlier).reverse)

/-- A table with a value assigned to a new key at the end of a path. -/
def assign (path : List String) (key : String) (value : Toml) (origin : Origin)
    (entries : Entries Part) : Option (Entries Part) :=
  -- A path ends in a table of paths, and no path in one that is not.
  descend true
    (fun origin entries =>
      if (origin == .dotted) == path.isEmpty || entries.contains key then none
      else some (entries.insert key (.value value)))
    path origin entries

/-- A table with a header for a new table. -/
def openTable (key : String) (_ : Origin) (entries : Entries Part) : Option (Entries Part) :=
  -- A table that was only passed on the way can still get its header.
  match entries.get? key with
  | none => some (entries.insert key (.table .header []))
  | some (.table .implied inner) => some (entries.insert key (.table .header inner))
  | _ => none

/-- A table with a header for a new table of a list. -/
def openSection (key : String) (_ : Origin) (entries : Entries Part) : Option (Entries Part) :=
  -- The list may be new, too.
  match entries.get? key with
  | none => some (entries.insert key (.sections [[]]))
  | some (.sections tables) => some (entries.insert key (.sections (tables ++ [[]])))
  | _ => none

mutual

/-- The value of a part. -/
def Part.content : Part → Toml
  | .value content => content
  | .table _ entries => .table (entryContents entries)
  | .sections tables => .list (sectionContents tables)

/-- The values of a table's parts. -/
def entryContents : List (String × Part) → List (String × Toml)
  | [] => []
  | (key, part) :: rest => (key, part.content) :: entryContents rest

/-- The values of a list's tables. -/
def sectionContents : List (List (String × Part)) → List Toml
  | [] => []
  | entries :: rest => .table (entryContents entries) :: sectionContents rest

end

/-- An assignment: the path to a table, the key in it, and the value. -/
structure Assignment where
  path : List String
  key : String
  value : Toml

/-- The table of assignments in braces. -/
def tableOf? (assignments : List Assignment) : Option Toml :=
  -- Assignments follow one another.
  let assigned := assignments.foldlM
    (fun entries (one : Assignment) => assign one.path one.key one.value .header entries) []
  assigned.map fun entries => .table (entryContents entries)

end Toml

end PipelineTrial
