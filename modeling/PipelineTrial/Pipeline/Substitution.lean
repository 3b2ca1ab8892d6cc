import PipelineTrial.Environment
import PipelineTrial.Yaml.Tree

/-! Resolving environment variables in the texts of a document, code payloads aside. -/

namespace PipelineTrial

/-- The key under which a node holds its code. -/
def codeKey : String := "code"

/-- Whether an entry holds code: its key is the code key, and its mapping is an item of a list. -/
def holdsCode (inList : Bool) (key : Yaml) : Bool :=
  -- Tags on the key do not matter.
  inList && key.text? == some codeKey

mutual

/-- A value with the texts in it resolved; `inList` tells whether it is an item of a list. -/
def substitute (environment : Environment) (inList : Bool) : Yaml → Except MissingVariable Yaml
  | .text raw =>
    match resolveVariables raw environment with
    | .ok resolved => .ok (.text resolved)
    | .error missing => .error missing
  | .sequence items =>
    match substituteItems environment items with
    | .ok resolved => .ok (.sequence resolved)
    | .error missing => .error missing
  | .mapping entries =>
    match substituteEntries environment inList entries with
    | .ok resolved => .ok (.mapping resolved)
    | .error missing => .error missing
  | .tagged tag content =>
    match substitute environment inList content with
    | .ok resolved => .ok (.tagged tag resolved)
    | .error missing => .error missing
  | .null => .ok .null
  | .boolean value => .ok (.boolean value)
  | .integer value => .ok (.integer value)
  | .float value => .ok (.float value)

/-- The items of a list with the texts in them resolved. -/
def substituteItems (environment : Environment) : List Yaml → Except MissingVariable (List Yaml)
  | [] => .ok []
  | item :: rest =>
    match substitute environment true item with
    | .error missing => .error missing
    | .ok resolved =>
      match substituteItems environment rest with
      | .error missing => .error missing
      | .ok tail => .ok (resolved :: tail)

/-- The entries of a mapping with the texts in their values resolved, code and keys left as they are. -/
def substituteEntries (environment : Environment) (inList : Bool) :
    List (Yaml × Yaml) → Except MissingVariable (List (Yaml × Yaml))
  | [] => .ok []
  | (key, value) :: rest =>
    if holdsCode inList key then
      match substituteEntries environment inList rest with
      | .error missing => .error missing
      | .ok tail => .ok ((key, value) :: tail)
    else
      match substitute environment false value with
      | .error missing => .error missing
      | .ok resolved =>
        match substituteEntries environment inList rest with
        | .error missing => .error missing
        | .ok tail => .ok ((key, resolved) :: tail)

end

end PipelineTrial
