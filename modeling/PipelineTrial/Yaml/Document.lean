import PipelineTrial.Yaml.Event
import PipelineTrial.Yaml.Resolution

/-! YAML documents: events composed into a tree, with aliases replaced by what they name. -/

namespace PipelineTrial

namespace Yaml

/-- The events of a document with the places that its aliases name. -/
structure EventTable where
  events : Array Event
  /-- For each alias, in order of the events, the place of the node that it repeats. -/
  targets : List (Nat × Nat)

/-- The anchor that an event defines. -/
def Event.anchor? : Event → Option String
  | .scalar anchor _ _ _ => anchor
  | .sequenceStart anchor _ => anchor
  | .mappingStart anchor _ => anchor
  | _ => none

/-- Anchors while events are read: the number of each name, and the place of each number. -/
structure AnchorNumbers where
  names : List (String × Nat)
  places : List (Nat × Nat)
  aliases : List (Nat × Nat)

/-- The anchors after an event at a place; an alias must name an anchor defined before it. -/
def AnchorNumbers.note (numbers : AnchorNumbers) (place : Nat) (event : Event) :
    Reading AnchorNumbers :=
  -- A definition takes the count of distinct names as its number, even when its own name is among them.
  match event with
  | .alias name =>
    match numbers.names.lookup name with
    | some number => .ok { numbers with aliases := (place, number) :: numbers.aliases }
    | none => .error .unknownAlias
  | other =>
    match other.anchor? with
    | none => .ok numbers
    | some name =>
      let number := numbers.names.length
      .ok { numbers with
        names := (name, number) :: numbers.names.filter (·.1 != name)
        places := (number, place) :: numbers.places }

/-- The anchors after all events from a place on. -/
def AnchorNumbers.noteAll (numbers : AnchorNumbers) (place : Nat) :
    List Event → Reading AnchorNumbers
  | [] => .ok numbers
  | event :: rest => do
    let numbers ← numbers.note place event
    numbers.noteAll (place + 1) rest

/-- The table of a document's events. -/
def EventTable.ofEvents (events : List Event) : Reading EventTable := do
  -- The last place that took an alias's number is the one it names.
  let numbers ← AnchorNumbers.noteAll ⟨[], [], []⟩ 0 events
  let targets := numbers.aliases.filterMap fun (place, number) =>
    (numbers.places.lookup number).map fun target => (place, target)
  .ok ⟨events.toArray, targets⟩

/-- The largest number of collections that may be open at once. -/
def depthLimit : Nat := 128

/-- A composed value with the place after it and the number of aliases followed so far. -/
structure Composed (α : Type) where
  value : α
  place : Nat
  followed : Nat

namespace EventTable

/-- The tag that stays on the node of an event. -/
def tagAt? (event : Event) : Option String :=
  -- Tags of types and of other schemes do not stay.
  match event with
  | .scalar _ tag _ _ => tag.bind keptTag?
  | .sequenceStart _ tag => tag.bind keptTag?
  | .mappingStart _ tag => tag.bind keptTag?
  | _ => none

/-- The value of a scalar; a kept tag leaves the scalar itself untyped. -/
def scalarValue (tag : Option String) (content : String) (isPlain : Bool) : Reading Yaml :=
  -- Quoted scalars are texts.
  match tag with
  | some name =>
    if (keptTag? name).isSome then if isPlain then plainValue content else .ok (.text content)
    else typedValue name content
  | none => if isPlain then plainValue content else .ok (.text content)

/-- The value with the tag of its event put on. -/
def withTag (event : Event) (value : Yaml) : Yaml :=
  -- Most values have no tag.
  match tagAt? event with
  | some tag => .tagged tag value
  | none => value

mutual

/-- The value of the node at a place, with at most `depth` further collections open. -/
def compose (table : EventTable) (depth : Nat) : Nat → Nat → Nat → Reading (Composed Yaml)
  | 0, _, _ => .error .nestedTooDeep
  | fuel + 1, place, followed =>
    match table.events[place]? with
    | none => .ok ⟨.null, place, followed⟩
    | some (.alias _) =>
      -- Following aliases is bounded by the size of the document.
      if table.events.size * 100 < followed + 1 then .error .repeatedTooOften
      else
        match table.targets.lookup place with
        | none => .error .unknownAlias
        | some target => do
          let node ← table.compose depth fuel target (followed + 1)
          .ok { node with place := place + 1 }
    | some event@(.scalar _ tag content isPlain) => do
      let value ← scalarValue tag content isPlain
      .ok ⟨withTag event value, place + 1, followed⟩
    | some event@(.sequenceStart _ _) =>
      match depth with
      | 0 => .error .nestedTooDeep
      | depth + 1 => do
        let items ← table.composeItems depth fuel (place + 1) followed
        .ok { items with value := withTag event (.sequence items.value) }
    | some event@(.mappingStart _ _) =>
      match depth with
      | 0 => .error .nestedTooDeep
      | depth + 1 => do
        let entries ← table.composeEntries depth fuel [] (place + 1) followed
        .ok { entries with value := withTag event (.mapping entries.value) }
    | some _ => .error .missingContent
termination_by structural fuel => fuel

/-- The items of a list from a place on. -/
def composeItems (table : EventTable) (depth : Nat) :
    Nat → Nat → Nat → Reading (Composed (List Yaml))
  | 0, _, _ => .error .nestedTooDeep
  | fuel + 1, place, followed =>
    if table.events[place]? == some .sequenceEnd then .ok ⟨[], place + 1, followed⟩
    else do
      let item ← table.compose depth fuel place followed
      let rest ← table.composeItems depth fuel item.place item.followed
      .ok { rest with value := item.value :: rest.value }
termination_by structural fuel => fuel

/-- The entries of a mapping from a place on, whose keys differ from those seen before. -/
def composeEntries (table : EventTable) (depth : Nat) :
    Nat → List Yaml → Nat → Nat → Reading (Composed (List (Yaml × Yaml)))
  | 0, _, _, _ => .error .nestedTooDeep
  | fuel + 1, seen, place, followed =>
    if table.events[place]? == some .mappingEnd then .ok ⟨[], place + 1, followed⟩
    else do
      let key ← table.compose depth fuel place followed
      if seen.any (sameKey key.value) then .error .duplicateKey
      else
        let value ← table.compose depth fuel key.place key.followed
        let rest ← table.composeEntries depth fuel (key.value :: seen) value.place value.followed
        .ok { rest with value := (key.value, value.value) :: rest.value }
termination_by structural fuel => fuel

end

end EventTable

/-- The tree of a text that holds at most one document; an empty text is null. -/
def parse (text : String) : Reading Yaml := do
  -- No path through the events is longer than the depth times the longest list.
  let found ← events text
  let table ← EventTable.ofEvents found
  let composed ← table.compose depthLimit ((depthLimit + 1) * (2 * found.length + 4)) 0 0
  .ok composed.value

end Yaml

end PipelineTrial
