import PipelineTrial.Proofs.Pipeline.Substitution

/-! The places in a document tree, and what comes out at each of them when the references in the tree are resolved. -/

namespace PipelineTrial

section Related

variable {α β γ δ : Type} {related : α → β → Prop} {onward : γ → δ → Prop}

/-- Two options stay related when related values lead to related options. -/
theorem rel_bind {left : Option α} {right : Option β} {first : α → Option γ} {second : β → Option δ}
    (both : Option.Rel related left right)
    (next : ∀ {before after}, related before after → Option.Rel onward (first before) (second after)) :
    Option.Rel onward (left.bind first) (right.bind second) := by
  cases both with
  | none => exact .none
  | some facts => exact next facts

/-- Two options stay related when a weaker relation is asked of their values. -/
theorem rel_mono {weaker : α → β → Prop} {left : Option α} {right : Option β}
    (both : Option.Rel related left right)
    (weaken : ∀ {before after}, related before after → weaker before after) : Option.Rel weaker left right := by
  cases both with
  | none => exact .none
  | some facts => exact .some (weaken facts)

/-- An option is related to itself when every value is. -/
theorem rel_self {related : α → α → Prop} (same : ∀ value, related value value) (option : Option α) :
    Option.Rel related option option := by
  cases option with
  | none => exact .none
  | some value => exact .some (same value)

end Related

namespace Yaml

/-- A step into a value: to an item of a list, or to the value of an entry whose key has the given text, if any. -/
inductive Step where
  | item (index : Nat)
  | entry (index : Nat) (key : Option String)
  deriving DecidableEq

namespace Step

/-- Whether a step leads to an item. -/
def toItem : Step → Bool
  | .item _ => true
  | .entry _ _ => false

/-- Whether a step leads to what counts as code; `inList` tells whether it starts from an item of a list. -/
def toCode (inList : Bool) : Step → Bool
  | .item _ => false
  | .entry _ key => inList && key == some codeKey

end Step

/-- The value to which a step leads, tags aside. -/
def step? (value : Yaml) : Step → Option Yaml
  | .item index => value.items[index]?
  | .entry index key => value.fields[index]?.bind fun entry => if entry.1.text? = key then some entry.2 else none

/-- The value at a place, which is a list of steps. -/
def at? : Yaml → List Step → Option Yaml
  | value, [] => some value
  | value, step :: rest => (value.step? step).bind fun part => part.at? rest

/-- The text at a place, tags aside. -/
def textAt? (value : Yaml) (place : List Step) : Option String :=
  -- There is none where no text stands.
  (value.at? place).bind text?

/-- Whether a place leads into what counts as code; `inList` tells whether it starts from an item of a list. -/
def skips (inList : Bool) : List Step → Bool
  | [] => false
  | step :: rest => step.toCode inList || skips step.toItem rest

/-- A place that leads through an item of a list, at once to what it has under the code key. -/
def EntersCode (place : List Step) : Prop :=
  -- It does not matter to which list the item belongs.
  ∃ index position, [.item index, .entry position (some codeKey)] <:+: place

/-- A place that leads to what an item of the node list has under the code key. -/
def EntersNodeCode (place : List Step) : Prop :=
  -- Only the node list of the document counts.
  ∃ list index position, [.entry list (some "nodes"), .item index, .entry position (some codeKey)] <+: place

end Yaml

open Yaml

/-- How the text at a place comes out of a document: as it stands if the place enters code, and resolved otherwise. -/
structure ResolvesAt (environment : Environment) (place : List Step) (raw text : String) : Prop where
  resolved : ¬EntersCode place → resolveVariables raw environment = .ok text
  kept : EntersCode place → text = raw

namespace Yaml

/-- A place in two parts is reached by one after the other. -/
theorem at?_append (value : Yaml) (first second : List Step) :
    value.at? (first ++ second) = (value.at? first).bind fun part => part.at? second := by
  induction first generalizing value with
  | nil => rfl
  | cons step rest ih =>
    rw [List.cons_append, at?, at?, Option.bind_assoc]
    exact congrArg (Option.bind _) (funext fun part => ih part)

/-- The text at a place in two parts is that at the second part, from the value at the first. -/
theorem textAt?_append {value part : Yaml} {first : List Step} (reached : value.at? first = some part)
    (second : List Step) : value.textAt? (first ++ second) = part.textAt? second := by
  rw [textAt?, at?_append, reached]
  rfl

/-- What is looked up is the value of an entry. -/
theorem getElem?_of_lookup {name : String} {part : Yaml} : ∀ {entries : List (Yaml × Yaml)},
    lookup name entries = some part → ∃ index : Nat, entries[index]? = some (Yaml.text name, part)
  | (key, value) :: rest, found => by
    -- The first entry with the key is the one, and no other key than a text without a tag counts.
    have later (onward : lookup name rest = some part) :
        ∃ index : Nat, ((key, value) :: rest)[index]? = some (Yaml.text name, part) := by
      obtain ⟨index, there⟩ := getElem?_of_lookup onward
      exact ⟨index + 1, there⟩
    cases key with
    | text own =>
      rw [lookup] at found
      split at found
      · next same =>
        cases found
        exact ⟨0, by rw [same]; rfl⟩
      · exact later found
    | _ => exact later found

/-- A step leads to the value of an entry that is there. -/
theorem step?_of_getElem? {value : Yaml} {index : Nat} {entry : Yaml × Yaml}
    (found : value.fields[index]? = some entry) :
    value.step? (.entry index entry.1.text?) = some entry.2 := by
  rw [step?, found]
  exact if_pos rfl

/-- A step leads to what is looked up. -/
theorem step?_of_lookup {value part : Yaml} {name : String} (found : lookup name value.fields = some part) :
    ∃ index, value.step? (.entry index (some name)) = some part := by
  obtain ⟨index, there⟩ := getElem?_of_lookup found
  exact ⟨index, step?_of_getElem? there⟩

/-- A place is skipped exactly when it enters code, or starts with the code key inside of an item. -/
theorem skips_iff {inList : Bool} {place : List Step} : skips inList place = true ↔
    (inList = true ∧ ∃ position, [.entry position (some codeKey)] <+: place) ∨ EntersCode place := by
  -- What the first step leads to tells how the second counts.
  induction place generalizing inList with
  | nil => simp [skips, EntersCode]
  | cons step rest ih =>
    have onward : EntersCode (step :: rest) ↔
        (step.toItem = true ∧ ∃ position, [.entry position (some codeKey)] <+: rest) ∨ EntersCode rest := by
      simp only [EntersCode, List.infix_cons_iff, List.cons_prefix_cons, exists_or]
      cases step <;> simp [Step.toItem]
    rw [skips, Bool.or_eq_true, ih, ← onward]
    refine or_congr_left ?_
    cases step with
    | item => simp [Step.toCode]
    | entry index key => simp [Step.toCode, @eq_comm _ key]

/-- From the root, exactly the places are skipped that enter code. -/
theorem skips_root_iff {place : List Step} : skips false place = true ↔ EntersCode place := by
  simp [skips_iff]

end Yaml

section Resolution

variable {environment : Environment} {inList : Bool}

/-- Items are resolved one by one, each as an item of a list. -/
theorem forall₂_of_substituteItems {items resolved : List Yaml}
    (succeeded : substituteItems environment items = .ok resolved) :
    List.Forall₂ (fun item other => substitute environment true item = .ok other) items resolved := by
  -- Any failure is one of all items.
  induction items generalizing resolved with
  | nil =>
    cases succeeded
    exact .nil
  | cons item rest ih =>
    simp only [substituteItems] at succeeded
    split at succeeded
    · cases succeeded
    · next first found =>
      split at succeeded <;> cases succeeded
      exact .cons found (ih ‹_›)

/-- Entries keep their keys, and their values are resolved unless they are code. -/
theorem forall₂_of_substituteEntries {entries resolved : List (Yaml × Yaml)}
    (succeeded : substituteEntries environment inList entries = .ok resolved) :
    List.Forall₂ (fun entry other => other.1 = entry.1 ∧
      if holdsCode inList entry.1 then other.2 = entry.2 else substitute environment false entry.2 = .ok other.2)
      entries resolved := by
  induction entries generalizing resolved with
  | nil =>
    cases succeeded
    exact .nil
  | cons entry rest ih =>
    obtain ⟨first, tail, rfl, following, facts⟩ := of_substituteEntries_cons succeeded
    exact .cons ⟨rfl, facts⟩ (ih following)

/-- A step leads on before a value is resolved exactly when it does after that, to code as it was or resolved. -/
theorem step?_of_substitute {value resolved : Yaml}
    (succeeded : substitute environment inList value = .ok resolved) (step : Step) :
    Option.Rel (fun part other =>
      if step.toCode inList then other = part else substitute environment step.toItem part = .ok other)
      (value.step? step) (resolved.step? step) := by
  -- An item is found by its index, and an entry also by its key, which stays.
  cases step with
  | item index => exact rel_getElem?_of_forall₂ (forall₂_of_substituteItems (items_of_substitute succeeded)) index
  | entry index key =>
    have entries := forall₂_of_substituteEntries (fields_of_substitute succeeded)
    refine rel_bind (rel_getElem?_of_forall₂ entries index) fun {entry other} facts => ?_
    obtain ⟨same, facts⟩ := facts
    by_cases named : entry.1.text? = key
    · subst named
      rw [same, if_pos rfl, if_pos rfl]
      exact .some facts
    · rw [same, if_neg named, if_neg named]
      exact .none

/-- A place exists before a value is resolved exactly when it does after that, and what is skipped stays as it was. -/
theorem at?_of_substitute {value resolved : Yaml}
    (succeeded : substitute environment inList value = .ok resolved) (place : List Step) :
    Option.Rel (fun part other =>
      if skips inList place then other = part else ∃ inside, substitute environment inside part = .ok other)
      (value.at? place) (resolved.at? place) := by
  -- Behind a step to code both values are the same, and behind any other the second is the first resolved.
  induction place generalizing inList value resolved with
  | nil => exact .some ⟨inList, succeeded⟩
  | cons step rest ih =>
    refine rel_bind (step?_of_substitute succeeded step) fun {part other} facts => ?_
    simp only [skips]
    split at facts
    · next code =>
      subst facts
      simp only [code, Bool.true_or, if_true]
      refine rel_self (fun value => ?_) _
      rfl
    · next apart =>
      simpa only [apart, Bool.false_or] using ih facts

/-- A value has a text exactly when it has one resolved, and that is the text with its references resolved. -/
theorem text?_of_substitute {value resolved : Yaml} (succeeded : substitute environment inList value = .ok resolved) :
    Option.Rel (fun raw text => resolveVariables raw environment = .ok text) value.text? resolved.text? := by
  -- Only a text has one, and what is tagged has that below the tag.
  have byKind := resolvedByKind_of_substitute succeeded
  clear succeeded
  induction byKind with
  | text resolves => exact .some resolves
  | tagged _ ih => exact ih
  | _ => exact .none

/-- Texts stand at the same places of a document before and after it is resolved, and each comes out by its place. -/
theorem textAt?_of_substitute {root resolved : Yaml}
    (succeeded : substitute environment false root = .ok resolved) (place : List Step) :
    Option.Rel (ResolvesAt environment place) (root.textAt? place) (resolved.textAt? place) := by
  -- A skipped value has the same text, and every other its text resolved.
  refine rel_bind (at?_of_substitute succeeded place) fun {part other} facts => ?_
  split at facts
  · next skipped =>
    subst facts
    have enters := skips_root_iff.1 skipped
    exact rel_self (fun _ => ⟨fun apart => absurd enters apart, fun _ => rfl⟩) _
  · next unskipped =>
    obtain ⟨inside, found⟩ := facts
    have apart := mt skips_root_iff.2 unskipped
    exact rel_mono (text?_of_substitute found) fun same => ⟨fun _ => same, fun enters => absurd enters apart⟩

end Resolution

end PipelineTrial
