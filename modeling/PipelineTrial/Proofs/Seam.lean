import PipelineTrial.Proofs.Environment
import PipelineTrial.Proofs.Reference

/-! Resolving a resolved text again changes nothing unless a reference has arisen around the texts that were put in. -/

namespace PipelineTrial

/-- A text has none of the characters that open or close references. -/
def BracketFree (chars : List Char) : Prop :=
  -- Colons and names are harmless by themselves.
  '$' ∉ chars ∧ '\x7b' ∉ chars ∧ '\x7d' ∉ chars

/-- Neither a value of an environment nor a default in pieces opens or closes references. -/
structure Environment.BracketFree (environment : Environment) (pieces : List (Piece Reference)) : Prop where
  values : ∀ name value, environment.get? name = some value → PipelineTrial.BracketFree value.toList
  defaults : ∀ name fallback, .mark ⟨name, some fallback⟩ ∈ pieces → PipelineTrial.BracketFree fallback.toList

/-- The text that is put in the place of a reference, which is empty when there is none. -/
def Environment.replacement (environment : Environment) (reference : Reference) : List Char :=
  -- It is the value of the variable, or else the default.
  ((environment.replacement? reference).getD "").toList

/-- A dollar and a closing brace that are no part of a reference, and what is put in between them, spell a reference. -/
def Environment.JoinsReference (environment : Environment) (pieces : List (Piece Reference)) : Prop :=
  -- At least one text is put in.
  ∃ (before between after : List (Piece Reference)) (reference : Reference),
    pieces = before ++ .literal '$' :: between ++ .literal '\x7d' :: after ∧
    (∃ inner, .mark inner ∈ between) ∧
    reference.IsWritten ('$' :: filled environment.replacement between ++ ['\x7d'])

/-- A reference starts with a dollar and ends with a closing brace, which does not stand inside it. -/
theorem Reference.IsWritten.eq_enclosed {reference : Reference} {written : List Char}
    (spelled : reference.IsWritten written) : ∃ inner, written = '$' :: inner ++ ['\x7d'] := by
  cases spelled with
  | @plain name _ => exact ⟨'\x7b' :: name.toList, by simp⟩
  | @defaulted name fallback _ _ => exact ⟨'\x7b' :: (name.toList ++ ':' :: fallback.toList), by simp⟩

/-- A text has a reference exactly when one is written somewhere in it. -/
theorem hasReference_iff {raw : String} :
    HasReference raw ↔ ∃ (reference : Reference) (before written after : List Char), reference.IsWritten written ∧
      raw.toList = before ++ written ++ after := by
  constructor
  · -- What is read at a place is written there.
    rintro ⟨before, chars, same, found⟩
    obtain ⟨⟨reference, after, shorter⟩, read⟩ := Option.isSome_iff_exists.1 found
    obtain ⟨written, spelled, rfl⟩ := (readReference_reads _ _ _).1 ⟨shorter, read⟩
    exact ⟨reference, before, written, after, spelled, by rw [same, List.append_assoc]⟩
  · -- What is written is read at the place where it begins.
    rintro ⟨reference, before, written, after, spelled, same⟩
    obtain ⟨shorter, read⟩ := (readReference_reads _ reference after).2 ⟨written, spelled, rfl⟩
    exact ⟨before, written ++ after, by rw [same, List.append_assoc], by rw [read]; rfl⟩

section Resolving

variable {environment : Environment} {raw resolved : String} {chars : List Char} {pieces : List (Piece Reference)}

/-- What is put in the place of a reference opens or closes none. -/
theorem Environment.BracketFree.replacement (harmless : environment.BracketFree pieces) {reference : Reference}
    (member : .mark reference ∈ pieces) : PipelineTrial.BracketFree (environment.replacement reference) := by
  -- It is a value, a default, or nothing.
  obtain ⟨name, fallback⟩ := reference
  unfold Environment.replacement Environment.replacement?
  cases given : environment.get? name with
  | some value => simpa using harmless.values name value given
  | none =>
    cases fallback with
    | some fallback => simpa using harmless.defaults name fallback member
    | none => exact ⟨by simp, by simp, by simp⟩

/-- A resolved text is filled in with the texts of its references. -/
theorem toList_of_resolveVariables (succeeded : resolveVariables raw environment = .ok resolved) :
    resolved.toList = filled environment.replacement (cutPieces readReference raw.toList) :=
  (Environment.resolves_of_fill (resolveVariables_eq raw environment)).replaced resolved succeeded

/-- A reference has a dollar more than the text in its place, when no value of the environment has one. -/
private theorem count_replacement_lt (values : ∀ name value, environment.get? name = some value → '$' ∉ value.toList)
    {reference : Reference} {written : List Char} (spelled : reference.IsWritten written) :
    (environment.replacement reference).count '$' < written.count '$' := by
  -- A default has no more dollars than the reference in which it is written.
  unfold Environment.replacement Environment.replacement?
  cases spelled with
  | @plain name _ =>
    cases given : environment.get? name with
    | some value => simp [List.count_eq_zero.2 (values name value given)]
    | none => simp
  | @defaulted name fallback _ _ =>
    cases given : environment.get? name with
    | some value => simp [List.count_eq_zero.2 (values name value given)]
    | none =>
      simp only [Option.or_some, Option.getD_none, Option.getD_some, List.count_cons, List.count_append,
        beq_self_eq_true, if_true]
      omega

/-- Filling in pieces adds no dollar, and takes away at least one for each reference. -/
private theorem count_filled (values : ∀ name value, environment.get? name = some value → '$' ∉ value.toList)
    (cut : CutsInto Reference.IsWritten chars pieces) :
    (filled environment.replacement pieces).count '$' ≤ chars.count '$' ∧ ∀ reference, .mark reference ∈ pieces →
      (filled environment.replacement pieces).count '$' < chars.count '$' := by
  -- The induction is on the cut, each mark of which loses a dollar.
  induction cut with
  | nil => simp [filled]
  | @literal char chars pieces _ _ ih =>
    rw [filled_literal_cons, List.count_cons, List.count_cons]
    refine ⟨by omega, fun reference member => ?_⟩
    have later := ih.2 reference (by simpa using member)
    omega
  | @mark reference written chars pieces spelled _ ih =>
    rw [filled_mark_cons, List.count_append, List.count_append]
    have lost := count_replacement_lt values spelled
    exact ⟨by omega, fun _ _ => by omega⟩

/-- A text that is cut at no reference has none. -/
private theorem not_hasReference_of_unmarked (cut : CutsInto Reference.IsWritten chars pieces)
    (unmarked : ∀ reference, .mark reference ∉ pieces) {reference : Reference} {before written after : List Char}
    (spelled : reference.IsWritten written) : chars ≠ before ++ written ++ after := by
  -- The induction is on the cut: a literal character starts no reference, so one would start behind it.
  obtain ⟨inner, enclosed⟩ := spelled.eq_enclosed
  induction cut generalizing before with
  | nil => simp [enclosed]
  | @literal char chars pieces missed _ ih =>
    have later : ∀ reference, .mark reference ∉ pieces := fun reference member =>
      unmarked reference (List.mem_cons_of_mem _ member)
    intro same
    cases before with
    | nil => exact missed reference written after spelled same
    | cons first before =>
      have tail := (List.cons.inj same).2
      exact ih later tail
  | @mark inside _ _ _ _ _ => exact absurd List.mem_cons_self (unmarked inside)

/-- A text that resolves to itself has no reference, when no value of the environment has a dollar. -/
theorem not_hasReference_of_resolveVariables
    (values : ∀ name value, environment.get? name = some value → '$' ∉ value.toList)
    (same : resolveVariables raw environment = .ok raw) : ¬HasReference raw := by
  -- It would lose a dollar.
  have cut := cutsInto_cutPieces readReference_reads raw.toList
  have kept := toList_of_resolveVariables same
  have unmarked : ∀ reference, .mark reference ∉ cutPieces readReference raw.toList := by
    intro reference member
    have fewer := (count_filled values cut).2 reference member
    rw [← kept] at fewer
    omega
  intro holds
  obtain ⟨reference, before, written, after, spelled, split⟩ := hasReference_iff.1 holds
  exact not_hasReference_of_unmarked cut unmarked spelled split

/-- Between two literal pieces of a cut text that are joined to a reference at least one text is put in. -/
private theorem exists_mark_between {before between after : List (Piece Reference)} {reference : Reference}
    (cut : CutsInto Reference.IsWritten chars (before ++ .literal '$' :: between ++ .literal '\x7d' :: after))
    (spelled : reference.IsWritten ('$' :: filled environment.replacement between ++ ['\x7d'])) :
    ∃ inner, .mark inner ∈ between := by
  -- Else the reference is written in the text already, and the dollar starts it.
  by_contra unmarked
  have plain : ∀ reference, .mark reference ∉ .literal '$' :: (between ++ [.literal '\x7d']) := by
    intro reference member
    have inside : .mark reference ∈ between := by simpa using member
    exact unmarked ⟨reference, inside⟩
  have behind : before ++ .literal '$' :: between ++ .literal '\x7d' :: after =
      before ++ (.literal '$' :: (between ++ [.literal '\x7d']) ++ after) := by simp
  rw [behind] at cut
  obtain ⟨_, tail, -, own, -⟩ := cut.back environment.replacement
  obtain ⟨written, rest, split, -, same⟩ := own.back environment.replacement
  have start : tail = '$' :: filled environment.replacement between ++ ['\x7d'] ++ rest := by
    rw [split, same plain]
    simp [filled]
  cases own with
  | literal missed _ => exact missed reference _ rest spelled start

/-- A resolved text has a reference exactly when the text has joined one. -/
theorem hasReference_iff_joinsReference (cut : CutsInto Reference.IsWritten raw.toList pieces)
    (harmless : environment.BracketFree pieces) (succeeded : resolveVariables raw environment = .ok resolved) :
    HasReference resolved ↔ environment.JoinsReference pieces := by
  have same : resolved.toList = filled environment.replacement pieces := by
    rw [toList_of_resolveVariables succeeded, (cutsInto_iff readReference_reads).1 cut]
  rw [hasReference_iff, same]
  constructor
  · rintro ⟨reference, front, written, back, spelled, split⟩
    obtain ⟨inner, rfl⟩ := spelled.eq_enclosed
    -- Neither the dollar nor the brace is put in, so both are literal pieces.
    have opened : filled environment.replacement pieces = front ++ '$' :: (inner ++ '\x7d' :: back) := by
      rw [split]
      simp
    obtain ⟨before, rest, rfl, -, opens⟩ :=
      exists_literal_of_filled (fun value member => (harmless.replacement member).1) opened
    have inside (value : Reference) (member : .mark value ∈ rest) :
        .mark value ∈ before ++ .literal '$' :: rest := by simp [member]
    obtain ⟨between, after, rfl, rfl, -⟩ :=
      exists_literal_of_filled (fun value member => (harmless.replacement (inside value member)).2.2) opens
    have flat : before ++ .literal '$' :: (between ++ .literal '\x7d' :: after) =
      before ++ .literal '$' :: between ++ .literal '\x7d' :: after := by simp
    exact ⟨before, between, after, reference, flat, exists_mark_between (flat ▸ cut) spelled, spelled⟩
  · rintro ⟨before, between, after, reference, rfl, -, spelled⟩
    exact ⟨reference, filled environment.replacement before, _, filled environment.replacement after, spelled, by simp⟩

/-- A text whose dollars all start references resolves once and for all. -/
theorem resolveVariables_again_of_no_literal (cut : CutsInto Reference.IsWritten raw.toList pieces)
    (started : .literal '$' ∉ pieces) (harmless : environment.BracketFree pieces)
    (succeeded : resolveVariables raw environment = .ok resolved) :
    resolveVariables resolved environment = .ok resolved := by
  -- Only a dollar that starts none can be joined to a reference.
  refine resolveVariables_of_not_hasReference (fun holds => ?_) environment
  obtain ⟨before, between, after, _, rfl, -⟩ := (hasReference_iff_joinsReference cut harmless succeeded).1 holds
  simp at started

end Resolving

/--
A resolved text resolves to itself unless a dollar and a closing brace of the text, which are no part of a reference,
have been joined to one by what was put in between them.

This needs values and defaults that open and close no references. What has been joined is replaced when the text is
resolved again, so it never stays as it is.
-/
theorem resolveVariables_again (raw : String) :
    ∃ pieces, (∀ other, CutsInto Reference.IsWritten raw.toList other ↔ other = pieces) ∧
      ∀ (environment : Environment) (resolved : String), environment.BracketFree pieces →
        resolveVariables raw environment = .ok resolved →
          (resolveVariables resolved environment = .ok resolved ↔ ¬environment.JoinsReference pieces) := by
  refine ⟨_, fun other => cutsInto_iff readReference_reads, fun environment resolved harmless succeeded => ?_⟩
  rw [← hasReference_iff_joinsReference (cutsInto_cutPieces readReference_reads raw.toList) harmless succeeded]
  constructor
  · exact not_hasReference_of_resolveVariables fun name value given => (harmless.values name value given).1
  · exact fun plain => resolveVariables_of_not_hasReference plain environment

/-- A dollar before a reference with a default, and a reference to a variable. -/
def priceText : String := "$$\x7bP:5\x7d$\x7bU\x7d"

/-- An environment with a value for that variable. -/
def priceEnvironment : Environment := Dictionary.empty.insert "U" "usd"

/-- The dollar stays in front of the default, and the resolved text resolves to itself unless they are joined. -/
theorem resolveVariables_again_priceText :
    ∃ pieces, CutsInto Reference.IsWritten priceText.toList pieces ∧ priceEnvironment.BracketFree pieces ∧
      resolveVariables priceText priceEnvironment = .ok "$5usd" ∧
      (resolveVariables "$5usd" priceEnvironment = .ok "$5usd" ↔ ¬priceEnvironment.JoinsReference pieces) := by
  obtain ⟨pieces, cut, again⟩ := resolveVariables_again priceText
  have cuts : cutPieces readReference priceText.toList =
      [.literal '$', .mark ⟨"P", some "5"⟩, .mark ⟨"U", none⟩] := by decide +kernel
  obtain rfl : _ = pieces := (cut _).1 (cuts ▸ cutsInto_cutPieces readReference_reads priceText.toList)
  have evaluated : resolveVariables priceText priceEnvironment = .ok "$5usd" := by decide +kernel
  -- Neither the value nor the default has a bracket.
  have harmless : priceEnvironment.BracketFree [.literal '$', .mark ⟨"P", some "5"⟩, .mark ⟨"U", none⟩] := by
    constructor
    · intro name value given
      rw [priceEnvironment, Dictionary.get?_insert] at given
      split at given
      · cases given
        simp [BracketFree]
      · cases given
    · intro name fallback member
      obtain ⟨rfl, rfl⟩ : name = "P" ∧ fallback = "5" := by simpa using member
      simp [BracketFree]
  exact ⟨_, (cut _).2 rfl, harmless, evaluated, again _ _ harmless evaluated⟩

/-- A dollar and a name in braces, apart from each other by a reference with an empty default. -/
def joiningText : String := "$$\x7bE:\x7d\x7bX\x7d"

/-- The empty default joins what is around it to a reference, which is missing when the text is resolved again. -/
theorem resolveVariables_again_joiningText :
    ∃ pieces, CutsInto Reference.IsWritten joiningText.toList pieces ∧
      Environment.BracketFree Dictionary.empty pieces ∧
      resolveVariables joiningText Dictionary.empty = .ok "$\x7bX\x7d" ∧
      resolveVariables "$\x7bX\x7d" Dictionary.empty = .error ⟨"X"⟩ := by
  have cuts : cutPieces readReference joiningText.toList =
      [.literal '$', .mark ⟨"E", some ""⟩, .literal '\x7b', .literal 'X', .literal '\x7d'] := by decide +kernel
  refine ⟨_, cutsInto_cutPieces readReference_reads _, ⟨fun name value given => ?_, fun name fallback member => ?_⟩,
    by decide +kernel, by decide +kernel⟩
  · cases given
  · rw [cuts] at member
    obtain ⟨rfl, rfl⟩ : name = "E" ∧ fallback = "" := by simpa using member
    simp [BracketFree]

end PipelineTrial
