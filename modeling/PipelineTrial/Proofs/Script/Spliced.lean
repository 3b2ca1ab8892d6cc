import PipelineTrial.Proofs.Script.Grammar

/-! Inputs that are spliced into a script as JSON are read as their literal. -/

namespace PipelineTrial

namespace Script

open Syntactic Grammar

/-- The items of a literal are those of its values. -/
private theorem literalItems_eq (items : List Json) :
    literalItems items = items.map fun item => .single (literal item) := by
  -- By induction on the items.
  induction items with
  | nil => rfl
  | cons item rest ih => rw [literalItems, ih, List.map_cons]

/-- The members of a literal are those of its fields. -/
private theorem literalMembers_eq (fields : List (String × Json)) :
    literalMembers fields = fields.map fun field => .named .value (.fixed (Units.ofString field.1)) (literal field.2)
      (Units.ofString field.1 == Grammar.prototypeName) := by
  -- By induction on the fields.
  induction fields with
  | nil => rfl
  | cons field rest ih => rw [literalMembers, ih, List.map_cons]

/-- Fields whose names differ set the prototype once at most. -/
private theorem setsPrototypeTwice_literalMembers {fields : List (String × Json)}
    (distinct : (Entries.keys fields).Nodup) : setsPrototypeTwice (literalMembers fields) = false := by
  -- The members that set it are the fields of that name.
  have once := List.nodup_iff_count_le_one.1 distinct Script.prototypeName
  unfold setsPrototypeTwice
  refine decide_eq_false (Nat.not_lt.2 (Nat.le_trans (Nat.le_of_eq ?_) once))
  clear once distinct
  induction fields with
  | nil => rfl
  | cons field rest ih =>
    obtain ⟨name, value⟩ := field
    rw [literalMembers, units_eq_prototypeName, List.filter_cons, Entries.keys, List.map_cons, List.count_cons,
      ← Entries.keys, ← ih]
    by_cases sets : name = Script.prototypeName <;> simp [sets]

/-- The tokens that spell a value are read as the literal of the value. -/
theorem readsAs_literal {depth : Nat} {json : Json} {tokens : List Token} (spelled : Spelled json tokens)
    (exact : Exact depth json) : ReadsAs tokens (literal json) := by
  -- By induction on the spelling: brackets are read once all that is in them is.
  induction spelled generalizing depth with
  | null => exact readsAs_word (fun _ => ⟨rfl, rfl, rfl, rfl, rfl⟩) fun _ _ _ => rfl
  | true => exact readsAs_word (fun _ => ⟨rfl, rfl, rfl, rfl, rfl⟩) fun _ _ _ => rfl
  | false => exact readsAs_word (fun _ => ⟨rfl, rfl, rfl, rfl, rfl⟩) fun _ _ _ => rfl
  | integer value => exact readsAs_whole value
  | text value isDirective => exact readsAs_text value isDirective
  -- The items of the list are read as the items of the literal.
  | list items each ih =>
    cases exact with
    | list eachExact =>
      have reads : ∀ part ∈ items.map fun item => (item.2, literal item.1), ReadsAs part.1 part.2 :=
        List.forall_mem_map.2 fun item isItem => ih item isItem (eachExact _ (List.mem_map_of_mem isItem))
      have listed := readsAs_list reads
      simp only [List.map_map, Function.comp_def] at listed
      rw [literal, literalItems_eq, List.map_map]
      exact listed
  -- The members of the object are read as the members of the literal, and their names differ.
  | object members each ih =>
    cases exact with
    | object ascending eachExact =>
      have reads : ∀ part ∈ members.map fun member =>
          NamedPart.mk member.1.1 member.1.2 member.2.2 (literal member.2.1), ReadsAs part.spelling part.value :=
        List.forall_mem_map.2 fun member isMember => ih member isMember (eachExact _ (List.mem_map_of_mem isMember))
      have once := setsPrototypeTwice_literalMembers (Entries.nodup_keys ascending)
      rw [literalMembers_eq, List.map_map] at once
      have listed := readsAs_object reads (by rw [List.map_map]; exact once)
      simp only [List.map_map, Function.comp_def] at listed
      rw [literal, literalMembers_eq, List.map_map]
      exact listed

/-- The call of a function on spelled tokens. -/
def callTokens (tokens : List Token) : List Token :=
  -- The value is the only argument.
  wordToken "main" :: markToken "(" :: (tokens ++ [markToken ")"])

/-- The call of the function on a spelled value is read as its call on the literal. -/
theorem assignment_call {depth : Nat} {json : Json} {tokens : List Token} (spelled : Spelled json tokens)
    (exact : Exact depth json) {levels : Nat} (enough : 3 * tokens.length ≤ levels) (surroundings : Surroundings)
    {rest : List Token} (closed : Closed rest) :
    (ofDepth (levels + 3)).assignment surroundings (callTokens tokens ++ rest) =
      some (Sandbox.callOn (.name "main") (literal json), rest) := by
  -- The name of the function is the operand, and the value in parentheses its only argument.
  have starts : StartsOperand (callTokens tokens ++ rest) := ⟨rfl, rfl, rfl, rfl, rfl⟩
  refine assignment_closed rfl rfl (unaryRule_closed starts ?_ closed) closed
  rw [leftHandSide]
  refine (bind_some starts.noConstruction).trans ?_
  have name : (ofDepth levels).primary surroundings (callTokens tokens ++ rest) =
      some (.name "main", markToken "(" :: (tokens ++ [markToken ")"] ++ rest)) := by
    cases surroundings with
    | mk isStrict => cases isStrict <;> rfl
  -- The argument is read as the literal, up to the parenthesis.
  have arguments : (ofDepth levels).items surroundings ")" false (tokens ++ [markToken ")"] ++ rest) =
      some ([.single (literal json)], rest) := by
    have each : ∀ part ∈ [(tokens, literal json)], ReadsAs part.1 part.2 := by
      simpa using readsAs_literal spelled exact
    have read := items_joined (show ")" ∈ [")", "]"] by decide) false each (by simpa using enough) surroundings rest
    simpa using read
  -- A call is one access to the function, and no other follows.
  have called (bound : Nat) : (ofDepth levels).accesses surroundings (bound + 2) (.name "main") false
      (markToken "(" :: (tokens ++ [markToken ")"] ++ rest)) =
      some ((Sandbox.callOn (.name "main") (literal json), false), rest) := by
    rw [accesses]
    refine (bind_some rfl).trans ?_
    refine (bind_some arguments).trans ?_
    cases closed <;> rfl
  refine (bind_some name).trans ?_
  refine (bind_some rfl).trans ?_
  exact (bind_some (called _)).trans rfl

/-- The statement that keeps the result of a call on spelled tokens. -/
def resultTokens (tokens : List Token) : List Token :=
  -- A semicolon ends it.
  wordToken "var" :: wordToken "result" :: markToken "=" :: (callTokens tokens ++ [markToken ";"])

/-- The statement that keeps the result of the function's call on a value. -/
def resultStatement (json : Json) : Statement :=
  .declare .functionScoped [(.name "result", some (Sandbox.callOn (.name "main") (literal json)))]

/-- The statement that keeps the result of the function is read with the literal as its argument. -/
theorem statement_result {depth : Nat} {json : Json} {tokens : List Token} (spelled : Spelled json tokens)
    (exact : Exact depth json) {levels : Nat} (enough : 3 * tokens.length ≤ levels) (surroundings : Surroundings)
    (rest : List Token) :
    (ofDepth (levels + 4)).statement surroundings (resultTokens tokens ++ rest) =
      some (resultStatement json, rest) := by
  -- It declares one name, whose value is the call.
  let within := { surroundings with allowsMembership := true }
  let target := Pattern.name "result"
  let value := Sandbox.callOn (.name "main") (literal json)
  have named : (ofDepth (levels + 3)).pattern within true
      (wordToken "result" :: markToken "=" :: (callTokens tokens ++ markToken ";" :: rest)) =
      some (target, markToken "=" :: (callTokens tokens ++ markToken ";" :: rest)) := by
    cases surroundings with
    | mk isStrict => cases isStrict <;> rfl
  have called := assignment_call spelled exact enough within (.semicolon false rest)
  have bound : (ofDepth (levels + 3)).binding within .functionScoped true
      (wordToken "result" :: markToken "=" :: (callTokens tokens ++ markToken ";" :: rest)) =
      some ((target, some value), markToken ";" :: rest) := by
    rw [binding]
    refine (bind_some named).trans ?_
    refine (bind_some rfl).trans ?_
    exact (bind_some called).trans rfl
  have all : (ofDepth (levels + 3)).bindings within .functionScoped true
      (wordToken "result" :: markToken "=" :: (callTokens tokens ++ markToken ";" :: rest)) =
      some ([(target, some value)], markToken ";" :: rest) := by
    rw [bindings]
    exact (bind_some bound).trans rfl
  have statement : (ofDepth (levels + 4)).statement surroundings (resultTokens tokens ++ rest) =
      ((ofDepth (levels + 3)).bindings within .functionScoped true >>= fun found => do
        endStatement
        return Statement.declare .functionScoped found)
        (wordToken "result" :: markToken "=" :: (callTokens tokens ++ [markToken ";"] ++ rest)) := rfl
  rw [statement, List.append_assoc]
  exact (bind_some all).trans rfl

/-- The text of the statement that keeps the result, with a value spliced into it as JSON. -/
def resultText (chars : List Char) : List Char := "var result = main(".toList ++ (chars ++ ");".toList)

/-- A spliced text is read as the tokens of the statement. -/
private theorem tokensOf?_resultText {chars : List Char} {tokens : List Token} (lexes : Lexes EndsToken chars tokens) :
    tokensOf? (resultText chars) = some (resultTokens tokens) := by
  -- What stands before and behind the value is the same for all values.
  have start (bound : Nat) (rest : List Char) :
      readTokens false (bound + 5) ("var result = main(".toList ++ rest) none 0 =
        readBehind [wordToken "var"] (readBehind [wordToken "result"] (readBehind [markToken "="]
          (readBehind [wordToken "main"] (readBehind [markToken "("]
            (readTokens false bound rest (some (.mark "(")) 0))))) := rfl
  have ending (bound : Nat) (last : Option Lexeme) (after : Nat) :
      readTokens false (bound + 3) ");".toList last after = some ([markToken ")", markToken ";"], []) := rfl
  have long : (resultText chars).length = chars.length + 20 := by
    have before : "var result = main(".toList.length = 18 := by decide
    have behind : ");".toList.length = 2 := by decide
    unfold resultText
    simp only [List.length_append]
    omega
  have fuel : ∃ bound, 2 * (resultText chars).length + 2 = tokens.length + (bound + 3) + 5 := by
    have short := lexes.short
    rw [long]
    exact ⟨2 * chars.length + 34 - tokens.length, by omega⟩
  obtain ⟨bound, same⟩ := fuel
  obtain ⟨last, after, reads⟩ := lexes.reads (bound + 3) (some (.mark "(")) 0 ");".toList
    (endsToken_cons (by decide) [';'])
  unfold tokensOf?
  rw [same]
  unfold resultText
  rw [start, reads, ending]
  simp [readBehind, resultTokens, callTokens]

/-- Spliced into the statement as compact JSON, a value is read as its literal. -/
theorem parseProgram?_resultText {depth : Nat} {json : Json} (exact : Exact depth json) {chars : List Char}
    (compact : Json.Compact json chars) :
    parseProgram? (resultText chars) = some ⟨[resultStatement json], false⟩ := by
  -- The text is cut into tokens, and these are read as one statement.
  obtain ⟨tokens, spelled, lexes⟩ := lexes_compact compact exact
  let step (depth : Nat) : Syntactic (Option Statement) := do
    if (← get).isEmpty then return none
    else
      let statement ← (ofDepth depth).statement ⟨false, false, false, false, [], true⟩
      return some statement
  have long : (resultTokens tokens).length = tokens.length + 7 := by
    simp [resultTokens, callTokens]
  have enough : ∃ levels, 4 * (resultTokens tokens).length + 8 = levels + 4 ∧ 3 * tokens.length ≤ levels :=
    ⟨4 * tokens.length + 32, by omega, by omega⟩
  obtain ⟨levels, depth, fits⟩ := enough
  have statement := statement_result spelled exact fits ⟨false, false, false, false, [], true⟩ []
  rw [List.append_nil] at statement
  -- Nothing is left behind the statement.
  have first : step (levels + 4) (resultTokens tokens) = some (some (resultStatement json), []) :=
    (bind_some rfl).trans ((bind_some statement).trans rfl)
  have collected : collect (step (4 * (resultTokens tokens).length + 8)) ((resultTokens tokens).length + 1)
      (resultTokens tokens) = some ([resultStatement json], []) := by
    rw [depth, long]
    exact collect_some first (collect_none rfl)
  have parsed : parseProgram? (resultText chars) =
      (collect (step (4 * (resultTokens tokens).length + 8)) ((resultTokens tokens).length + 1)
        (resultTokens tokens)).bind fun found =>
          if bodyClashes [] found.1 then none else some ⟨found.1, false⟩ := by
    unfold parseProgram?
    rw [tokensOf?_resultText lexes]
    rfl
  rw [parsed, collected]
  rfl

/-- The step that calls the function on a value is what the statement is read as, with the value's JSON spliced in. -/
theorem callSteps_spliced {depth : Nat} {json : Json} (exact : Exact depth json) : ∃ step,
    (Sandbox.callSteps json)[1]? = some step ∧
      parseProgram? (resultText (Json.write json)) = some ⟨[step], false⟩ :=
  ⟨resultStatement json, rfl, parseProgram?_resultText exact (Json.compact_write json)⟩

end Script

end PipelineTrial
