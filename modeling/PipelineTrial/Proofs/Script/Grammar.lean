import PipelineTrial.Proofs.Script.Lexeme
import PipelineTrial.Script.Sandbox

/-! The tokens that spell a value are read as the literal of that value. -/

namespace PipelineTrial

namespace Script

open Syntactic

/-- An expression is over: nothing follows, or a mark that could not belong to it. -/
inductive Closed : List Token → Prop where
  | done : Closed []
  | parenthesis (afterLine : Bool) (rest : List Token) : Closed (.mk (.mark ")") afterLine :: rest)
  | bracket (afterLine : Bool) (rest : List Token) : Closed (.mk (.mark "]") afterLine :: rest)
  | brace (afterLine : Bool) (rest : List Token) : Closed (.mk (.mark "\x7d") afterLine :: rest)
  | comma (afterLine : Bool) (rest : List Token) : Closed (.mk (.mark ",") afterLine :: rest)
  | semicolon (afterLine : Bool) (rest : List Token) : Closed (.mk (.mark ";") afterLine :: rest)

section Steps

variable {α β : Type} {tokens rest : List Token}

/-- A step that succeeds goes on with what it has read. -/
theorem Syntactic.bind_some {step : Syntactic α} {next : α → Syntactic β} {value : α}
    (read : step tokens = some (value, rest)) : (step >>= next) tokens = next value rest := by
  -- The state is what is left of the tokens.
  change (step tokens).bind _ = _
  rw [read]
  rfl

/-- What is found first comes before what is collected after it. -/
theorem Syntactic.collect_some {step : Syntactic (Option α)} {found : α} {more : List α} {last : List Token}
    {bound : Nat} (read : step tokens = some (some found, rest)) (later : collect step bound rest = some (more, last)) :
    collect step (bound + 1) tokens = some (found :: more, last) := by
  -- Each round takes one off the bound.
  rw [collect]
  refine (bind_some read).trans ?_
  exact bind_some later

/-- Nothing is collected where a step finds nothing. -/
theorem Syntactic.collect_none {step : Syntactic (Option α)} {bound : Nat} (read : step tokens = some (none, rest)) :
    collect step (bound + 1) tokens = some ([], rest) := by
  -- The first round ends the collection.
  rw [collect]
  exact bind_some read

end Steps

namespace Grammar

/-- A member of an object literal: a quoted name, which may look like a directive, and the value it has. -/
structure NamedPart where
  name : String
  isDirective : Bool
  spelling : List Token
  value : Expression

/-- The tokens of a member. -/
def NamedPart.written (part : NamedPart) : List Token :=
  -- The colon parts the name from the value.
  textToken part.name part.isDirective :: markToken ":" :: part.spelling

/-- What a member is read as. -/
def NamedPart.member (part : NamedPart) : Member :=
  -- One name sets the prototype.
  .named .value (.fixed (Units.ofString part.name)) part.value (Units.ofString part.name == prototypeName)

/-- An operand starts here: neither an operator of one operand nor a mark that counts. -/
structure StartsOperand (tokens : List Token) : Prop where
  noOperator : unaryOperator? tokens = some (none, tokens)
  noDelete : acceptWord "delete" tokens = some (false, tokens)
  noIncrement : accept "++" tokens = some (false, tokens)
  noDecrement : accept "--" tokens = some (false, tokens)
  noConstruction : acceptWord "new" tokens = some (false, tokens)

variable {self : Grammar} {surroundings : Surroundings} {tokens rest : List Token} {expression : Expression}

/-- A simple expression at the end of an operand is the operand. -/
theorem leftHandSide_closed (starts : StartsOperand tokens)
    (read : self.primary surroundings tokens = some (expression, rest)) (closed : Closed rest) :
    self.leftHandSide surroundings tokens = some (expression, rest) := by
  -- Neither a member nor a call follows.
  rw [leftHandSide]
  refine (bind_some starts.noConstruction).trans ?_
  refine (bind_some read).trans ?_
  cases closed <;> rfl

/-- An operand at the end of an expression carries no counting mark. -/
theorem countedOperand_closed (read : self.leftHandSide surroundings tokens = some (expression, rest))
    (closed : Closed rest) : self.countedOperand surroundings tokens = some (expression, rest) := by
  -- A counting mark would have to follow on the same line.
  rw [countedOperand]
  refine (bind_some read).trans ?_
  cases closed with
  | done => rfl
  -- On a new line no mark is looked for.
  | parenthesis afterLine | bracket afterLine | brace afterLine | comma afterLine | semicolon afterLine =>
    cases afterLine <;> rfl

/-- An operand is read as it is where no operator stands before it. -/
theorem unaryRule_closed (starts : StartsOperand tokens)
    (read : self.leftHandSide surroundings tokens = some (expression, rest)) (closed : Closed rest) :
    self.unaryRule surroundings tokens = some (expression, rest) := by
  -- All that could stand before an operand is looked for in turn.
  rw [unaryRule]
  refine (bind_some starts.noOperator).trans ?_
  refine (bind_some starts.noDelete).trans ?_
  refine (bind_some starts.noIncrement).trans ?_
  refine (bind_some starts.noDecrement).trans ?_
  exact countedOperand_closed read closed

/-- An operand at the end of an expression has no exponent. -/
theorem powerRule_closed (read : self.unary surroundings tokens = some (expression, rest)) (closed : Closed rest) :
    self.powerRule surroundings tokens = some (expression, rest) := by
  -- Whether an operator comes first does not matter then.
  -- Looking for an operator takes no token.
  have operator : ∃ found, unaryOperator? tokens = some (found, tokens) := by
    match tokens with
    | [] => exact ⟨none, rfl⟩
    | .mk (.word _) _ :: _ | .mk (.mark _) _ :: _ => exact ⟨_, rfl⟩
    | .mk (.number _ _) _ :: _ | .mk (.text _ _ _) _ :: _ | .mk (.template _ _) _ :: _ | .mk (.pattern _ _) _ :: _ =>
      exact ⟨none, rfl⟩
  -- Nor does looking for a word.
  have word : ∃ found, seesWord "delete" tokens = some (found, tokens) := by
    match tokens with
    | [] => exact ⟨false, rfl⟩
    | .mk (.word _) _ :: _ => exact ⟨_, rfl⟩
    | .mk (.mark _) _ :: _ | .mk (.number _ _) _ :: _ | .mk (.text _ _ _) _ :: _ | .mk (.template _ _) _ :: _
    | .mk (.pattern _ _) _ :: _ => exact ⟨false, rfl⟩
  obtain ⟨operator, operatorRead⟩ := operator
  obtain ⟨word, wordRead⟩ := word
  rw [powerRule]
  refine (bind_some operatorRead).trans ?_
  refine (bind_some wordRead).trans ?_
  refine (bind_some read).trans ?_
  cases closed <;> rfl

/-- Nothing is joined to an operand where no operator is found. -/
theorem joined_none {operand : Syntactic Expression}
    {operator? : Syntactic (Option (Expression → Expression → Expression))}
    (missing : operator? rest = some (none, rest)) (bound : Nat) :
    joined operand operator? (bound + 1) expression rest = some (expression, rest) := by
  -- The first round finds nothing to go on with.
  rw [joined]
  exact bind_some missing

/-- No operator of a level follows at the end of an expression. -/
theorem level_closed {operators : List (String × BinaryOperator)} {operand : Syntactic Expression}
    (foreign : ∀ mark ∈ [")", "]", "\x7d", ",", ";"], operators.lookup mark = none)
    (read : operand tokens = some (expression, rest)) (closed : Closed rest) :
    level operators operand tokens = some (expression, rest) := by
  -- The marks that close an expression are operators of no level.
  rw [level]
  refine (bind_some read).trans ((bind_some rfl).trans (joined_none ?_ rest.length))
  have missing : ∀ mark ∈ [")", "]", "\x7d", ",", ";"], ∀ more : List Token,
      some ((operators.lookup mark).map Expression.binary, more) = some (none, more) := by
    intro mark isMark more
    rw [foreign mark isMark]
    rfl
  cases closed with
  | done => rfl
  | parenthesis => exact missing ")" (by decide) _
  | bracket => exact missing "]" (by decide) _
  | brace => exact missing "\x7d" (by decide) _
  | comma => exact missing "," (by decide) _
  | semicolon => exact missing ";" (by decide) _

/-- No logical operator follows at the end of an expression. -/
theorem logicalRule_closed {operand : Syntactic Expression} (read : operand tokens = some (expression, rest))
    (closed : Closed rest) : logicalRule operand tokens = some (expression, rest) := by
  -- No mark that closes an expression is one of the three operators.
  rw [logicalRule]
  refine (bind_some read).trans ?_
  cases closed <;> rfl

/-- No operator of two operands follows at the end of an expression. -/
theorem binaryRule_closed (read : self.power surroundings tokens = some (expression, rest)) (closed : Closed rest) :
    self.binaryRule surroundings tokens = some (expression, rest) := by
  -- Level by level, from the weakest on.
  rw [binaryRule]
  refine logicalRule_closed ?_ closed
  refine level_closed (by decide) (level_closed (by decide) (level_closed (by decide) ?_ closed) closed) closed
  refine level_closed (by decide) (level_closed ?_ ?_ closed) closed
  · cases surroundings.allowsMembership <;> decide
  · exact level_closed (by decide) (level_closed (by decide) (level_closed (by decide) read closed) closed) closed

/-- No operator of any kind follows at the end of an expression. -/
theorem assignmentRule_closed (noArrow : startsArrow surroundings tokens = some (false, tokens))
    (noPattern : startsPattern tokens = some (false, tokens))
    (read : self.power surroundings tokens = some (expression, rest)) (closed : Closed rest) :
    self.assignmentRule surroundings tokens = some (expression, rest) := by
  -- Neither a condition nor an assignment follows.
  rw [assignmentRule]
  refine (bind_some noArrow).trans ?_
  refine (bind_some noPattern).trans ?_
  refine (bind_some (binaryRule_closed read closed)).trans ?_
  cases closed <;> rfl

/-- An operand that is an expression is read three levels of the grammar below it. -/
theorem assignment_closed {levels : Nat} (noArrow : startsArrow surroundings tokens = some (false, tokens))
    (noPattern : startsPattern tokens = some (false, tokens))
    (read : (ofDepth levels).unaryRule surroundings tokens = some (expression, rest)) (closed : Closed rest) :
    (ofDepth (levels + 3)).assignment surroundings tokens = some (expression, rest) := by
  -- Assignments, powers and operators of one operand take a level each.
  have power : (ofDepth (levels + 1)).powerRule surroundings tokens = some (expression, rest) :=
    powerRule_closed read closed
  exact assignmentRule_closed noArrow noPattern power closed

/-- Tokens are read as an expression wherever one may stand. -/
structure ReadsAs (tokens : List Token) (expression : Expression) : Prop where
  nonempty : 0 < tokens.length
  /-- No item of a list is left out or spread. -/
  starts : ∀ mark ∈ [")", "]", ",", "..."], ∀ rest, accept mark (tokens ++ rest) = some (false, tokens ++ rest)
  balanced : ∀ depth rest, afterBracket (tokens ++ rest) (depth + 1) = afterBracket rest (depth + 1)
  reads : ∀ {levels : Nat} (surroundings : Surroundings) (rest : List Token), 3 * tokens.length ≤ levels →
    Closed rest → (ofDepth levels).assignment surroundings (tokens ++ rest) = some (expression, rest)

/-- A mark is not taken for another one. -/
private theorem accept_others {found : String} {marks : List String} (foreign : ∀ mark ∈ marks, found ≠ mark)
    (more : List Token) : ∀ mark ∈ marks, ∀ rest,
      accept mark (markToken found :: more ++ rest) = some (false, markToken found :: more ++ rest) := by
  -- A mark is taken only when it is the one that is looked for.
  intro mark isMark rest
  have seen : seesMark mark (markToken found :: more ++ rest) =
      some (found == mark, markToken found :: more ++ rest) := rfl
  rw [beq_eq_false_iff_ne.2 (foreign mark isMark)] at seen
  rw [accept]
  exact bind_some seen

/-- A token that is a simple expression is read as that expression. -/
theorem readsAs_token {token : Token} (starts : ∀ rest, StartsOperand (token :: rest))
    (others : ∀ mark ∈ [")", "]", ",", "..."], ∀ rest, accept mark (token :: rest) = some (false, token :: rest))
    (noBracket : ∀ depth rest, afterBracket (token :: rest) depth = afterBracket rest depth)
    (noArrow : ∀ surroundings rest, Closed rest →
      startsArrow surroundings (token :: rest) = some (false, token :: rest))
    (noPattern : ∀ rest, startsPattern (token :: rest) = some (false, token :: rest))
    (read : ∀ (self : Grammar) surroundings rest, self.primary surroundings (token :: rest) = some (expression, rest)) :
    ReadsAs [token] expression where
  -- Three levels are enough for the rules between an assignment and an operand.
  nonempty := Nat.zero_lt_one
  starts := others
  balanced := fun depth rest => noBracket (depth + 1) rest
  reads := fun {levels} surroundings rest enough closed => by
    obtain ⟨levels, rfl⟩ : ∃ less, levels = less + 3 := ⟨levels - 3, by simp at enough; omega⟩
    have operand := leftHandSide_closed (starts rest) (read (ofDepth levels) surroundings rest) closed
    exact assignment_closed (noArrow surroundings rest closed) (noPattern rest)
      (unaryRule_closed (starts rest) operand closed) closed

/-- A word that is a simple expression is read as that expression. -/
theorem readsAs_word {word : String} (starts : ∀ rest, StartsOperand (wordToken word :: rest))
    (read : ∀ (self : Grammar) surroundings rest,
      self.primary surroundings (wordToken word :: rest) = some (expression, rest)) :
    ReadsAs [wordToken word] expression := by
  -- No arrow follows it at the end of an expression.
  refine readsAs_token starts (fun _ _ _ => rfl) (fun _ _ => rfl) (fun _ _ closed => ?_) (fun _ => rfl) read
  cases closed <;> rfl

/-- A text is read as itself. -/
theorem readsAs_text (value : String) (isDirective : Bool) :
    ReadsAs [textToken value isDirective] (.text (Units.ofString value)) :=
  -- No rule looks at what is in a text.
  readsAs_token (fun _ => ⟨rfl, rfl, rfl, rfl, rfl⟩) (fun _ _ _ => rfl) (fun _ _ => rfl) (fun _ _ _ => rfl)
    (fun _ => rfl) fun _ _ _ => rfl

/-- A natural number starts an operand, which is that number. -/
private theorem leftHandSide_magnitude (number : Nat) (closed : Closed rest) :
    self.leftHandSide surroundings (magnitudeToken number :: rest) = some (.number (.ofNat number), rest) :=
  -- No rule looks at what the number is.
  leftHandSide_closed ⟨rfl, rfl, rfl, rfl, rfl⟩ rfl closed

/-- A whole number is read as itself, with its sign as an operator. -/
theorem readsAs_whole (value : Int) : ReadsAs (wholeTokens value) (wholeLiteral value) := by
  -- The sign decides on both sides.
  rw [wholeTokens, wholeLiteral]
  split
  · -- The operand of the sign is read one level below it.
    refine ⟨Nat.zero_lt_two, accept_others (by decide) _, fun _ _ => rfl,
      fun {levels} surroundings rest enough closed => ?_⟩
    · obtain ⟨levels, rfl⟩ : ∃ less, levels = less + 4 := ⟨levels - 4, by simp at enough; omega⟩
      have magnitude : (ofDepth levels).unaryRule surroundings (magnitudeToken value.natAbs :: rest) =
          some (.number (.ofNat value.natAbs), rest) :=
        unaryRule_closed ⟨rfl, rfl, rfl, rfl, rfl⟩ (leftHandSide_magnitude _ closed) closed
      have negated : (ofDepth (levels + 1)).unaryRule surroundings
          (markToken "-" :: magnitudeToken value.natAbs :: rest) =
          some (.unary .negate (.number (.ofNat value.natAbs)), rest) := by
        rw [unaryRule]
        refine (bind_some (show unaryOperator? (markToken "-" :: _) = some (some .negate, _) from rfl)).trans ?_
        refine (bind_some rfl).trans ?_
        exact bind_some magnitude
      exact assignment_closed rfl rfl negated closed
  · -- Without a sign it is a token like others.
    exact readsAs_token (fun _ => ⟨rfl, rfl, rfl, rfl, rfl⟩) (fun _ _ _ => rfl) (fun _ _ => rfl) (fun _ _ _ => rfl)
      (fun _ => rfl) fun _ _ _ => rfl

/-- Steps that find parts before commas and before the closing mark collect all parts between them. -/
private theorem collect_joined {α β : Type} {step : Syntactic (Option β)} {closing : String}
    (tokensOf : α → List Token) (valueOf : α → β) {parts : List α}
    (comma : ∀ part ∈ parts, ∀ rest, step (tokensOf part ++ markToken "," :: rest) = some (some (valueOf part), rest))
    (last : ∀ part ∈ parts, ∀ rest, step (tokensOf part ++ markToken closing :: rest) =
      some (some (valueOf part), markToken closing :: rest))
    (none : ∀ rest, step (markToken closing :: rest) = some (none, rest)) (rest : List Token) {bound : Nat}
    (enough : parts.length < bound) :
    collect step bound (List.intercalate [markToken ","] (parts.map tokensOf) ++ markToken closing :: rest) =
      some (parts.map valueOf, rest) := by
  -- By induction on the parts: the last one leaves the closing mark to one more step.
  induction parts generalizing bound with
  | nil =>
    obtain ⟨bound, rfl⟩ : ∃ less, bound = less + 1 := ⟨bound - 1, by simp at enough; omega⟩
    exact collect_none (none rest)
  | cons part parts ih =>
    obtain ⟨bound, rfl⟩ : ∃ less, bound = less + 1 := ⟨bound - 1, by simp at enough; omega⟩
    have shorter : parts.length < bound := by simpa using enough
    obtain ⟨partComma, restComma⟩ := List.forall_mem_cons.1 comma
    obtain ⟨partLast, restLast⟩ := List.forall_mem_cons.1 last
    have later := ih restComma restLast shorter
    cases parts with
    | nil => exact collect_some (by simpa using partLast rest) later
    | cons next parts =>
      refine collect_some ?_ later
      have read := partComma
        (List.intercalate [markToken ","] ((next :: parts).map tokensOf) ++ markToken closing :: rest)
      simpa using read

/-- An item of a list is read up to its comma, and up to the bracket if it is the last one. -/
private theorem nextItem_single {closing : String} (closes : closing ∈ [")", "]"]) (allowsHoles : Bool)
    (starts : ∀ mark ∈ [")", "]", ",", "..."], ∀ rest, accept mark (tokens ++ rest) = some (false, tokens ++ rest))
    (read : ∀ rest, Closed rest → self.assignment surroundings (tokens ++ rest) = some (expression, rest))
    (rest : List Token) :
    self.nextItem surroundings closing allowsHoles (tokens ++ markToken "," :: rest) =
        some (some (.single expression), rest) ∧
      self.nextItem surroundings closing allowsHoles (tokens ++ markToken closing :: rest) =
        some (some (.single expression), markToken closing :: rest) := by
  -- Neither the bracket nor a comma nor dots come first, so an expression is read.
  have isMark : closing ∈ [")", "]", ",", "..."] := List.mem_append_left [",", "..."] closes
  have single {left last : List Token} {found : Option Item} (closed : Closed left)
      (ends : (do
        if ← seesMark closing then return some (Item.single expression)
        else
          expect ","
          return some (Item.single expression)) left = some (found, last)) :
      self.nextItem surroundings closing allowsHoles (tokens ++ left) = some (found, last) := by
    rw [nextItem]
    refine (bind_some (starts closing isMark left)).trans ?_
    refine (bind_some (starts "," (by decide) left)).trans ?_
    rw [Bool.and_false]
    refine (bind_some (starts "..." (by decide) left)).trans ?_
    exact (bind_some (read left closed)).trans ends
  have brackets : closing = ")" ∨ closing = "]" := by simpa using closes
  rcases brackets with rfl | rfl
  · exact ⟨single (.comma false rest) rfl, single (.parenthesis false rest) rfl⟩
  · exact ⟨single (.comma false rest) rfl, single (.bracket false rest) rfl⟩

section Joined

variable {α : Type} (tokensOf : α → List Token) {parts : List α}

/-- Parts that are not empty are no more than the tokens of all of them. -/
private theorem length_le_joined (nonempty : ∀ part ∈ parts, 0 < (tokensOf part).length) :
    parts.length ≤ (List.intercalate [markToken ","] (parts.map tokensOf)).length := by
  -- By induction on the parts: each adds a token at least.
  induction parts with
  | nil => exact Nat.zero_le _
  | cons part parts ih =>
    obtain ⟨partNonempty, restNonempty⟩ := List.forall_mem_cons.1 nonempty
    have fewer := ih restNonempty
    cases parts with
    | nil => simpa [Nat.succ_le_iff] using partNonempty
    | cons next parts =>
      simp only [List.map_cons, List.intercalate_cons_cons, List.length_append, List.length_cons] at fewer ⊢
      omega

/-- A part has no more tokens than all of them. -/
private theorem length_part_le {part : α} (isPart : part ∈ parts) :
    (tokensOf part).length ≤ (List.intercalate [markToken ","] (parts.map tokensOf)).length := by
  -- By induction on the parts: the part is the first or one of the others.
  induction parts with
  | nil => cases isPart
  | cons first parts ih =>
    cases parts with
    | nil => simp [List.mem_singleton.1 isPart]
    | cons next parts =>
      simp only [List.map_cons, List.intercalate_cons_cons, List.length_append] at ih ⊢
      rcases List.mem_cons.1 isPart with rfl | later
      · omega
      · have shorter := ih later
        omega

/-- Parts that keep to their own brackets do so together. -/
private theorem afterBracket_joined (depth : Nat)
    (balanced : ∀ part ∈ parts, ∀ rest,
      afterBracket (tokensOf part ++ rest) (depth + 1) = afterBracket rest (depth + 1)) (rest : List Token) :
    afterBracket (List.intercalate [markToken ","] (parts.map tokensOf) ++ rest) (depth + 1) =
      afterBracket rest (depth + 1) := by
  -- By induction on the parts: commas neither open nor close anything.
  induction parts with
  | nil => rfl
  | cons part parts ih =>
    obtain ⟨partBalanced, restBalanced⟩ := List.forall_mem_cons.1 balanced
    have later := ih restBalanced
    cases parts with
    | nil => simpa using partBalanced rest
    | cons next parts =>
      simp only [List.map_cons, List.intercalate_cons_cons, List.append_assoc] at later ⊢
      rw [partBalanced, ← later]
      rfl

end Joined

/-- What stands in brackets is no pattern when no equals sign follows it. -/
private theorem startsPattern_bracketed {opening : String} {more : List Token}
    (closes : afterBracket (markToken opening :: more) 0 = some rest) (closed : Closed rest) :
    startsPattern (markToken opening :: more) = some (false, markToken opening :: more) := by
  -- What follows the closing bracket is a mark that closes an expression.
  have follows : markFollowsBracket "=" (markToken opening :: more) = some (false, markToken opening :: more) := by
    rw [markFollowsBracket]
    refine (bind_some rfl).trans ?_
    rw [closes]
    cases closed <;> rfl
  change (if opening == "[" || opening == "\x7b" then markFollowsBracket "=" else pure false)
    (markToken opening :: more) = _
  split
  · exact follows
  · rfl

/-- Items between commas are read up to the bracket that closes their list. -/
theorem items_joined {closing : String} (closes : closing ∈ [")", "]"]) (allowsHoles : Bool)
    {parts : List (List Token × Expression)} (each : ∀ part ∈ parts, ReadsAs part.1 part.2) {levels : Nat}
    (enough : ∀ part ∈ parts, 3 * part.1.length ≤ levels) (surroundings : Surroundings) (rest : List Token) :
    (ofDepth levels).items surroundings closing allowsHoles
        (List.intercalate [markToken ","] (parts.map (·.1)) ++ markToken closing :: rest) =
      some (parts.map fun part => .single part.2, rest) := by
  -- Each item is collected, and the closing bracket ends the collection.
  have single := fun part (isPart : part ∈ parts) => nextItem_single closes allowsHoles (each part isPart).starts
    fun rest => (each part isPart).reads { surroundings with allowsMembership := true } rest (enough part isPart)
  have closeSeen (rest : List Token) : (ofDepth levels).nextItem { surroundings with allowsMembership := true }
      closing allowsHoles (markToken closing :: rest) = some (none, rest) := by
    have brackets : closing = ")" ∨ closing = "]" := by simpa using closes
    rcases brackets with rfl | rfl <;> rfl
  have fewer := length_le_joined (·.1) fun part (isPart : part ∈ parts) => (each part isPart).nonempty
  rw [items]
  refine (bind_some rfl).trans ?_
  exact collect_joined _ _ (fun part isPart rest => (single part isPart rest).1)
    (fun part isPart rest => (single part isPart rest).2) closeSeen rest (by rw [List.length_append]; omega)

/-- What stands in brackets is read as an expression when the simplest rule reads it as one. -/
private theorem readsAs_bracketed {opening closing : String}
    (brackets : (opening, closing) ∈ [("[", "]"), ("\x7b", "\x7d")]) {inside : List Token}
    (balanced : ∀ depth rest, afterBracket (inside ++ rest) (depth + 1) = afterBracket rest (depth + 1))
    (read : ∀ {levels : Nat} (surroundings : Surroundings) (rest : List Token), 3 * inside.length ≤ levels →
      (ofDepth levels).primary surroundings (markToken opening :: (inside ++ markToken closing :: rest)) =
        some (expression, rest)) :
    ReadsAs (markToken opening :: (inside ++ [markToken closing])) expression := by
  -- Both brackets are marks of their own, and they part what is inside from all that follows.
  have pairs : opening = "[" ∧ closing = "]" ∨ opening = "\x7b" ∧ closing = "\x7d" := by simpa using brackets
  have shape (rest : List Token) : markToken opening :: (inside ++ [markToken closing]) ++ rest =
      markToken opening :: (inside ++ markToken closing :: rest) := by simp
  have others : ∀ mark ∈ [")", "]", ",", "..."], opening ≠ mark := by
    rcases pairs with ⟨rfl, rfl⟩ | ⟨rfl, rfl⟩ <;> decide
  refine ⟨Nat.succ_pos _, accept_others others _, fun depth rest => ?_,
    fun {levels} surroundings rest enough closed => ?_⟩
  · -- The brackets around add a level and take it away.
    have within := balanced (depth + 1) (markToken closing :: rest)
    rw [shape]
    rcases pairs with ⟨rfl, rfl⟩ | ⟨rfl, rfl⟩ <;> exact within
  · -- The brackets themselves leave two levels more than the simplest rule needs.
    simp only [List.length_cons, List.length_append, List.length_nil] at enough
    obtain ⟨levels, rfl⟩ : ∃ less, levels = less + 3 := ⟨levels - 3, by omega⟩
    have primary := read surroundings rest (show 3 * inside.length ≤ levels by omega)
    have within := balanced 0 (markToken closing :: rest)
    rw [shape]
    rcases pairs with ⟨rfl, rfl⟩ | ⟨rfl, rfl⟩ <;>
      exact assignment_closed rfl (startsPattern_bracketed within closed)
        (unaryRule_closed ⟨rfl, rfl, rfl, rfl, rfl⟩
          (leftHandSide_closed ⟨rfl, rfl, rfl, rfl, rfl⟩ primary closed) closed) closed

/-- A list in brackets is read as a list of what its items are read as. -/
theorem readsAs_list {parts : List (List Token × Expression)} (each : ∀ part ∈ parts, ReadsAs part.1 part.2) :
    ReadsAs (markToken "[" :: (List.intercalate [markToken ","] (parts.map (·.1)) ++ [markToken "]"]))
      (.array (parts.map fun part => .single part.2)) := by
  -- The simplest rule reads items up to the closing bracket.
  refine readsAs_bracketed (by decide)
    (fun depth => afterBracket_joined (·.1) depth fun part isPart => (each part isPart).balanced depth)
    fun {levels} surroundings rest enough => ?_
  have fits : ∀ part ∈ parts, 3 * part.1.length ≤ levels := fun part isPart =>
    Nat.le_trans (Nat.mul_le_mul_left 3 (length_part_le (·.1) isPart)) enough
  have read := items_joined (show "]" ∈ [")", "]"] by decide) true each fits surroundings rest
  rw [primary]
  refine (bind_some rfl).trans ?_
  refine (bind_some rfl).trans ?_
  exact bind_some read

/-- A name in quotes, a colon and an expression are a member, which may set the prototype. -/
private theorem objectMember_named (name : String) (isDirective : Bool)
    (read : self.assignment { surroundings with allowsMembership := true } tokens = some (expression, rest)) :
    self.objectMember surroundings (textToken name isDirective :: markToken ":" :: tokens) =
      some (.named .value (.fixed (Units.ofString name)) expression (Units.ofString name == prototypeName), rest) := by
  -- A quoted name is no word that announces a getter, and a colon follows it.
  have valued : self.objectMember surroundings (textToken name isDirective :: markToken ":" :: tokens) =
      (self.assignment { surroundings with allowsMembership := true } >>= fun value =>
        (pure (.named .value (.fixed (Units.ofString name)) value (Units.ofString name == prototypeName)) :
          Syntactic Member)) tokens := rfl
  rw [valued]
  exact bind_some read

/-- A member is read up to its comma, and up to the brace if it is the last one. -/
private theorem nextMember_named {part : NamedPart}
    (read : ∀ rest, Closed rest →
      self.assignment { surroundings with allowsMembership := true } (part.spelling ++ rest) = some (part.value, rest))
    (rest : List Token) :
    self.nextMember surroundings (part.written ++ markToken "," :: rest) = some (some part.member, rest) ∧
      self.nextMember surroundings (part.written ++ markToken "\x7d" :: rest) =
        some (some part.member, markToken "\x7d" :: rest) := by
  -- No brace comes first, so a member is read, and a comma or the brace behind it.
  have named {left last : List Token} {found : Option Member} (closed : Closed left)
      (ends : (do
        if ← seesMark "\x7d" then return some part.member
        else
          expect ","
          return some part.member) left = some (found, last)) :
      self.nextMember surroundings (part.written ++ left) = some (found, last) := by
    have member := objectMember_named part.name part.isDirective (read left closed)
    rw [nextMember]
    have goesOn : accept "\x7d" (part.written ++ left) = some (false, part.written ++ left) := rfl
    refine (bind_some goesOn).trans ?_
    exact (bind_some member).trans ends
  exact ⟨named (.comma false rest) rfl, named (.brace false rest) rfl⟩

/-- Members between commas are read up to the brace that closes their object. -/
theorem objectLiteral_joined {parts : List NamedPart} (each : ∀ part ∈ parts, ReadsAs part.spelling part.value)
    (once : setsPrototypeTwice (parts.map NamedPart.member) = false) {levels : Nat}
    (enough : ∀ part ∈ parts, 3 * part.spelling.length ≤ levels) (surroundings : Surroundings) (rest : List Token) :
    (ofDepth levels).objectLiteral surroundings
        (List.intercalate [markToken ","] (parts.map NamedPart.written) ++ markToken "\x7d" :: rest) =
      some (.object (parts.map NamedPart.member), rest) := by
  -- Each member is collected, and the closing brace ends the collection.
  have named := fun part (isPart : part ∈ parts) => @nextMember_named (ofDepth levels) surroundings part
    fun rest => (each part isPart).reads { surroundings with allowsMembership := true } rest (enough part isPart)
  have fewer := length_le_joined NamedPart.written fun part (_ : part ∈ parts) => Nat.succ_pos _
  rw [objectLiteral]
  refine (bind_some rfl).trans ?_
  refine (bind_some (collect_joined NamedPart.written NamedPart.member
    (fun part isPart rest => (named part isPart rest).1) (fun part isPart rest => (named part isPart rest).2)
    (fun rest => rfl) rest ?_)).trans ?_
  · rw [List.length_append]
    omega
  · rw [once]
    rfl

/-- Members in braces are read as an object with these members, of which one sets the prototype at most. -/
theorem readsAs_object {parts : List NamedPart} (each : ∀ part ∈ parts, ReadsAs part.spelling part.value)
    (once : setsPrototypeTwice (parts.map NamedPart.member) = false) :
    ReadsAs (markToken "\x7b" :: (List.intercalate [markToken ","] (parts.map NamedPart.written) ++ [markToken "\x7d"]))
      (.object (parts.map NamedPart.member)) := by
  -- The simplest rule reads members up to the closing brace.
  refine readsAs_bracketed (by decide)
    (fun depth => afterBracket_joined NamedPart.written depth fun part isPart => (each part isPart).balanced depth)
    fun {levels} surroundings rest enough => ?_
  have fits : ∀ part ∈ parts, 3 * part.spelling.length ≤ levels := by
    intro part isPart
    have shorter := length_part_le NamedPart.written isPart
    simp only [NamedPart.written, List.length_cons] at shorter
    omega
  have read := objectLiteral_joined each once fits surroundings rest
  rw [primary]
  refine (bind_some rfl).trans ?_
  exact (bind_some rfl).trans read

end Grammar

end Script

end PipelineTrial
