import PipelineTrial.Proofs.Pipeline.Graph
import PipelineTrial.Run.Recording

/-! The course of a run: its calls and its trace follow the transitions step by step. -/

namespace PipelineTrial

/-- The answer of a call that was answered. -/
def Exchange.answer? (call : Exchange) : Option (Except NodeError Json) :=
  -- A call can also crash or stay without an answer.
  match call.response with
  | .answer _ answer => some answer
  | _ => none

/-- Every call of a record was answered. -/
def AllAnswered (calls : List Exchange) : Prop :=
  -- No call crashed or stayed without an answer.
  ∀ call ∈ calls, ∃ answer, call.answer? = some answer

/-- The state after a call. -/
def Exchange.absorb (state : State) (call : Exchange) : State :=
  -- Only an answer can change the state.
  match call.answer? with
  | some answer => Walk.absorb call.node answer state
  | none => state

/-- The state after calls that start from a state. -/
def stateAfter (initial : State) (calls : List Exchange) : State := calls.foldl Exchange.absorb initial

/-- An answered call at the end of a record absorbs its answer last. -/
theorem stateAfter_snoc {call : Exchange} {delay : Duration} {answer : Except NodeError Json}
    (replied : call.response = .answer delay answer) (initial : State) (calls : List Exchange) :
    stateAfter initial (calls ++ [call]) =
      Walk.absorb call.node answer (stateAfter initial calls) := by
  -- Calls are absorbed in order.
  simp [stateAfter, Exchange.absorb, Exchange.answer?, replied]

/-- The id that comes next after a trace, if any does. -/
def remaining? (graph : Graph) (steps : List TraceEntry) : Option String :=
  -- The entry point comes first, and nothing comes after a step that failed.
  match steps.getLast? with
  | none => some graph.entryPoint
  | some last => if last.status = .failed then none else graph.next? last.node

/-- Calls and trace entries belong together one by one and follow the transitions of a graph. -/
structure Course (graph : Graph) (initial : State) (calls : List Exchange)
    (steps : List TraceEntry) : Prop where
  /-- Each entry has a call of its own. -/
  paired : calls.length = steps.length
  /-- Steps are counted from one. -/
  numbered : ∀ (place : Nat) entry, steps[place]? = some entry → entry.step = place + 1
  /-- The entry point comes first. -/
  entered : ∀ entry, steps[0]? = some entry → entry.node = graph.entryPoint
  /-- Each later entry is where the transition before it leads. -/
  led : ∀ (place : Nat) entry following, steps[place]? = some entry →
    steps[place + 1]? = some following → graph.next? entry.node = some following.node
  /-- Each call asks for the entry's node, with the inputs that resolve in the state at that point. -/
  asked : ∀ (place : Nat) entry call, steps[place]? = some entry → calls[place]? = some call →
    graph.node? entry.node = some call.node ∧
      resolveInputs call.node (stateAfter initial (calls.take place)) = .ok call.inputs
  /-- Each call is answered, and the entry tells what the answer did. -/
  told : ∀ (place : Nat) entry call, steps[place]? = some entry → calls[place]? = some call →
    ∃ delay answer, call.response = .answer delay answer ∧ entry =
      Walk.entryOf (place + 1) call.node (stateAfter initial (calls.take (place + 1))) delay answer
  /-- Only the last entry can have failed. -/
  unbroken : ∀ (place : Nat) entry, steps[place]? = some entry → place + 1 < steps.length →
    entry.status = .succeeded ∨ entry.status = .captured

/-- An entry of a list with one more at its end is an old one or the new one. -/
private theorem getElem?_snoc {α : Type} {items : List α} {last item : α} {place : Nat}
    (found : (items ++ [last])[place]? = some item) :
    (place < items.length ∧ items[place]? = some item) ∨ (place = items.length ∧ item = last) := by
  -- The place decides which part of the list is read.
  rcases Nat.lt_trichotomy place items.length with inside | at_end | outside
  · exact .inl ⟨inside, by rwa [List.getElem?_append_left inside] at found⟩
  · subst at_end
    exact .inr ⟨rfl, by simpa using found.symm⟩
  · rw [List.getElem?_append_right (by omega), List.getElem?_eq_none (by simp; omega)] at found
    cases found

namespace Course

variable {graph : Graph} {initial : State} {calls : List Exchange} {steps : List TraceEntry}

/-- Nothing has been asked before the first step. -/
theorem nil (graph : Graph) (initial : State) : Course graph initial [] [] := by
  -- Every condition is about some entry.
  constructor <;> simp

/-- A status other than failure is one of the two that let a walk go on. -/
private theorem goesOn {status : StepStatus} (notFailed : status ≠ .failed) :
    status = .succeeded ∨ status = .captured := by
  -- There are three statuses.
  cases status <;> simp_all

/-- The last entry before another step did not fail and leads to it. -/
theorem last_of_remaining? {id : String} (next : remaining? graph steps = some id) {last : TraceEntry}
    (final : steps.getLast? = some last) :
    last.status ≠ .failed ∧ graph.next? last.node = some id := by
  -- This is what it means that an id remains.
  unfold remaining? at next
  simp only [final] at next
  split at next
  · cases next
  · next notFailed => exact ⟨notFailed, next⟩

/-- The entry before the end of a trace is its last one. -/
private theorem getLast?_of_getElem? {place : Nat} {entry : TraceEntry}
    (found : steps[place]? = some entry) (final : place + 1 = steps.length) :
    steps.getLast? = some entry := by
  -- The last place is one less than the length.
  rw [List.getLast?_eq_getElem?, ← final]
  simpa using found

/-- A course goes on with an answered call of the node that comes next. -/
theorem snoc (course : Course graph initial calls steps) {call : Exchange} {delay : Duration}
    {answer : Except NodeError Json} (next : remaining? graph steps = some call.node.id)
    (named : graph.node? call.node.id = some call.node)
    (resolved : resolveInputs call.node (stateAfter initial calls) = .ok call.inputs)
    (replied : call.response = .answer delay answer) :
    Course graph initial (calls ++ [call]) (steps ++ [Walk.entryOf (steps.length + 1) call.node
      (stateAfter initial (calls ++ [call])) delay answer]) := by
  -- Each condition holds of the old entries as before, and of the new one by its premise.
  have paired := course.paired
  refine ⟨by simp [paired], ?_, ?_, ?_, ?_, ?_, ?_⟩
  · intro place other found
    rcases getElem?_snoc found with ⟨_, old⟩ | ⟨rfl, rfl⟩
    · exact course.numbered place other old
    · rfl
  · intro other found
    rcases getElem?_snoc found with ⟨_, old⟩ | ⟨empty, rfl⟩
    · exact course.entered other old
    · have nothing : steps = [] := List.length_eq_zero_iff.1 empty.symm
      subst nothing
      simpa [remaining?, Walk.entryOf] using next.symm
  · intro place other following found foundNext
    rcases getElem?_snoc foundNext with ⟨inside, old⟩ | ⟨final, rfl⟩
    · rw [List.getElem?_append_left (by omega)] at found
      exact course.led place other following found old
    · rw [List.getElem?_append_left (by omega)] at found
      exact (last_of_remaining? next (getLast?_of_getElem? found final)).2
  · intro place other asked found foundCall
    rcases getElem?_snoc found with ⟨inside, old⟩ | ⟨rfl, rfl⟩
    · rw [List.getElem?_append_left (by omega)] at foundCall
      rw [List.take_append_of_le_length (by omega)]
      exact course.asked place other asked old foundCall
    · rw [← paired, List.getElem?_concat_length] at foundCall
      cases foundCall
      rw [← paired, List.take_left]
      exact ⟨named, resolved⟩
  · intro place other asked found foundCall
    rcases getElem?_snoc found with ⟨inside, old⟩ | ⟨rfl, rfl⟩
    · rw [List.getElem?_append_left (by omega)] at foundCall
      rw [List.take_append_of_le_length (by omega)]
      exact course.told place other asked old foundCall
    · rw [← paired, List.getElem?_concat_length] at foundCall
      cases foundCall
      rw [List.take_of_length_le (by simp [paired])]
      exact ⟨delay, answer, replied, rfl⟩
  · intro place other found before
    simp only [List.length_append, List.length_singleton] at before
    rcases getElem?_snoc found with ⟨inside, old⟩ | ⟨rfl, rfl⟩
    · by_cases final : place + 1 = steps.length
      · exact goesOn (last_of_remaining? next (getLast?_of_getElem? old final)).1
      · exact course.unbroken place other old (by omega)
    · omega

end Course

end PipelineTrial
