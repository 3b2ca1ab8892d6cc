import PipelineTrial.Proofs.Run.Course

/-! The four endings of a run exclude each other, so the error in its report tells which of them it had. -/

namespace PipelineTrial

/-- The last step did not fail, and its node finishes the run. -/
def Arrived (graph : Graph) (steps : List TraceEntry) : Prop :=
  -- A run of no steps cannot have arrived.
  ∃ last node, steps.getLast? = some last ∧ last.status ≠ .failed ∧
    graph.node? last.node = some node ∧ node.transition = .finish

/-- The last step, at a given node, failed in a given way, and the node's policy is to abort. -/
def BrokenOff (graph : Graph) (steps : List TraceEntry) (id : String) (failure : NodeError) : Prop :=
  -- The last entry tells the failure.
  ∃ last node, steps.getLast? = some last ∧ last.node = id ∧ last.status = .failed ∧
    last.error = some failure ∧ graph.node? id = some node ∧ node.errorPolicy = .abort

/-- A node comes next within the limit, but its inputs do not resolve. -/
def Unresolved (graph : Graph) (limit : Nat) (steps : List TraceEntry) (state : State)
    (error : InputError) : Prop :=
  -- The inputs are resolved in the last state.
  ∃ next node, remaining? graph steps = some next ∧ steps.length < limit ∧
    graph.node? next = some node ∧ resolveInputs node state = .error error

/-- A node comes next, but all allowed steps have been taken. -/
def Exhausted (graph : Graph) (limit : Nat) (steps : List TraceEntry) : Prop :=
  -- The limit is met exactly.
  (∃ next, remaining? graph steps = some next) ∧ steps.length = limit

/-- The report of a run describes the walk that its calls made, and tells how it ended. -/
structure Account (graph : Graph) (limit : Nat) (initial : State) (calls : List Exchange)
    (result : PipelineResult) : Prop where
  course : Course graph initial calls result.trace
  state : result.state = stateAfter initial calls
  arrived : result.error = none ↔ Arrived graph result.trace
  brokenOff : ∀ id failure, result.error = some (.node id failure) ↔
    BrokenOff graph result.trace id failure
  unresolved : ∀ error, result.error = some (.input error) ↔
    Unresolved graph limit result.trace result.state error
  exhausted : ∀ count, result.error = some (.stepLimit count) ↔
    count = limit ∧ Exhausted graph limit result.trace
  /-- There is no fifth ending. -/
  exhaustive : result.error = none ∨ (∃ id failure, result.error = some (.node id failure)) ∨
    (∃ error, result.error = some (.input error)) ∨ result.error = some (.stepLimit limit)

section Endings

variable {graph : Graph} {limit : Nat} {steps : List TraceEntry} {state : State}

/-- Nothing comes next once a run has arrived. -/
theorem Arrived.remaining? (arrived : Arrived graph steps) :
    PipelineTrial.remaining? graph steps = none := by
  -- The finishing transition has no target.
  obtain ⟨last, node, final, notFailed, named, finishes⟩ := arrived
  simp [PipelineTrial.remaining?, final, notFailed, Graph.next?, named, finishes, Transition.target?]

/-- Nothing comes next once a run has been broken off. -/
theorem BrokenOff.remaining? {id : String} {failure : NodeError}
    (broken : BrokenOff graph steps id failure) : PipelineTrial.remaining? graph steps = none := by
  -- The last step failed.
  obtain ⟨last, node, final, _, failed, _⟩ := broken
  simp [PipelineTrial.remaining?, final, failed]

/-- A run that goes on has not arrived. -/
theorem not_arrived_of_remaining? {next : String}
    (comes : PipelineTrial.remaining? graph steps = some next) : ¬Arrived graph steps := by
  -- Nothing would come next.
  intro arrived
  simp [arrived.remaining?] at comes

/-- A run that goes on was not broken off. -/
theorem not_brokenOff_of_remaining? {next : String}
    (comes : PipelineTrial.remaining? graph steps = some next) (id : String) (failure : NodeError) :
    ¬BrokenOff graph steps id failure := by
  -- Nothing would come next.
  intro broken
  simp [broken.remaining?] at comes

/-- A run that has arrived was not broken off. -/
theorem Arrived.not_brokenOff (arrived : Arrived graph steps) (id : String) (failure : NodeError) :
    ¬BrokenOff graph steps id failure := by
  -- The last entry has one status.
  obtain ⟨last, _, final, notFailed, _⟩ := arrived
  rintro ⟨other, _, finalOther, _, failed, _⟩
  rw [final] at finalOther
  cases finalOther
  exact notFailed failed

/-- A run is broken off at one node in one way. -/
theorem BrokenOff.unique {id other : String} {failure failureOther : NodeError}
    (broken : BrokenOff graph steps id failure) (brokenOther : BrokenOff graph steps other failureOther) :
    id = other ∧ failure = failureOther := by
  -- The last entry has one node and one error.
  obtain ⟨last, _, final, named, _, told, _⟩ := broken
  obtain ⟨lastOther, _, finalOther, namedOther, _, toldOther, _⟩ := brokenOther
  rw [final] at finalOther
  cases finalOther
  rw [told] at toldOther
  cases toldOther
  exact ⟨named.symm.trans namedOther, rfl⟩

/-- Inputs that do not resolve fail with one error. -/
theorem Unresolved.unique {error other : InputError} (unresolved : Unresolved graph limit steps state error)
    (unresolvedOther : Unresolved graph limit steps state other) : error = other := by
  -- The next node is determined, and resolving its inputs is a function.
  obtain ⟨next, node, comes, _, named, fails⟩ := unresolved
  obtain ⟨nextOther, nodeOther, comesOther, _, namedOther, failsOther⟩ := unresolvedOther
  rw [comes] at comesOther
  cases comesOther
  rw [named] at namedOther
  cases namedOther
  rw [fails] at failsOther
  cases failsOther
  rfl

end Endings

/-- The four endings with the errors that tell them. -/
inductive EndsWith (graph : Graph) (limit : Nat) (steps : List TraceEntry) (state : State) :
    Option PipelineError → Prop where
  | arrived : Arrived graph steps → EndsWith graph limit steps state none
  | brokenOff {id failure} : BrokenOff graph steps id failure →
      EndsWith graph limit steps state (some (.node id failure))
  | unresolved {error} : Unresolved graph limit steps state error →
      EndsWith graph limit steps state (some (.input error))
  | exhausted : Exhausted graph limit steps → EndsWith graph limit steps state (some (.stepLimit limit))

section Telling

variable {graph : Graph} {limit : Nat} {initial : State} {calls : List Exchange}
  {result : PipelineResult} (course : Course graph initial calls result.trace)
  (state : result.state = stateAfter initial calls)

include course state

/-- A report without an error accounts for a run that arrived. -/
private theorem Account.of_arrived (told : result.error = none)
    (arrived : Arrived graph result.trace) : Account graph limit initial calls result := by
  -- Nothing comes next, and the last step did not fail.
  have nothing := arrived.remaining?
  refine ⟨course, state, by simp [told, arrived], ?_, ?_, ?_, .inl told⟩
  · intro id failure
    simp [told, arrived.not_brokenOff]
  · intro error
    simp [told, Unresolved, nothing]
  · intro count
    simp [told, Exhausted, nothing]

/-- A report with the failure of a node accounts for a run that was broken off there. -/
private theorem Account.of_brokenOff {id : String} {failure : NodeError}
    (told : result.error = some (.node id failure)) (broken : BrokenOff graph result.trace id failure) :
    Account graph limit initial calls result := by
  -- Nothing comes next, and the last step has one node and one failure.
  have nothing := broken.remaining?
  refine ⟨course, state, ?_, ?_, ?_, ?_, .inr (.inl ⟨id, failure, told⟩)⟩
  · simpa [told] using fun arrived : Arrived graph result.trace => arrived.not_brokenOff id failure broken
  · intro other failureOther
    rw [told]
    constructor
    · rintro ⟨⟩
      exact broken
    · intro brokenOther
      obtain ⟨rfl, rfl⟩ := broken.unique brokenOther
      rfl
  · intro error
    simp [told, Unresolved, nothing]
  · intro count
    simp [told, Exhausted, nothing]

/-- A report with an error of inputs accounts for a run whose next node could not be given its inputs. -/
private theorem Account.of_unresolved {error : InputError} (told : result.error = some (.input error))
    (unresolved : Unresolved graph limit result.trace result.state error) :
    Account graph limit initial calls result := by
  -- A node comes next, within the limit.
  have ⟨next, _, comes, within, _⟩ := unresolved
  refine ⟨course, state, ?_, ?_, ?_, ?_, .inr (.inr (.inl ⟨error, told⟩))⟩
  · simp [told, not_arrived_of_remaining? comes]
  · intro id failure
    simp [told, not_brokenOff_of_remaining? comes]
  · intro other
    rw [told]
    constructor
    · rintro ⟨⟩
      exact unresolved
    · intro unresolvedOther
      rw [unresolved.unique unresolvedOther]
  · intro count
    simp only [told, Exhausted]
    constructor
    · rintro ⟨⟩
    · rintro ⟨_, _, full⟩
      omega

/-- A report with the limit of steps accounts for a run that has taken all of them. -/
private theorem Account.of_exhausted (told : result.error = some (.stepLimit limit))
    (spent : Exhausted graph limit result.trace) : Account graph limit initial calls result := by
  -- A node comes next, behind the limit.
  have ⟨⟨next, comes⟩, full⟩ := spent
  refine ⟨course, state, ?_, ?_, ?_, ?_, .inr (.inr (.inr told))⟩
  · simp [told, not_arrived_of_remaining? comes]
  · intro id failure
    simp [told, not_brokenOff_of_remaining? comes]
  · intro error
    simp only [told]
    constructor
    · rintro ⟨⟩
    · rintro ⟨_, _, _, within, _⟩
      omega
  · intro count
    rw [told]
    constructor
    · rintro ⟨⟩
      exact ⟨rfl, spent⟩
    · rintro ⟨rfl, _⟩
      rfl

/-- The endings exclude each other, so the error of a run tells which of them it had. -/
theorem Account.of_endsWith (ends : EndsWith graph limit result.trace result.state result.error) :
    Account graph limit initial calls result := by
  -- After two of the endings nothing comes next, and the other two differ by the number of steps.
  generalize told : result.error = error at ends
  cases ends with
  | arrived arrived => exact .of_arrived course state told arrived
  | brokenOff broken => exact .of_brokenOff course state told broken
  | unresolved unresolved => exact .of_unresolved course state told unresolved
  | exhausted spent => exact .of_exhausted course state told spent

end Telling

end PipelineTrial
