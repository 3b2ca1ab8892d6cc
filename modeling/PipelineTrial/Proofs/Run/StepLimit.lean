import PipelineTrial.Proofs.Run.Account

/-! The step limit decides where a run is cut off, and nothing else about it. -/

namespace PipelineTrial

/-- What an executor is asked: to do the work of a node with its inputs at a time. -/
structure NodeCall where
  node : Node
  inputs : Inputs
  asked : Duration

namespace Executor

variable {σ τ : Type}

/-- The responses of an executor to a history of calls. -/
def responses (executor : Executor σ) : List NodeCall → σ → List (Response (Except NodeError Json))
  | [], _ => []
  | call :: rest, world =>
    -- Each call finds the collaborators as the calls before it left them.
    let (response, next) := executor.respond call.node call.inputs call.asked world
    response :: responses executor rest next

/-- Two executors, each with its own collaborators, answer equal histories of calls equally. -/
def AnswersAlike (executor : Executor σ) (world : σ) (other : Executor τ) (worldOther : τ) : Prop :=
  -- What the collaborators consist of does not matter.
  ∀ history, executor.responses history world = other.responses history worldOther

/-- Executors that answer alike give the same response to the next call, and answer alike after it. -/
theorem AnswersAlike.respond {executor : Executor σ} {world : σ} {other : Executor τ} {worldOther : τ}
    (alike : executor.AnswersAlike world other worldOther) (node : Node) (inputs : Inputs) (now : Duration) :
    ∃ response next nextOther, executor.respond node inputs now world = (response, next) ∧
      other.respond node inputs now worldOther = (response, nextOther) ∧
      executor.AnswersAlike next other nextOther := by
  -- The call stands at the start of longer histories.
  have each (rest : List NodeCall) := alike (⟨node, inputs, now⟩ :: rest)
  simp only [responses, List.cons.injEq] at each
  exact ⟨_, _, _, rfl, by rw [(each []).1], fun history => (each history).2⟩

end Executor

namespace Ending

/-- Whether a run was cut off at its step limit. -/
def CutOff (ending : Ending) : Prop :=
  -- The error of its report tells.
  ∃ result count, ending = .reported result ∧ result.error = some (.stepLimit count)

/-- A report tells of a cut when its error does. -/
@[simp] theorem cutOff_reported (result : PipelineResult) :
    (reported result).CutOff ↔ ∃ count, result.error = some (.stepLimit count) := by
  -- It is the only report of the ending.
  simp [CutOff]

/-- A run whose task died was not cut off. -/
@[simp] theorem not_cutOff_crashed : ¬crashed.CutOff := by simp [CutOff]

/-- A run that waits forever was not cut off. -/
@[simp] theorem not_cutOff_stalled : ¬stalled.CutOff := by simp [CutOff]

end Ending

namespace Walk

/-- What keeps a node from being asked is not the step limit. -/
theorem prepare_ne_stepLimit (graph : Graph) (walk : Walk) (count : Nat) :
    walk.prepare graph ≠ .error (.stepLimit count) := by
  -- The node is missing, or its inputs do not resolve.
  unfold prepare
  split
  · simp
  · split <;> simp

/-- What stops a walk at a node is not the step limit. -/
theorem receive_ne_stepLimit (walk stopped : Walk) (node : Node) (elapsed : Duration)
    (answer : Except NodeError Json) (count : Nat) :
    walk.receive node elapsed answer ≠ .stopped stopped (.stepLimit count) := by
  -- It is the failure of the node.
  rcases walk.receive_cases node elapsed answer with ⟨_, _, _, received⟩ | ⟨_, _, received⟩ |
    ⟨_, _, _, received⟩ <;> simp [received]

end Walk

namespace Engine

variable {σ τ : Type}

/-- A run between two nodes: its walk so far, the time, and the collaborators. -/
structure Stand (σ : Type) where
  walk : Walk
  now : Duration
  world : σ

/-- Where a run stands after one more step, when the step leads it on. -/
def stepOn (executor : Executor σ) (graph : Graph) (stand : Stand σ) : Option (Stand σ) :=
  -- The step needs a node with its inputs, an answer, and a transition to another node.
  match stand.walk.prepare graph with
  | .error _ => none
  | .ok (node, inputs) =>
    match executor.respond node inputs stand.now stand.world with
    | (.crash _, _) => none
    | (.silence, _) => none
    | (.answer delay answer, world) =>
      match stand.walk.receive node delay answer with
      | .stopped _ _ => none
      | .arrived _ => none
      | .onward walk => some ⟨walk, stand.now + delay, world⟩

/-- Where a run without a limit stands after a number of steps, when it goes on so far. -/
def standAfter (executor : Executor σ) (graph : Graph) : Nat → Stand σ → Option (Stand σ)
  | 0, stand => some stand
  | count + 1, stand => (stepOn executor graph stand).bind (standAfter executor graph count)

section Steps

variable {executor : Executor σ} {settings : EngineSettings} {definition : Definition} {graph : Graph}
  {started : Duration}

/-- A run that is led on by its next step goes on from where that step has brought it. -/
theorem walkAlone_of_stepOn {left : Nat} {stand next : Stand σ}
    (stepped : stepOn executor graph stand = some next) :
    walkAlone executor settings definition graph started (left + 1) stand.walk stand.now stand.world =
      walkAlone executor settings definition graph started left next.walk next.now next.world := by
  -- Only one way through the step leads on.
  unfold stepOn at stepped
  split at stepped
  · cases stepped
  · next node inputs prepared =>
    split at stepped
    · cases stepped
    · cases stepped
    · next delay answer after responded =>
      split at stepped
      · cases stepped
      · cases stepped
      · next walk received =>
        cases stepped
        simp only [walkAlone, prepared, responded, received]

/-- A run that gets so far goes on from there with the steps that are left. -/
theorem walkAlone_of_standAfter (settings : EngineSettings) (definition : Definition) (started : Duration)
    (left : Nat) {count : Nat} {stand later : Stand σ}
    (stands : standAfter executor graph count stand = some later) :
    walkAlone executor settings definition graph started (count + left) stand.walk stand.now stand.world =
      walkAlone executor settings definition graph started left later.walk later.now later.world := by
  -- Each step uses up one of the allowed ones.
  induction count generalizing stand with
  | zero =>
    cases stands
    rw [Nat.zero_add]
  | succ count ih =>
    obtain ⟨next, stepped, following⟩ := Option.bind_eq_some_iff.1 stands
    rw [Nat.add_right_comm, walkAlone_of_stepOn stepped, ih following]

/-- A run that is not led on by its next step ends there under any limit, and not for the limit. -/
theorem walkAlone_of_stuck (larger : Nat) {left more : Nat} {stand : Stand σ}
    (stuck : stepOn executor graph stand = none) :
    ∃ ended : Ending × Duration × σ, ¬ended.1.CutOff ∧
      walkAlone executor settings definition graph started (left + 1) stand.walk stand.now stand.world = ended ∧
      walkAlone executor { settings with maxSteps := larger } definition graph started (more + 1)
        stand.walk stand.now stand.world = ended := by
  -- Each other way through the step ends the run, with an error of its own or none.
  unfold stepOn at stuck
  split at stuck
  · next error prepared =>
    refine ⟨_, ?_, by simp only [walkAlone, prepared]; rfl, by simp only [walkAlone, prepared]⟩
    simp only [Ending.cutOff_reported, Walk.stop, PipelineResult.errored, Option.some.injEq]
    rintro ⟨count, rfl⟩
    exact Walk.prepare_ne_stepLimit graph stand.walk count prepared
  · next node inputs prepared =>
    split at stuck
    · next delay after responded =>
      refine ⟨(.crashed, stand.now + delay, after), by simp, ?_, ?_⟩ <;>
        simp only [walkAlone, prepared, responded]
    · next after responded =>
      refine ⟨(.stalled, stand.now, after), by simp, ?_, ?_⟩ <;>
        simp only [walkAlone, prepared, responded]
    · next delay answer after responded =>
      split at stuck
      · next walk error received =>
        refine ⟨(.reported (walk.stop definition error (stand.now + delay - started)), stand.now + delay,
          after), ?_, ?_, ?_⟩
        · simp only [Ending.cutOff_reported, Walk.stop, PipelineResult.errored, Option.some.injEq]
          rintro ⟨count, rfl⟩
          exact Walk.receive_ne_stepLimit _ _ _ _ _ count received
        · simp only [walkAlone, prepared, responded, received]
        · simp only [walkAlone, prepared, responded, received]
      · next walk received =>
        refine ⟨(.reported (walk.arrive settings definition (stand.now + delay - started)),
          stand.now + delay, after), ?_, ?_, ?_⟩
        · simp [Walk.arrive, PipelineResult.completed]
        · simp only [walkAlone, prepared, responded, received]
        · simp only [walkAlone, prepared, responded, received, Walk.arrive]
      · cases stuck

/-- A run that does not get as far as its limit ends in the same way under any larger one, and not for the limit. -/
theorem walkAlone_of_standAfter_none (settings : EngineSettings) (definition : Definition)
    (started : Duration) (larger left : Nat) {count : Nat} {stand : Stand σ}
    (ends : standAfter executor graph count stand = none) :
    ∃ ended : Ending × Duration × σ, ¬ended.1.CutOff ∧
      walkAlone executor settings definition graph started count stand.walk stand.now stand.world = ended ∧
      walkAlone executor { settings with maxSteps := larger } definition graph started (count + left)
        stand.walk stand.now stand.world = ended := by
  -- The induction is on the steps until the one that does not lead on.
  induction count generalizing stand with
  | zero => cases ends
  | succ count ih =>
    rw [Nat.add_right_comm]
    cases stepped : stepOn executor graph stand with
    | none => exact walkAlone_of_stuck larger stepped
    | some next =>
      rw [walkAlone_of_stepOn stepped, walkAlone_of_stepOn stepped]
      exact ih (by simpa [standAfter, stepped] using ends)

/-- A step adds an entry to the trace. -/
theorem trace_of_stepOn {stand next : Stand σ} (stepped : stepOn executor graph stand = some next) :
    ∃ entry, next.walk.trace = stand.walk.trace ++ [entry] := by
  -- The entry tells of the answer.
  unfold stepOn at stepped
  split at stepped
  · cases stepped
  · next node inputs prepared =>
    split at stepped
    · cases stepped
    · cases stepped
    · next delay answer after responded =>
      rcases stand.walk.receive_cases node delay answer with ⟨_, _, _, received⟩ | ⟨_, _, received⟩ |
        ⟨_, _, _, received⟩
      · simp [received] at stepped
      · simp [received] at stepped
      · simp only [received, Option.some.injEq] at stepped
        subst stepped
        exact ⟨_, Walk.trace_advance _ _ _ _ _⟩

/-- A number of steps adds as many entries to the trace. -/
theorem length_trace_of_standAfter {count : Nat} {stand later : Stand σ}
    (stands : standAfter executor graph count stand = some later) :
    later.walk.trace.length = stand.walk.trace.length + count := by
  -- Each step adds one.
  induction count generalizing stand with
  | zero =>
    cases stands
    rfl
  | succ count ih =>
    obtain ⟨next, stepped, following⟩ := Option.bind_eq_some_iff.1 stands
    obtain ⟨entry, added⟩ := trace_of_stepOn stepped
    rw [ih following, added, List.length_append, List.length_singleton]
    omega

/-- The trace of a walk is the beginning of the trace that its run reports. -/
theorem trace_of_walkAlone {left : Nat} {walk : Walk} {now finished : Duration} {world after : σ}
    {result : PipelineResult}
    (ran : walkAlone executor settings definition graph started left walk now world =
      (.reported result, finished, after)) : walk.trace <+: result.trace := by
  -- The induction is on the steps left: each adds an entry at the end.
  induction left generalizing walk now world with
  | zero =>
    cases ran
    exact List.prefix_refl _
  | succ left ih =>
    simp only [walkAlone] at ran
    split at ran
    · cases ran
      exact List.prefix_refl _
    · next node inputs prepared =>
      split at ran
      · cases ran
      · cases ran
      · next delay answer next responded =>
        have added (following : String) :
            walk.trace <+: (walk.advance node delay answer following).trace :=
          ⟨_, (Walk.trace_advance _ _ _ _ _).symm⟩
        rcases walk.receive_cases node delay answer with ⟨_, _, _, received⟩ | ⟨_, _, received⟩ |
          ⟨following, _, _, received⟩
        · simp only [received] at ran
          cases ran
          exact added walk.next
        · simp only [received] at ran
          cases ran
          exact added walk.next
        · simp only [received] at ran
          exact (added following).trans (ih ran)

end Steps

/-- Executors that answer alike lead a walk to the same ending by the same calls. -/
theorem walkAlone_alike {executor : Executor σ} {world : σ} {other : Executor τ} {worldOther : τ}
    (alike : executor.AnswersAlike world other worldOther) (settings : EngineSettings)
    (definition : Definition) (graph : Graph) (started : Duration) (left : Nat) (walk : Walk)
    (now : Duration) (calls : List Exchange) :
    ∃ ending finished after afterOther made,
      walkAlone executor.recorded settings definition graph started left walk now (world, calls) =
        (ending, finished, after, made) ∧
      walkAlone other.recorded settings definition graph started left walk now (worldOther, calls) =
        (ending, finished, afterOther, made) := by
  -- Each call gets the same response, and the executors answer alike after it.
  induction left generalizing walk now world worldOther calls with
  | zero => exact ⟨_, _, _, _, _, rfl, rfl⟩
  | succ left ih =>
    cases prepared : walk.prepare graph with
    | error error =>
      simp only [walkAlone, prepared]
      exact ⟨_, _, _, _, _, rfl, rfl⟩
    | ok pair =>
      obtain ⟨node, inputs⟩ := pair
      obtain ⟨response, next, nextOther, responded, respondedOther, following⟩ :=
        alike.respond node inputs now
      simp only [walkAlone, prepared, Executor.respond_recorded responded calls,
        Executor.respond_recorded respondedOther calls]
      cases response with
      | crash delay => exact ⟨_, _, _, _, _, rfl, rfl⟩
      | silence => exact ⟨_, _, _, _, _, rfl, rfl⟩
      | answer delay answer =>
        simp only []
        cases walk.receive node delay answer with
        | stopped walk error => exact ⟨_, _, _, _, _, rfl, rfl⟩
        | arrived walk => exact ⟨_, _, _, _, _, rfl, rfl⟩
        | onward walk => exact ih following walk (now + delay) _

/-- A run is the same when it is recorded, whether or not its graph builds. -/
theorem execute_eq_recorded (executor : Executor σ) (settings : EngineSettings) (definition : Definition)
    (now : Duration) (world : σ) :
    ∃ ending finished after calls,
      execute executor settings definition now world = (ending, finished, after) ∧
      execute executor.recorded settings definition now (world, []) = (ending, finished, after, calls) := by
  -- A graph that does not build ends both before the first call.
  cases built : Graph.build definition with
  | error error =>
    simp only [execute, built]
    exact ⟨_, _, _, [], rfl, rfl⟩
  | ok graph =>
    obtain ⟨ending, finished, after, made, plain, recorded⟩ := walkAlone_recorded executor settings
      definition graph now settings.maxSteps (Walk.start definition graph) now world []
    refine ⟨ending, finished, after, made, by simp only [execute, built, plain], ?_⟩
    simpa only [execute, built, List.nil_append] using recorded

/-- Executors that answer alike lead a run to the same ending by the same calls. -/
theorem execute_alike {executor : Executor σ} {world : σ} {other : Executor τ} {worldOther : τ}
    (alike : executor.AnswersAlike world other worldOther) (settings : EngineSettings)
    (definition : Definition) (now : Duration) :
    ∃ ending finished after afterOther calls,
      execute executor.recorded settings definition now (world, []) = (ending, finished, after, calls) ∧
      execute other.recorded settings definition now (worldOther, []) =
        (ending, finished, afterOther, calls) := by
  -- A graph that does not build ends both before the first call.
  cases built : Graph.build definition with
  | error error =>
    simp only [execute, built]
    exact ⟨_, _, _, _, [], rfl, rfl⟩
  | ok graph =>
    simp only [execute, built]
    exact walkAlone_alike alike settings definition graph now settings.maxSteps _ now []

/-- A run that was cut off is the beginning of a run with a larger limit. -/
structure CutFrom (executor : Executor σ) (settings : EngineSettings) (larger : Nat)
    (definition : Definition) (now : Duration) (world : σ) (result : PipelineResult)
    (calls : List Exchange) (long : Ending × Duration × σ × List Exchange) : Prop where
  error : result.error = some (.stepLimit settings.maxSteps)
  /-- Every allowed step was taken. -/
  length : result.trace.length = settings.maxSteps
  trace : ∀ resultLong, long.1 = .reported resultLong → result.trace <+: resultLong.trace
  calls : calls <+: long.2.2.2
  /-- The longer run passes through the state and the trace of the cut, and goes on from there. -/
  passes : ∃ graph stand, Graph.build definition = .ok graph ∧
    standAfter executor.recorded graph settings.maxSteps ⟨Walk.start definition graph, now, (world, [])⟩ =
      some stand ∧
    stand.walk.state = result.state ∧ stand.walk.trace = result.trace ∧
    walkAlone executor.recorded { settings with maxSteps := larger } definition graph now
      (larger - settings.maxSteps) stand.walk stand.now stand.world = long

/-- A run is cut off when it goes on to its limit, and otherwise ends as under any larger limit. -/
theorem execute_of_larger (executor : Executor σ) (settings : EngineSettings) {larger : Nat}
    (more : settings.maxSteps ≤ larger) (definition : Definition) (now : Duration) (world : σ) :
    ∃ short long,
      execute executor.recorded settings definition now (world, []) = short ∧
      execute executor.recorded { settings with maxSteps := larger } definition now (world, []) = long ∧
      (¬short.1.CutOff ∧ long = short ∨
        ∃ result, short.1 = .reported result ∧
          CutFrom executor settings larger definition now world result short.2.2.2 long) := by
  -- The steps up to the limit either lead on to the end, or one of them does not.
  obtain ⟨extra, rfl⟩ := Nat.exists_eq_add_of_le more
  cases built : Graph.build definition with
  | error error =>
    refine ⟨_, _, rfl, rfl, .inl ⟨?_, ?_⟩⟩ <;> simp [execute, built, PipelineResult.aborted,
      PipelineResult.errored]
  | ok graph =>
    simp only [execute, built]
    cases stands : standAfter executor.recorded graph settings.maxSteps
        ⟨Walk.start definition graph, now, (world, [])⟩ with
    | none =>
      obtain ⟨ended, uncut, short, long⟩ := walkAlone_of_standAfter_none settings definition now
        (settings.maxSteps + extra) extra stands
      exact ⟨_, _, short, long, .inl ⟨uncut, rfl⟩⟩
    | some stand =>
      have short := walkAlone_of_standAfter settings definition now 0 stands
      have long := walkAlone_of_standAfter { settings with maxSteps := settings.maxSteps + extra } definition
        now extra stands
      refine ⟨_, _, short, long, .inr ⟨_, rfl, ?_⟩⟩
      obtain ⟨ending, finished, after, made, _, recorded⟩ := walkAlone_recorded executor
        { settings with maxSteps := settings.maxSteps + extra } definition graph now extra stand.walk
        stand.now stand.world.1 stand.world.2
      exact {
        error := rfl
        length := (length_trace_of_standAfter stands).trans (Nat.zero_add _)
        trace := fun resultLong reported => trace_of_walkAlone (Prod.ext reported rfl)
        calls := by
          rw [show walkAlone _ _ definition graph now extra stand.walk stand.now stand.world = _ from recorded]
          exact List.prefix_append _ _
        passes := ⟨graph, stand, built, stands, rfl, rfl, by rw [Nat.add_sub_cancel_left]⟩ }

/--
A run that is not cut off by its step limit is the same under any larger limit, with collaborators that answer alike.

A run that is cut off has taken all its steps: its trace and its calls are the beginning of those of the longer run, which
passes through its state.
-/
theorem execute_limit_only_cuts (executor : Executor σ) (world : σ) (other : Executor τ) (worldOther : τ)
    (alike : executor.AnswersAlike world other worldOther) (settings : EngineSettings) {larger : Nat}
    (more : settings.maxSteps ≤ larger) (definition : Definition) (now : Duration) :
    ∃ ending finished after calls long finishedLong afterLong callsLong,
      execute executor settings definition now world = (ending, finished, after) ∧
      execute executor.recorded settings definition now (world, []) = (ending, finished, after, calls) ∧
      execute other { settings with maxSteps := larger } definition now worldOther =
        (long, finishedLong, afterLong) ∧
      execute other.recorded { settings with maxSteps := larger } definition now (worldOther, []) =
        (long, finishedLong, afterLong, callsLong) ∧
      (¬ending.CutOff → long = ending ∧ finishedLong = finished ∧ callsLong = calls) ∧
      ∀ result, ending = .reported result → ending.CutOff →
        CutFrom other settings larger definition now worldOther result calls
          (long, finishedLong, afterLong, callsLong) := by
  -- The shorter run is moved to the other collaborators, where it is compared with the longer one.
  obtain ⟨ending, finished, after, afterOther, calls, short, shortOther⟩ := execute_alike alike settings definition now
  obtain ⟨_, _, _, _, plain, recorded⟩ := execute_eq_recorded executor settings definition now world
  obtain ⟨long, finishedLong, afterLong, callsLong, plainLong, recordedLong⟩ :=
    execute_eq_recorded other { settings with maxSteps := larger } definition now worldOther
  obtain ⟨_, _, same, sameLong, either⟩ := execute_of_larger other settings more definition now worldOther
  rw [short] at recorded
  cases recorded
  rw [shortOther] at same
  subst same
  rw [recordedLong] at sameLong
  subst sameLong
  refine ⟨ending, finished, _, calls, long, finishedLong, afterLong, callsLong, plain, short, plainLong,
    recordedLong, fun uncut => ?_, fun result reported cut => ?_⟩
  · rcases either with ⟨_, equal⟩ | ⟨result, reported, cut⟩
    · cases equal
      exact ⟨rfl, rfl, rfl⟩
    · exact absurd ⟨result, _, reported, cut.error⟩ uncut
  · rcases either with ⟨uncut, _⟩ | ⟨own, same, cutFrom⟩
    · exact absurd cut uncut
    · rw [reported] at same
      cases same
      exact cutFrom

/-- With one step allowed, a run of two is cut off behind the failure that its first node captures. -/
theorem execute_limit_only_cuts_twoSteps :
    Executor.AnswersAlike .prepared
        [.answer ⟨5⟩ (.error (.toolInvocation "down")), .answer ⟨0⟩ (.ok (.boolean true))] .prepared
        [.answer ⟨5⟩ (.error (.toolInvocation "down")), .answer ⟨0⟩ (.ok (.boolean true))] ∧
      ∃ result finished after calls long,
        execute .prepared ⟨1, defaultVerdictKey⟩ .twoSteps Duration.zero
            [.answer ⟨5⟩ (.error (.toolInvocation "down")), .answer ⟨0⟩ (.ok (.boolean true))] =
          (.reported result, finished, after) ∧
        result.error = some (.stepLimit 1) ∧
        CutFrom .prepared ⟨1, defaultVerdictKey⟩ 2 .twoSteps Duration.zero
          [.answer ⟨5⟩ (.error (.toolInvocation "down")), .answer ⟨0⟩ (.ok (.boolean true))] result calls
          long := by
  have alike : Executor.AnswersAlike .prepared
      [.answer ⟨5⟩ (.error (.toolInvocation "down")), .answer ⟨0⟩ (.ok (.boolean true))] .prepared
      [.answer ⟨5⟩ (.error (.toolInvocation "down")), .answer ⟨0⟩ (.ok (.boolean true))] := fun _ => rfl
  have ran : execute .prepared ⟨1, defaultVerdictKey⟩ .twoSteps Duration.zero
      [.answer ⟨5⟩ (.error (.toolInvocation "down")), .answer ⟨0⟩ (.ok (.boolean true))] =
      (.reported _, _, _) := rfl
  obtain ⟨_, _, _, calls, _, _, _, _, plain, _, _, _, _, cut⟩ := execute_limit_only_cuts .prepared _ .prepared _
    alike ⟨1, defaultVerdictKey⟩ (by decide : 1 ≤ 2) .twoSteps Duration.zero
  rw [ran] at plain
  cases plain
  exact ⟨alike, _, _, _, calls, _, ran, rfl, cut _ rfl ⟨_, 1, rfl, rfl⟩⟩

end Engine

end PipelineTrial
