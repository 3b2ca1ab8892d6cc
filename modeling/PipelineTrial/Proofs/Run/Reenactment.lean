import PipelineTrial.Proofs.Duration
import PipelineTrial.Run.Recording

/-! A run depends on its collaborators only through what they reply, and not on when it starts. -/

namespace PipelineTrial

/-- Two runs stand at the same point; what goes on in them stays related. -/
inductive Progress.Matches {ρ τ : Type} (Alike : ρ → τ → Prop) : Progress ρ → Progress τ → Prop where
  | finished (result : PipelineResult) : Matches Alike (.finished result) (.finished result)
  | waiting {delay : Duration} {run : ρ} {other : τ} (alike : Alike run other) :
      Matches Alike (.waiting delay run) (.waiting delay other)
  | crashed : Matches Alike .crashed .crashed
  | stalled : Matches Alike .stalled .stalled

/-- The runs of a backend are reenacted on replies alone, at another time, and each uses up exactly its own replies. -/
structure Reenactment {σ ρ κ τ : Type} (backend : Backend σ ρ) (listener : Listener σ ρ κ)
    (script : Backend (List κ) τ) (Alike : Duration → Duration → ρ → τ → Prop) : Prop where
  start : ∀ definition began later world rest, ∃ progress,
    script.start definition later (listener.start definition began world ++ rest) = (progress, rest) ∧
      (backend.start definition began world).1.Matches (Alike began later) progress
  resume : ∀ began later elapsed run other world rest, Alike began later run other → ∃ progress,
    script.resume other (later + elapsed) (listener.resume run (began + elapsed) world ++ rest) =
        (progress, rest) ∧
      (backend.resume run (began + elapsed) world).1.Matches (Alike began later) progress

/-- A run is where its leg has brought it. -/
private theorem matches_leg {ρ : Type} (progress : Progress ρ) :
    progress.Matches (fun _ _ => True) progress.leg := by
  -- A leg differs at most in what goes on.
  cases progress with
  | finished result => exact .finished result
  | waiting delay run => exact .waiting trivial
  | crashed => exact .crashed
  | stalled => exact .stalled

/-- Any backend is reenacted by one that moves its runs on in the same way. -/
theorem Backend.reenactment {σ ρ : Type} (backend : Backend σ ρ) :
    Reenactment backend backend.listener Backend.prepared fun _ _ _ _ => True where
  start _ _ _ _ _ := ⟨_, rfl, matches_leg _⟩
  resume _ _ _ _ _ _ _ _ := ⟨_, rfl, matches_leg _⟩

namespace Engine

variable {σ : Type}

/-- A run of the local engine started at another time, and waits for the answer to a call made as long after its start. -/
def Pending.Shifted (began later : Duration) (pending other : Pending) : Prop :=
  -- All else is the same.
  ∃ asked, pending.started = began ∧ pending.asked = began + asked ∧
    other = { pending with started := later, asked := later + asked }

/-- A call is made with the same walk at another time, and answered from the record of its response. -/
theorem ask_reenacted (executor : Executor σ) (settings : EngineSettings) (definition : Definition)
    (graph : Graph) (began later elapsed : Duration) (left : Nat) (walk : Walk) (world : σ)
    (rest : List (Response (Except NodeError Json))) :
    ∃ progress,
      ask .prepared settings definition graph later (later + elapsed) left walk
          ((ask executor.recorded settings definition graph began (began + elapsed) left walk
            (world, [])).2.2.map (·.response) ++ rest) = (progress, rest) ∧
        (ask executor settings definition graph began (began + elapsed) left walk world).1.Matches
          (Pending.Shifted began later) progress := by
  -- At most one call is made, and the response to it decides.
  cases left with
  | zero => exact ⟨_, rfl, by simpa [ask] using Progress.Matches.finished _⟩
  | succ left =>
    cases prepared : walk.prepare graph with
    | error error =>
      refine ⟨.finished (walk.stop definition error elapsed), ?_, ?_⟩
      · simp [ask, prepared]
      · simpa [ask, prepared] using Progress.Matches.finished _
    | ok pair =>
      obtain ⟨node, inputs⟩ := pair
      cases responded : executor.respond node inputs (began + elapsed) world with
      | mk response next =>
        have recorded := Executor.respond_recorded responded []
        cases response with
        | silence =>
          refine ⟨.stalled, ?_, ?_⟩
          · simp [ask, prepared, recorded, Executor.prepared]
          · simpa [ask, prepared, responded] using Progress.Matches.stalled
        | crash delay =>
          refine ⟨.waiting delay
            ⟨definition, graph, later, walk, left, node, later + elapsed, none⟩, ?_, ?_⟩
          · simp [ask, prepared, recorded, Executor.prepared]
          · simp only [ask, prepared, responded]
            exact .waiting ⟨elapsed, rfl, rfl, rfl⟩
        | answer delay answer =>
          refine ⟨.waiting delay
            ⟨definition, graph, later, walk, left, node, later + elapsed, some answer⟩, ?_, ?_⟩
          · simp [ask, prepared, recorded, Executor.prepared]
          · simp only [ask, prepared, responded]
            exact .waiting ⟨elapsed, rfl, rfl, rfl⟩

/-- The local engine is reenacted by itself with prepared responses. -/
theorem reenactment (executor : Executor σ) (settings : EngineSettings) :
    Reenactment (backend executor settings) (listener executor settings)
      (backend .prepared settings) Pending.Shifted where
  start definition began later world rest := by
    -- A graph that builds is walked from its entry point.
    cases built : Graph.build definition with
    | error error =>
      refine ⟨.finished (.aborted definition.name (.graph error) Duration.zero), ?_, ?_⟩
      · simp [backend, listener, built]
      · simpa [backend, built] using Progress.Matches.finished _
    | ok graph =>
      have asked := ask_reenacted executor settings definition graph began later Duration.zero
        settings.maxSteps (Walk.start definition graph) world rest
      simpa [backend, listener, built] using asked
  resume began later elapsed run other world rest alike := by
    -- The awaited answer is received after the same time.
    obtain ⟨asked, rfl, called, rfl⟩ := alike
    cases awaited : run.answer with
    | none =>
      refine ⟨.crashed, ?_, ?_⟩
      · simp [backend, listener, awaited]
      · simpa [backend, awaited] using Progress.Matches.crashed
    | some answer =>
      have span : run.started + elapsed - run.asked = elapsed - asked := by simp [called]
      cases received : run.walk.receive run.node (elapsed - asked) answer with
      | stopped walk error =>
        refine ⟨.finished (walk.stop run.definition error elapsed), ?_, ?_⟩
        · simp [backend, listener, awaited, span, received]
        · simpa [backend, awaited, span, received] using Progress.Matches.finished _
      | arrived walk =>
        refine ⟨.finished (walk.arrive settings run.definition elapsed), ?_, ?_⟩
        · simp [backend, listener, awaited, span, received]
        · simpa [backend, awaited, span, received] using Progress.Matches.finished _
      | onward walk =>
        have following := ask_reenacted executor settings run.definition run.graph run.started later
          elapsed run.left walk world rest
        simpa [backend, listener, awaited, span, received] using following

end Engine

end PipelineTrial
