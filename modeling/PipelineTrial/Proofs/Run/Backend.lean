import PipelineTrial.Proofs.Duration
import PipelineTrial.Run.Engine

/-! The local engine as a backend, run alone, takes the walk that the engine takes in one go. -/

namespace PipelineTrial

/-- A run that ends within a bound on its waits ends in the same way within any larger bound. -/
theorem Backend.conclude_of_le {σ ρ : Type} {backend : Backend σ ρ} {bound larger : Nat}
    (within : bound ≤ larger) {progress : Progress ρ} {now : Duration} {world : σ}
    {ended : Ending × Duration × σ} (concluded : backend.conclude bound progress now world = some ended) :
    backend.conclude larger progress now world = some ended := by
  -- Each wait takes one off both bounds.
  induction bound generalizing larger progress now world with
  | zero =>
    cases progress with
    | waiting delay run => simp [conclude] at concluded
    | _ => simpa [conclude] using concluded
  | succ bound ih =>
    obtain ⟨larger, rfl⟩ : ∃ fewer, larger = fewer + 1 := ⟨larger - 1, by omega⟩
    cases progress with
    | waiting delay run =>
      simp only [conclude] at concluded ⊢
      exact ih (by omega) concluded
    | _ => simpa [conclude] using concluded

namespace Engine

variable {σ : Type}

/-- A walk ends as it does in one go when it waits for each answer. -/
theorem conclude_ask (executor : Executor σ) (settings : EngineSettings) (definition : Definition)
    (graph : Graph) (started : Duration) {left bound : Nat} (within : left ≤ bound) (walk : Walk)
    (now : Duration) (world : σ) :
    (backend executor settings).conclude bound
        (ask executor settings definition graph started now left walk world).1 now
        (ask executor settings definition graph started now left walk world).2 =
      some (walkAlone executor settings definition graph started left walk now world) := by
  -- Each step waits once, so the bound on waits shrinks with the steps that are left.
  induction left generalizing bound walk now world with
  | zero => cases bound <;> rfl
  | succ left ih =>
    obtain ⟨bound, rfl⟩ : ∃ fewer, bound = fewer + 1 := ⟨bound - 1, by omega⟩
    cases prepared : walk.prepare graph with
    | error error => simp [ask, walkAlone, prepared, Backend.conclude]
    | ok pair =>
      obtain ⟨node, inputs⟩ := pair
      cases responded : executor.respond node inputs now world with
      | mk response next =>
        cases response with
        | silence => simp [ask, walkAlone, prepared, responded, Backend.conclude]
        | crash delay =>
          simp [ask, walkAlone, prepared, responded, Backend.conclude, backend]
        | answer delay answer =>
          simp only [ask, walkAlone, prepared, responded, Backend.conclude]
          cases received : walk.receive node delay answer with
          | stopped walk error => simp [backend, received, Backend.conclude]
          | arrived walk => simp [backend, received, Backend.conclude]
          | onward walk =>
            have following := ih (by omega : left ≤ bound) walk (now + delay) next
            simpa [backend, received] using following

/-- The local engine run alone as a backend ends as the engine does, as no run waits more often than it takes steps. -/
theorem runAlone_eq_execute (executor : Executor σ) (settings : EngineSettings)
    (definition : Definition) {bound : Nat} (within : settings.maxSteps ≤ bound) (now : Duration)
    (world : σ) : (backend executor settings).runAlone bound definition now world =
      some (execute executor settings definition now world) := by
  -- A graph that does not build ends both at once.
  cases built : Graph.build definition with
  | error error => simp [Backend.runAlone, backend, execute, built, Backend.conclude]
  | ok graph =>
    have walked := conclude_ask executor settings definition graph now within
      (Walk.start definition graph) now world
    simpa [Backend.runAlone, backend, execute, built] using walked

end Engine

end PipelineTrial
