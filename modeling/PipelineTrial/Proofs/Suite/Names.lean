import PipelineTrial.Proofs.Duration
import PipelineTrial.Proofs.Pipeline.Substitution
import PipelineTrial.Proofs.Run.Names
import PipelineTrial.Proofs.Suite.Reports

/-! A case is reported under the name of its pipeline once that is loaded, unless it dies or the suite cuts it short. -/

namespace PipelineTrial

variable {σ ρ : Type}

/-- How a case comes by what is reported of it, and under which name. -/
inductive TestCase.ReportedAs (environment : Environment) (policy : SchedulePolicy) (case : TestCase)
    (started : Prop) : PipelineResult → Prop where
  | skipped (passedOver : ¬started) : ReportedAs environment policy case started (.skipped case.name)
  | unloaded {error : PipelineError} (begun : started) (failed : case.source.load environment = .error error) :
    ReportedAs environment policy case started (.aborted case.name error Duration.zero)
  /-- The run of its pipeline ended by itself. -/
  | ran {definition : Definition} {result : PipelineResult} (begun : started)
    (loaded : case.source.load environment = .ok definition) (named : result.name = definition.name) :
    ReportedAs environment policy case started result
  | died {definition : Definition} (begun : started) (loaded : case.source.load environment = .ok definition) :
    ReportedAs environment policy case started case.deadResult
  /-- The run of its pipeline outlasted the limit of the suite. -/
  | cut {definition : Definition} {limit elapsed : Duration} (begun : started)
    (loaded : case.source.load environment = .ok definition) (limited : policy.limit = some limit)
    (late : limit ≤ elapsed) : ReportedAs environment policy case started (case.timeoutResult limit elapsed)

namespace CaseStage

/-- What is known of a case at a stage about the names in it. -/
def Named (nameOf : ρ → String) (environment : Environment) (policy : SchedulePolicy) (case : TestCase)
    (started : Prop) : CaseStage ρ → Prop
  -- A run that waits remembers the name of its pipeline.
  | .queued | .admitted | .cleared => ¬started
  | .active _ wait => started ∧ ∃ definition, case.source.load environment = .ok definition ∧
    ∀ due run, wait = some (due, run) → nameOf run = definition.name
  | .returned result | .leaving result | .reported result =>
    case.ReportedAs environment policy started result
  | .dead => started ∧ ∃ definition, case.source.load environment = .ok definition

end CaseStage

variable {nameOf : ρ → String} {environment : Environment} {policy : SchedulePolicy} {case : TestCase}
  {started : Prop} {definition : Definition}

/-- A run that moves on leaves its case at a stage with the right names. -/
theorem SchedulePolicy.named_settle (begun : started) (loaded : case.source.load environment = .ok definition)
    {progress : Progress ρ} (named : progress.Named nameOf definition.name) (began now : Duration) :
    (policy.settle case began now progress).Named nameOf environment policy case started := by
  -- It has ended by itself, waits on, or its time is up.
  have paused (wait : Option (Duration × ρ))
      (remembers : ∀ due run, wait = some (due, run) → nameOf run = definition.name) :
      (policy.pause case began now wait).Named nameOf environment policy case started := by
    unfold pause
    split
    · exact ⟨begun, definition, loaded, remembers⟩
    · next limit limited =>
      split
      · next late =>
        refine .cut begun loaded limited ?_
        simp only [Duration.le_iff, Duration.nanoseconds_add, Duration.nanoseconds_sub] at late ⊢
        omega
      · exact ⟨begun, definition, loaded, remembers⟩
  have waits {due : Duration} {run : ρ} (named : nameOf run = definition.name) :
      ∀ time own, some (due, run) = some (time, own) → nameOf own = definition.name := by
    rintro _ _ ⟨⟩
    exact named
  cases progress with
  | finished result => exact .ran begun loaded named
  | crashed => exact ⟨begun, definition, loaded⟩
  | stalled => exact paused none (by rintro _ _ ⟨⟩)
  | waiting delay run =>
    simp only [settle]
    split
    · exact ⟨begun, definition, loaded, waits named⟩
    · exact paused _ (waits named)

namespace Schedule

variable {plan : SchedulePlan σ ρ} {schedule ended : Schedule σ ρ} {moves : List Move} {cases : List TestCase}
  {now : Duration} {world : σ} {place : Nat} {stage : CaseStage ρ}

/-- A case that starts is left at a stage with the right names, whether or not its pipeline loads. -/
theorem named_of_start (keeps : plan.backend.KeepsNames nameOf) (begun : started) {progress : Progress ρ} {next : σ}
    (start : plan.startCase case now world = (progress, next)) (began : Duration) :
    (plan.policy.settle case began now progress).Named nameOf plan.environment plan.policy case started := by
  -- A pipeline that does not load ends the case at once.
  unfold SchedulePlan.startCase at start
  split at start
  · next failed =>
    cases start
    exact .unloaded begun failed
  · next definition loaded =>
    have named := keeps.start definition now world
    rw [start] at named
    exact SchedulePolicy.named_settle begun loaded named began now

/-- A move leads a case from a stage with the right names to another, when a start is known of from then on. -/
theorem named_of_leads (keeps : plan.backend.KeepsNames nameOf) {act : Act} {next : CaseStage ρ}
    (leads : Leads plan schedule case stage act next)
    (before : stage.Named nameOf plan.environment plan.policy case started) :
    next.Named nameOf plan.environment plan.policy case (started ∨ act = .start) := by
  -- Only a start changes what is known of starts.
  have same (other : act ≠ .start) : (started ∨ act = .start) = started := by simp [other]
  cases leads with
  | start start => exact named_of_start keeps (.inr rfl) start _
  | enter => simpa only [CaseStage.Named, same Act.noConfusion] using before
  | skip halted =>
    rw [same Act.noConfusion]
    exact .skipped before
  | clear unhalted => simpa only [CaseStage.Named, same Act.noConfusion] using before
  | @wake began due run progress world inTime resumed =>
    rw [same Act.noConfusion]
    obtain ⟨begun, definition, loaded, remembers⟩ := before
    have named := keeps.resume run due schedule.world
    rw [resumed, remembers due run rfl] at named
    exact SchedulePolicy.named_settle begun loaded named began due
  | expire limited =>
    rw [same Act.noConfusion]
    obtain ⟨begun, definition, loaded, _⟩ := before
    exact .cut begun loaded limited (Nat.le_refl _)
  | announce =>
    rw [same Act.noConfusion]
    exact before
  | leave =>
    rw [same Act.noConfusion]
    exact before

/-- Moves in any order leave every case at a stage with the right names. -/
theorem named_of_follow (keeps : plan.backend.KeepsNames nameOf)
    (followed : (ofCases plan.policy cases now world).follow plan moves = some ended)
    (found : ended.slots[place]? = some ⟨case, stage⟩) :
    stage.Named nameOf plan.environment plan.policy case (⟨place, .start⟩ ∈ moves) := by
  -- All cases are in line at first; a move leads one of them on and leaves the others where they are.
  refine follow_induction (fun past middle => ∀ place case stage, middle.slots[place]? = some ⟨case, stage⟩ →
    stage.Named nameOf plan.environment plan.policy case (⟨place, .start⟩ ∈ past)) ?_ ?_ followed place case
    stage found
  · intro place case stage found
    rw [queued_of_ofCases found]
    exact List.not_mem_nil
  · rintro past middle ⟨own, act⟩ _ named permitted place case stage found
    obtain ⟨elsewhere, standing⟩ | ⟨rfl, before, standing, leads⟩ := slot_of_apply permitted found
    · have known : (⟨place, .start⟩ ∈ past ++ [⟨own, act⟩]) = (⟨place, .start⟩ ∈ past) := by
        simp [Ne.symm elsewhere]
      rw [known]
      exact named place case stage standing
    · have known : (⟨own, .start⟩ ∈ past ++ [⟨own, act⟩]) = (⟨own, .start⟩ ∈ past ∨ act = .start) := by
        simp [eq_comm]
      rw [known]
      exact named_of_leads keeps leads (named own case before standing)

end Schedule

namespace Suite

variable {backend : Backend σ ρ} {config : SuiteConfig} {cases : List TestCase} {session : Session}
  {now : Duration} {world : σ} {moves : List Move} {ended : Schedule σ ρ}

/-- Each case of a suite is reported at its place as it came by its report. -/
def Reports (config : SuiteConfig) (cases : List TestCase) (session : Session) (moves : List Move)
    (suite : SuiteResult) : Prop :=
  -- A case was started if a move started it.
  ∀ (place : Nat) (case : TestCase), cases[place]? = some case → ∃ result, suite.results[place]? = some result ∧
    case.ReportedAs session.environment config.policy (⟨place, .start⟩ ∈ moves) result

/-- On a backend that keeps names each case is reported as it came by its report. -/
theorem Completed.reports (completed : Completed backend config cases session now world moves ended)
    (keeps : backend.KeepsNames nameOf) :
    Reports config cases session moves (conclude cases session now ended).1 := by
  -- The entry of a case is what was reported of it, or tells that its task died.
  intro place case named
  obtain ⟨stage, result, found, gathered, told⟩ :=
    completed.getElem?_gatherReports (List.Perm.refl _) place case named
  have known := Schedule.named_of_follow keeps completed.followed found
  refine ⟨result, gathered, ?_⟩
  obtain rfl | ⟨rfl, rfl⟩ := told
  · exact known
  · obtain ⟨begun, definition, loaded⟩ := known
    exact .died begun loaded

/--
On either backend, and in whatever order the cases of a suite move, a case whose pipeline was loaded is reported under
the name of the pipeline, unless its task died or the limit of the suite cut it short.

Those cases, and the cases that were skipped or not loaded, are reported under the name of the case.
-/
theorem reports_names (config : SuiteConfig) (cases : List TestCase) (session : Session) (now : Duration)
    (moves : List Move) :
    (∀ (σ : Type) (executor : Executor σ) (settings : EngineSettings) (world : σ) ended,
      Completed (Engine.backend executor settings) config cases session now world moves ended →
        Reports config cases session moves (conclude cases session now ended).1) ∧
    (∀ (σ : Type) (platform : Platform σ) (patience : Patience) (verdictKey : String) (world : σ) ended,
      Completed (Polling.backend platform patience verdictKey session.id) config cases session now world moves
        ended → Reports config cases session moves (conclude cases session now ended).1) := by
  -- Both backends keep names.
  refine ⟨fun σ executor settings world ended completed => ?_,
    fun σ platform patience verdictKey world ended completed => ?_⟩
  · exact completed.reports (Engine.backend_keepsNames executor settings)
  · exact completed.reports (Polling.backend_keepsNames platform patience verdictKey session.id)

/-- A case whose document has another name for its pipeline. -/
def stemCase : TestCase := .ofDocument "stem" codeDocument

/-- One case at a time, for one second each. -/
def stemConfig : SuiteConfig := ⟨1, some 1, false, .default, none⟩

/-- A session without variables. -/
def stemSession : Session := ⟨"session", Dictionary.empty⟩

/-- The moves of a single case that ends in a given way. -/
def stemMoves (ends : Act) : List Move :=
  -- Nothing else happens between its start and its end.
  [.enter, .check, .start, ends, .announce, .leave].map (Move.mk 0)

/-- The single case goes on from its start as its pipeline does, which has been loaded by then. -/
theorem follow_stemMoves {progress : Progress ρ} {next : σ} (ends : Act)
    (started : backend.start codeDefinition Duration.zero world = (progress, next)) :
    (Schedule.ofCases stemConfig.policy [stemCase] Duration.zero world).follow
        ⟨backend, stemSession.environment, stemConfig.policy⟩ (stemMoves ends) =
      (Schedule.settle stemConfig.policy ⟨Duration.zero, [⟨stemCase, .cleared⟩], 0, false, [], next⟩ 0 stemCase
        Duration.zero progress).follow ⟨backend, stemSession.environment, stemConfig.policy⟩
          ([ends, .announce, .leave].map (Move.mk 0)) := by
  -- The case takes the only slot and is not halted.
  have cleared : (Schedule.ofCases stemConfig.policy [stemCase] Duration.zero world).follow
      ⟨backend, stemSession.environment, stemConfig.policy⟩ [⟨0, .enter⟩, ⟨0, .check⟩] =
        some ⟨Duration.zero, [⟨stemCase, .cleared⟩], 0, false, [], world⟩ := rfl
  have loads : stemCase.source.load stemSession.environment = .ok codeDefinition := loadPipeline_codeDocument
  have split : stemMoves ends =
      [⟨0, .enter⟩, ⟨0, .check⟩] ++ ⟨0, .start⟩ :: [ends, .announce, .leave].map (Move.mk 0) := rfl
  rw [split, Schedule.follow_append, cleared, Option.bind_some, Schedule.follow]
  simp only [Schedule.apply, List.getElem?_cons_zero, SchedulePlan.startCase, loads, started]
  rfl

/-- A case that runs on the engine or on a platform out of reach is reported as it came by its report. -/
theorem reports_names_stem :
    (∃ ended, Completed (Engine.backend .prepared .default) stemConfig [stemCase] stemSession Duration.zero
        [.answer ⟨5⟩ (.ok .null)] (stemMoves .wake) ended ∧
      Reports stemConfig [stemCase] stemSession (stemMoves .wake)
        (conclude [stemCase] stemSession Duration.zero ended).1) ∧
    ∃ ended, Completed (Polling.backend (Platform.unreachable "") .default "ok" stemSession.id) stemConfig
        [stemCase] stemSession Duration.zero () (stemMoves .wake) ended ∧
      Reports stemConfig [stemCase] stemSession (stemMoves .wake)
        (conclude [stemCase] stemSession Duration.zero ended).1 := by
  -- The moves are possible with what the collaborators answer.
  obtain ⟨locally, remotely⟩ :=
    reports_names stemConfig [stemCase] stemSession Duration.zero (stemMoves .wake)
  have here : Completed (Engine.backend .prepared .default) stemConfig [stemCase] stemSession Duration.zero
      [.answer ⟨5⟩ (.ok .null)] (stemMoves .wake) _ := ⟨(follow_stemMoves .wake rfl).trans rfl, rfl⟩
  have there : Completed (Polling.backend (Platform.unreachable "") .default "ok" stemSession.id) stemConfig
      [stemCase] stemSession Duration.zero () (stemMoves .wake) _ :=
    ⟨(follow_stemMoves .wake rfl).trans rfl, rfl⟩
  exact ⟨⟨_, here, locally _ _ _ _ _ here⟩, _, there, remotely _ _ _ _ _ _ there⟩

/-- A case that is started, and whose document is loaded, is reported under its own name when its time is up. -/
theorem case_name_after_load :
    ∃ ended result, Completed (Engine.backend .prepared .default) stemConfig [stemCase] stemSession Duration.zero
        [] (stemMoves .expire) ended ∧
      ⟨0, .start⟩ ∈ stemMoves .expire ∧
      loadPipeline codeDocument stemSession.environment = .ok codeDefinition ∧
      (conclude [stemCase] stemSession Duration.zero ended).1.results[0]? = some result ∧
      result.error = some (.timeout (.ofSeconds 1)) ∧ result.name = "stem" ∧
      result.name ≠ codeDefinition.name := by
  -- Its only node never answers.
  have ended : Completed (Engine.backend .prepared .default) stemConfig [stemCase] stemSession Duration.zero []
      (stemMoves .expire) _ := ⟨(follow_stemMoves .expire rfl).trans rfl, rfl⟩
  exact ⟨_, _, ended, by decide, loadPipeline_codeDocument, rfl, rfl, rfl, by decide⟩

end Suite

end PipelineTrial
