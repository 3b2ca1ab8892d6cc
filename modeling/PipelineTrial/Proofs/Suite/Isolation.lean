import PipelineTrial.Proofs.Remote.Reenactment
import PipelineTrial.Proofs.Run.Account
import PipelineTrial.Proofs.Suite.Bound
import PipelineTrial.Proofs.Suite.Reports
import PipelineTrial.Proofs.Suite.Unlimited

/-! The report of a case depends on the replies to its own run, and on nothing else that happens in its suite. -/

namespace PipelineTrial

/-- The ending of a case on the engine itself: a definition is executed as it is, a document is loaded first. -/
def Engine.executeCase {σ : Type} (executor : Executor σ) (settings : EngineSettings) (case : TestCase)
    (environment : Environment) (now : Duration) (world : σ) : Ending × Duration × σ :=
  -- A document that does not load is reported under the name of the case.
  match case.source with
  | .definition definition => execute executor settings definition now world
  | .document text => executeDocument executor settings case.name text environment now world

/-- The run of a case that nothing cuts short ends as the engine ends it. -/
theorem Engine.conclude_startCase {σ : Type} (executor : Executor σ) (settings : EngineSettings)
    (policy : SchedulePolicy) (case : TestCase) (environment : Environment) {bound : Nat}
    (within : settings.maxSteps ≤ bound) (now : Duration) (world : σ) :
    let started := SchedulePlan.startCase ⟨backend executor settings, environment, policy⟩ case now world
    (backend executor settings).conclude bound started.1 now started.2 =
      some (executeCase executor settings case environment now world) := by
  -- A document is loaded in the same way by both.
  obtain ⟨name, source⟩ := case
  cases source with
  | definition definition => exact runAlone_eq_execute executor settings definition within now world
  | document text =>
    cases loaded : loadPipeline text environment with
    | error error =>
      simp [SchedulePlan.startCase, CaseSource.load, executeCase, executeDocument, loaded, Backend.conclude]
    | ok definition =>
      have executed := runAlone_eq_execute executor settings definition within now world
      simp only [SchedulePlan.startCase, CaseSource.load, executeCase, executeDocument, loaded]
      exact executed

namespace Suite

variable {σ ρ κ τ : Type}

/-- A case at a place of a suite was started and has reported after moves in some order. -/
structure RunToReport (backend : Backend σ ρ) (config : SuiteConfig) (cases : List TestCase)
    (session : Session) (now : Duration) (world : σ) (moves : List Move) (ended : Schedule σ ρ)
    (place : Nat) (case : TestCase) (result : PipelineResult) : Prop where
  followed : (Schedule.ofCases config.policy cases now world).follow
    ⟨backend, session.environment, config.policy⟩ moves = some ended
  started : ⟨place, .start⟩ ∈ moves
  reported : ended.slots[place]? = some ⟨case, .reported result⟩

/-- What is replied to the run of the case at a place of a suite while the cases move in an order. -/
def repliesTo (listener : Listener σ ρ κ) (backend : Backend σ ρ) (config : SuiteConfig)
    (cases : List TestCase) (session : Session) (now : Duration) (world : σ) (moves : List Move)
    (place : Nat) : List κ :=
  -- The moves begin when all cases are in line.
  listener.overhear ⟨backend, session.environment, config.policy⟩ place moves
    (Schedule.ofCases config.policy cases now world)

/--
A suite of only one case, started at any time with the same limit, ends with a report as its only result.

It uses up the replies that it is given.
-/
def RunsAlone (script : Backend (List κ) τ) (config : SuiteConfig) (case : TestCase) (session : Session)
    (replies : List κ) (result : PipelineResult) : Prop :=
  -- Its other settings make no difference, nor does a large enough bound on its moves.
  ∀ lone : SuiteConfig, lone.timeoutSeconds = config.timeoutSeconds → ∀ later, ∃ enough, ∀ bound,
    enough ≤ bound → ∃ suite,
      run script lone bound [case] session later replies = some (suite, []) ∧ suite.results = [result]

variable {backend : Backend σ ρ} {config : SuiteConfig} {cases : List TestCase} {session : Session}
  {now : Duration} {world : σ} {moves : List Move} {ended : Schedule σ ρ} {place : Nat}
  {case : TestCase} {result : PipelineResult}

/-- A case that was reported is the one at its place. -/
theorem RunToReport.named
    (ran : RunToReport backend config cases session now world moves ended place case result) :
    cases[place]? = some case := by
  -- Cases do not change their places.
  have handed := (handedOver_ofCases config.policy cases now world).follow ran.followed
  rw [← handed.cases, List.getElem?_map, ran.reported]
  rfl

/-- A schedule of a case that was run to a report elsewhere ends with the same report alone. -/
theorem RunToReport.finish_alone {listener : Listener σ ρ κ} {script : Backend (List κ) τ}
    {Alike : Duration → Duration → ρ → τ → Prop}
    (reenactment : Reenactment backend listener script Alike)
    (ran : RunToReport backend config cases session now world moves ended place case result)
    {lone : SuiteConfig} (sameLimit : lone.timeoutSeconds = config.timeoutSeconds) (later : Duration) :
    ∃ own enough, own.slots = [⟨case, .reported result⟩] ∧ own.world = [] ∧
      ∀ bound, enough ≤ bound →
        (Schedule.ofCases lone.policy [case] later
          (repliesTo listener backend config cases session now world moves place)).finish
          ⟨script, session.environment, lone.policy⟩ bound = some own := by
  -- The case is mirrored from the time when it is in line, where a slot is free for it alone.
  have counterpart : Counterpart ⟨backend, session.environment, config.policy⟩ listener
      ⟨script, session.environment, lone.policy⟩ Alike :=
    ⟨reenactment, rfl, by simp only [SuiteConfig.policy, SuiteConfig.timeout, sameLimit]⟩
  have found : (Schedule.ofCases config.policy cases now world : Schedule σ ρ).slots[place]? =
      some ⟨case, .queued⟩ := by
    simp [Schedule.ofCases, ran.named]
  have room : 0 < lone.policy.slots := by
    simp only [SuiteConfig.policy, SuiteConfig.effectiveConcurrency]
    omega
  have mirrors : Mirrors Alike case (.queued : CaseStage ρ)
      (repliesTo listener backend config cases session now world moves place ++ [])
      (Schedule.ofCases lone.policy [case] later
        (repliesTo listener backend config cases session now world moves place)) :=
    ⟨⟨.queued, rfl, .queued⟩, fun _ => room, fun _ => rfl, (List.append_nil _).symm⟩
  obtain ⟨final, own, used, foundFinal, mirrored, finish⟩ :=
    mirrors.follow counterpart ran.followed found fun _ => ran.started
  rw [ran.reported] at foundFinal
  cases foundFinal
  obtain ⟨stage, single, same⟩ := mirrored.slots
  cases same
  refine ⟨own, used, single, mirrored.world, fun bound enough => ?_⟩
  have allOver : own.isOver = true := by simp [Schedule.isOver, single, CaseStage.isOver]
  have finished := finish (bound - used)
  rwa [Nat.add_sub_cancel' enough, Schedule.finish_of_isOver allOver] at finished

/-- A case that was run to a report in a suite is reported alike by a backend that reenacts its run alone. -/
theorem RunToReport.runsAlone {listener : Listener σ ρ κ} {script : Backend (List κ) τ}
    {Alike : Duration → Duration → ρ → τ → Prop}
    (reenactment : Reenactment backend listener script Alike)
    (ran : RunToReport backend config cases session now world moves ended place case result) :
    RunsAlone script config case session
      (repliesTo listener backend config cases session now world moves place) result := by
  -- The result of the suite has one entry, which is the report of its case.
  intro lone sameLimit later
  obtain ⟨own, enough, single, used_up, finish⟩ := ran.finish_alone reenactment sameLimit later
  refine ⟨enough, fun bound large => ?_⟩
  have allOver : own.isOver = true := by simp [Schedule.isOver, single, CaseStage.isOver]
  obtain ⟨_, own_moves, followed, _⟩ := Schedule.follow_of_finish (finish bound large)
  have completed : Completed script lone [case] session later _ own_moves own := ⟨followed, allOver⟩
  refine ⟨(conclude [case] session later own).1, ?_, ?_⟩
  · rw [run, finish bound large, ← used_up]
    rfl
  · have entry : (conclude [case] session later own).1.results[0]? = some result :=
      completed.entry (by rw [single]; rfl)
    obtain ⟨only, alone⟩ := List.length_eq_one_iff.1 completed.gathered.length
    rw [alone] at entry ⊢
    cases entry
    rfl

/-- A case alone on the local engine runs within the bound of its suite. -/
theorem RunsAlone.runLocal {settings : EngineSettings}
    {replies : List (Response (Except NodeError Json))}
    (alone : RunsAlone (Engine.backend .prepared settings) config case session replies result)
    {lone : SuiteConfig} (sameLimit : lone.timeoutSeconds = config.timeoutSeconds) (later : Duration) :
    ∃ suite, Suite.runLocal .prepared settings lone [case] session later replies = some (suite, []) ∧
      suite.results = [result] := by
  -- Any bound that is large enough can be lowered to its own.
  obtain ⟨enough, within⟩ := alone lone sameLimit later
  obtain ⟨suite, ran, results⟩ := within enough (Nat.le_refl _)
  exact ⟨suite, runLocal_of_run ran, results⟩

/-- Without a limit a case is reported alike by the local engine itself, to which its pipeline is handed. -/
theorem RunToReport.executeCase {executor : Executor σ} {settings : EngineSettings}
    {ended : Schedule σ Engine.Pending}
    (ran : RunToReport (Engine.backend executor settings) config cases session now world moves ended
      place case result)
    (unlimited : config.timeoutSeconds = none) (later : Duration) :
    ∃ finished, Engine.executeCase .prepared settings case session.environment later
      (repliesTo (Engine.listener executor settings) (Engine.backend executor settings) config cases
        session now world moves place) = (.reported result, finished, []) := by
  -- The suite of the case alone promises what the backend concludes, which is what the engine does.
  obtain ⟨own, enough, single, used_up, finish⟩ :=
    ran.finish_alone (Engine.reenactment executor settings) rfl later
  obtain ⟨_, own_moves, followed, _⟩ := Schedule.follow_of_finish (finish enough (Nat.le_refl _))
  have noLimit : config.policy.limit = none := by
    simp [SuiteConfig.policy, SuiteConfig.timeout, unlimited]
  have promised := Schedule.promises_of_follow noLimit followed rfl (fun _ => rfl) single
  rw [used_up] at promised
  obtain ⟨bound, finished, concluded⟩ := promised
  have larger := Backend.conclude_of_le (Nat.le_max_left bound settings.maxSteps) concluded
  have engine := Engine.conclude_startCase .prepared settings config.policy case session.environment
    (Nat.le_max_right bound settings.maxSteps) later
    (repliesTo (Engine.listener executor settings) (Engine.backend executor settings) config cases
      session now world moves place)
  exact ⟨finished, Option.some.inj (engine.symm.trans larger)⟩

/-- A suite of one case has one result for the same replies and the same limit. -/
theorem RunsAlone.unique {script : Backend (List κ) τ} {replies : List κ} {configOther : SuiteConfig}
    {other : PipelineResult} (alone : RunsAlone script config case session replies result)
    (sameLimit : config.timeoutSeconds = configOther.timeoutSeconds)
    (aloneOther : RunsAlone script configOther case session replies other) : result = other := by
  -- Both are the result of the same run.
  obtain ⟨enough, within⟩ := alone config rfl Duration.zero
  obtain ⟨enoughOther, withinOther⟩ := aloneOther config sameLimit Duration.zero
  obtain ⟨suite, ran, results⟩ := within (max enough enoughOther) (Nat.le_max_left _ _)
  obtain ⟨suiteOther, ranOther, resultsOther⟩ :=
    withinOther (max enough enoughOther) (Nat.le_max_right _ _)
  rw [ran] at ranOther
  cases ranOther
  rw [results] at resultsOther
  cases resultsOther
  rfl

/-- Two suites with the same limit report a case alike when the replies to its run are the same in both. -/
theorem RunToReport.agree {υ φ : Type} {listener : Listener σ ρ κ} {script : Backend (List κ) τ}
    {Alike : Duration → Duration → ρ → τ → Prop} (reenactment : Reenactment backend listener script Alike)
    (ran : RunToReport backend config cases session now world moves ended place case result)
    {other : Backend υ φ} {listenerOther : Listener υ φ κ} {AlikeOther : Duration → Duration → φ → τ → Prop}
    (reenactmentOther : Reenactment other listenerOther script AlikeOther) {configOther : SuiteConfig}
    {casesOther : List TestCase} {nowOther : Duration} {worldOther : υ} {movesOther : List Move}
    {endedOther : Schedule υ φ} {placeOther : Nat} {resultOther : PipelineResult}
    (ranOther : RunToReport other configOther casesOther session nowOther worldOther movesOther
      endedOther placeOther case resultOther)
    (sameLimit : configOther.timeoutSeconds = config.timeoutSeconds)
    (sameReplies : repliesTo listenerOther other configOther casesOther session nowOther worldOther
        movesOther placeOther =
      repliesTo listener backend config cases session now world moves place) :
    resultOther = result := by
  -- Both are reported as the case is alone on the replies.
  have aloneOther := ranOther.runsAlone reenactmentOther
  rw [sameReplies] at aloneOther
  exact aloneOther.unique sameLimit (ran.runsAlone reenactment)

/--
In whatever order the cases of a suite move, a case that is run to a report is reported as it is alone on the same
replies.

Any backend reports it so when it moves the run on in the same way, the local engine with the same responses of its
executor, and polling with the same replies of a platform. Without a limit the engine itself does, to which the pipeline
is handed.
-/
theorem report_isolated (config : SuiteConfig) (cases : List TestCase) (session : Session)
    (now : Duration) (moves : List Move) (place : Nat) (case : TestCase) (result : PipelineResult) :
    (∀ (σ ρ : Type) (backend : Backend σ ρ) (world : σ) (ended : Schedule σ ρ),
      RunToReport backend config cases session now world moves ended place case result →
        (ended.isOver = true →
          (conclude cases session now ended).1.results[place]? = some result) ∧
        RunsAlone .prepared config case session
          (repliesTo backend.listener backend config cases session now world moves place) result) ∧
    (∀ (σ : Type) (executor : Executor σ) (settings : EngineSettings) (world : σ)
        (ended : Schedule σ Engine.Pending),
      RunToReport (Engine.backend executor settings) config cases session now world moves ended place
          case result →
        let replies := repliesTo (Engine.listener executor settings) (Engine.backend executor settings)
          config cases session now world moves place
        (∀ lone : SuiteConfig, lone.timeoutSeconds = config.timeoutSeconds → ∀ later, ∃ suite,
          Suite.runLocal .prepared settings lone [case] session later replies = some (suite, []) ∧
            suite.results = [result]) ∧
        (config.timeoutSeconds = none → ∀ later, ∃ finished,
          Engine.executeCase .prepared settings case session.environment later replies =
            (.reported result, finished, []))) ∧
    (∀ (σ : Type) (platform : Platform σ) (patience : Patience) (verdictKey : String) (world : σ)
        (ended : Schedule σ RemoteRun),
      RunToReport (Polling.backend platform patience verdictKey session.id) config cases session now
          world moves ended place case result →
        RunsAlone (Polling.backend .prepared patience verdictKey session.id) config case session
          (repliesTo (Polling.listener platform patience verdictKey session.id)
            (Polling.backend platform patience verdictKey session.id) config cases session now world
            moves place) result) := by
  -- Each kind of backend is reenacted on the replies to its runs.
  refine ⟨?_, ?_, ?_⟩
  · intro σ ρ backend world ended ran
    refine ⟨fun allOver => ?_, ran.runsAlone backend.reenactment⟩
    exact Completed.entry ⟨ran.followed, allOver⟩ ran.reported
  · intro σ executor settings world ended ran replies
    have alone := ran.runsAlone (Engine.reenactment executor settings)
    exact ⟨fun lone sameLimit later => alone.runLocal sameLimit later,
      fun unlimited later => ran.executeCase unlimited later⟩
  · intro σ platform patience verdictKey world ended ran
    exact ran.runsAlone (Polling.reenactment platform patience verdictKey session.id)

/-- The same pipeline twice, on collaborators shared by both. -/
def twins : List TestCase := [.ofDefinition .twoSteps, .ofDefinition .twoSteps]

/-- Responses to the calls of both runs, in the order in which they are made. -/
def twinResponses : List (Response (Except NodeError Json)) :=
  -- Only the second run has what it needs.
  [.answer ⟨5⟩ (.error (.toolInvocation "down")), .answer ⟨3⟩ (.ok (.text "up")),
    .answer ⟨0⟩ (.ok (.boolean true)), .answer ⟨0⟩ (.ok (.boolean false))]

/-- An order in which the second run ends while the first still waits. -/
def twinMoves : List Move :=
  -- Both hold a slot at once.
  [⟨0, .enter⟩, ⟨1, .enter⟩, ⟨0, .check⟩, ⟨1, .check⟩, ⟨0, .start⟩, ⟨1, .start⟩, ⟨1, .wake⟩,
    ⟨1, .wake⟩, ⟨1, .announce⟩, ⟨1, .leave⟩, ⟨0, .wake⟩, ⟨0, .wake⟩, ⟨0, .announce⟩, ⟨0, .leave⟩]

/-- Two cases at a time, without a limit. -/
def twinConfig : SuiteConfig := ⟨2, none, false, .default, none⟩

/-- The first of the two runs is reported as the engine reports it for the first and the last response. -/
theorem report_isolated_twins :
    ∃ ended result,
      RunToReport (Engine.backend .prepared .default) twinConfig twins ⟨"session", Dictionary.empty⟩
          Duration.zero twinResponses twinMoves ended 0 (.ofDefinition .twoSteps) result ∧
        ∀ later, ∃ finished, Engine.executeCase .prepared .default (.ofDefinition .twoSteps)
          Dictionary.empty later
            [.answer ⟨5⟩ (.error (.toolInvocation "down")), .answer ⟨0⟩ (.ok (.boolean false))] =
          (.reported result, finished, []) := by
  -- The order is possible, and the suite has no limit.
  have ran : RunToReport (Engine.backend .prepared .default) twinConfig twins
      ⟨"session", Dictionary.empty⟩ Duration.zero twinResponses twinMoves _ 0
      (.ofDefinition .twoSteps) _ := ⟨rfl, by decide, rfl⟩
  have heard : repliesTo (Engine.listener .prepared .default) (Engine.backend .prepared .default)
      twinConfig twins ⟨"session", Dictionary.empty⟩ Duration.zero twinResponses twinMoves 0 =
      [.answer ⟨5⟩ (.error (.toolInvocation "down")), .answer ⟨0⟩ (.ok (.boolean false))] := rfl
  have executed := ((report_isolated twinConfig twins ⟨"session", Dictionary.empty⟩ Duration.zero
    twinMoves 0 (.ofDefinition .twoSteps) _).2.1 _ _ _ _ _ ran).2 rfl
  rw [heard] at executed
  exact ⟨_, _, ran, executed⟩

end Suite

end PipelineTrial
