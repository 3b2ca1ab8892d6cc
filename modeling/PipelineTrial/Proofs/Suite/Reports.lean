import PipelineTrial.Proofs.Suite.Interleaving
import PipelineTrial.Suite.Run

/-! Whatever the order in which cases move, a suite reports every case once, in case order, and counts it once. -/

namespace PipelineTrial

section Gathering

variable {latest : List (Nat × PipelineResult)} {place : Nat}

/-- Putting reports in their places keeps the number of places. -/
private theorem length_filled (initial : List (Option PipelineResult)) :
    (latest.foldr (fun (place, result) slots => slots.set place (some result)) initial).length =
      initial.length := by
  -- Each report goes to a place that is there already.
  induction latest with
  | nil => rfl
  | cons pair rest ih => simpa using ih

/-- A place to which one report belongs holds it, whenever it arrived. -/
private theorem filled_of_mem (initial : List (Option PipelineResult)) (inside : place < initial.length)
    {result : PipelineResult} (arrived : (place, result) ∈ latest)
    (only : ∀ other, (place, other) ∈ latest → other = result) :
    (latest.foldr (fun (place, result) slots => slots.set place (some result)) initial)[place]? =
      some (some result) := by
  -- A later report for the same place would be the same.
  induction latest with
  | nil => cases arrived
  | cons pair rest ih =>
    obtain ⟨first, told⟩ := pair
    by_cases same : first = place
    · subst same
      have equal := only told List.mem_cons_self
      simp [equal, length_filled, inside]
    · have earlier : (place, result) ∈ rest := by simpa [Ne.symm same] using arrived
      simpa [List.getElem?_set, same] using
        ih earlier fun other member => only other (List.mem_cons_of_mem _ member)

/-- A place to which no report belongs stays empty. -/
private theorem filled_of_not_mem (initial : List (Option PipelineResult))
    (none_arrived : ∀ result, (place, result) ∉ latest) :
    (latest.foldr (fun (place, result) slots => slots.set place (some result)) initial)[place]? =
      initial[place]? := by
  -- All reports go to other places.
  induction latest with
  | nil => rfl
  | cons pair rest ih =>
    obtain ⟨first, told⟩ := pair
    have other : first ≠ place := by
      rintro rfl
      exact none_arrived told List.mem_cons_self
    simpa [List.getElem?_set, other] using
      ih fun result member => none_arrived result (List.mem_cons_of_mem _ member)

variable {cases : List TestCase} {case : TestCase}

/-- As many reports are gathered as there are cases. -/
@[simp] theorem length_gatherReports : (gatherReports cases latest).length = cases.length := by
  -- There is one place for each case.
  simp [gatherReports, length_filled]

/-- The only report for a case is gathered at its place. -/
theorem gatherReports_of_mem (named : cases[place]? = some case) {result : PipelineResult}
    (arrived : (place, result) ∈ latest) (only : ∀ other, (place, other) ∈ latest → other = result) :
    (gatherReports cases latest)[place]? = some result := by
  -- The report has been put in its place.
  obtain ⟨inside, _⟩ := List.getElem?_eq_some_iff.1 named
  have filled := filled_of_mem (cases.map fun _ => none) (by simpa using inside) arrived only
  simp only [gatherReports, List.getElem?_zipWith, filled, named, Option.getD_some]

/-- A case without a report counts as dead. -/
theorem gatherReports_of_not_mem (named : cases[place]? = some case)
    (none_arrived : ∀ result, (place, result) ∉ latest) :
    (gatherReports cases latest)[place]? = some case.deadResult := by
  -- Its place has stayed empty.
  have empty := filled_of_not_mem (cases.map fun _ => none) none_arrived
  simp only [gatherReports, List.getElem?_zipWith, empty, List.getElem?_map, named, Option.map_some,
    Option.getD_none]

end Gathering

section Handing

variable {σ ρ : Type} {plan : SchedulePlan σ ρ} {cases : List TestCase} {schedule ended : Schedule σ ρ}

/-- The reports handed over are those of the cases that were reported, each at its own place. -/
structure HandedOver (cases : List TestCase) (schedule : Schedule σ ρ) : Prop where
  cases : schedule.slots.map (·.case) = cases
  handed : ∀ place result, (place, result) ∈ schedule.latest ↔
    ∃ case, schedule.slots[place]? = some ⟨case, .reported result⟩

/-- Nothing has been handed over while all cases are in line. -/
theorem handedOver_ofCases (policy : SchedulePolicy) (cases : List TestCase) (now : Duration) (world : σ) :
    HandedOver cases (Schedule.ofCases policy cases now world : Schedule σ ρ) := by
  -- No case was reported.
  refine ⟨by simp [Schedule.ofCases, Function.comp_def], fun place result => ?_⟩
  simp [Schedule.ofCases]

/-- A move hands over at most one report, that of the case that moves. -/
theorem HandedOver.apply {move : Move} (before : HandedOver cases schedule)
    (permitted : schedule.permits plan.policy move) : HandedOver cases (schedule.apply plan move) := by
  -- The other cases keep their stages, and a case that moves was not reported before.
  obtain ⟨case, stage, found, moved⟩ := Schedule.moved_of_permits permitted
  obtain ⟨inside, at_place⟩ := List.getElem?_eq_some_iff.1 found
  have fresh : ∀ result, (move.place, result) ∉ schedule.latest := by
    intro result member
    obtain ⟨_, reported⟩ := (before.handed move.place result).1 member
    rw [found] at reported
    cases reported
    obtain ⟨_, _, leads⟩ := moved.leads
    cases leads.unfinished
  obtain ⟨next, slots, handing⟩ := moved.slots
  refine ⟨?_, fun place result => ?_⟩
  · rw [slots, ← before.cases]
    apply List.ext_getElem?
    intro place
    by_cases same : move.place = place
    · subst same
      simp [inside, at_place]
    · simp [same]
  · by_cases same : move.place = place
    · subst same
      obtain ⟨told, rfl, latest⟩ | ⟨silent, latest⟩ := handing
      · simp [slots, latest, inside, fresh, eq_comm]
      · simp [slots, latest, inside, fresh, silent]
    · have elsewhere : (place, result) ∈ (schedule.apply plan move).latest ↔
          (place, result) ∈ schedule.latest := by
        obtain ⟨told, _, latest⟩ | ⟨_, latest⟩ := handing
        · simp [latest, Ne.symm same]
        · rw [latest]
      rw [elsewhere, before.handed, slots, List.getElem?_set_ne same]

/-- Moves in any order hand over the reports of the cases that they bring to be reported. -/
theorem HandedOver.follow {moves : List Move} (before : HandedOver cases schedule)
    (followed : schedule.follow plan moves = some ended) : HandedOver cases ended :=
  -- Each move keeps what has been handed over.
  Schedule.follow_induction (fun _ middle => HandedOver cases middle) before
    (fun _ _ _ _ handed permitted => handed.apply permitted) followed

end Handing

section Counting

variable {suite : SuiteResult}

/-- Every result is counted under one of the four outcomes. -/
theorem SuiteResult.total_eq_counts (suite : SuiteResult) : suite.total =
    suite.count .passed + suite.count .failed + suite.count .errored + suite.count .skipped := by
  -- One more result adds to the total and to one of the counts.
  obtain ⟨session, results, duration⟩ := suite
  simp only [total, count]
  induction results with
  | nil => rfl
  | cons result rest ih =>
    simp only [List.length_cons, List.countP_cons, ih]
    cases result.outcome <;> simp <;> omega

/-- The exit code is zero exactly when every result passed. -/
theorem SuiteResult.exitCode_eq_zero (suite : SuiteResult) :
    suite.exitCode = 0 ↔ ∀ result ∈ suite.results, result.outcome = .passed := by
  -- As many results as there are have to be counted as passed.
  simp [exitCode, allPassed, count, total, List.countP_eq_length]

end Counting

/-- What the result of a suite tells of cases whose tasks have ended at given stages. -/
structure Gathered {ρ : Type} (cases : List TestCase) (slots : List (CaseSlot ρ)) (suite : SuiteResult) :
    Prop where
  length : suite.results.length = cases.length
  /-- A task has reported and its report is the entry of its case, or it died and the entry tells so. -/
  entries : ∀ (place : Nat) (case : TestCase), cases[place]? = some case →
    ∃ (stage : CaseStage ρ) (result : PipelineResult),
      slots[place]? = some ⟨case, stage⟩ ∧ suite.results[place]? = some result ∧
      (stage = .reported result ∨ stage = .dead ∧ result.name = case.name ∧
        result.outcome = .errored ∧ result.error.map (·.kind) = some "Aborted")
  total : suite.total = cases.length ∧ suite.total =
    suite.count .passed + suite.count .failed + suite.count .errored + suite.count .skipped
  counts : ∀ outcome, suite.count outcome =
    (suite.results.filter fun result => result.outcome = outcome).length
  exitCode : suite.exitCode = 0 ↔ ∀ result ∈ suite.results, result.outcome = .passed

namespace Suite

variable {σ ρ : Type}

/-- The schedule of a suite is over after moves in some order. -/
structure Completed (backend : Backend σ ρ) (config : SuiteConfig) (cases : List TestCase)
    (session : Session) (now : Duration) (world : σ) (moves : List Move) (ended : Schedule σ ρ) :
    Prop where
  followed : (Schedule.ofCases config.policy cases now world).follow
    ⟨backend, session.environment, config.policy⟩ moves = some ended
  allOver : ended.isOver = true

variable {backend : Backend σ ρ} {config : SuiteConfig} {cases : List TestCase} {session : Session}
  {now : Duration} {world : σ} {moves : List Move} {ended : Schedule σ ρ}

/-- A suite that is run completes its schedule in an order in which its cases take slots in line. -/
theorem inLine_of_run {bound : Nat} {suite : SuiteResult} {after : σ}
    (ran : run backend config bound cases session now world = some (suite, after)) :
    ∃ moves ended, Completed backend config cases session now world moves ended ∧
      (Schedule.ofCases config.policy cases now world).keepsLine
        ⟨backend, session.environment, config.policy⟩ moves = true ∧
      conclude cases session now ended = (suite, after) := by
  -- The run follows the next moves.
  obtain ⟨ended, finished, concluded⟩ := Option.map_eq_some_iff.1 ran
  obtain ⟨allOver, _⟩ := Schedule.follow_of_finish finished
  obtain ⟨moves, followed, inLine⟩ := Schedule.keepsLine_of_finish finished
  exact ⟨moves, ended, ⟨followed, allOver⟩, inLine, concluded⟩

/-- A suite is left with as many cases as it began with. -/
theorem Completed.length_slots (completed : Completed backend config cases session now world moves ended) :
    ended.slots.length = cases.length := by
  -- They are the same cases.
  rw [← ((handedOver_ofCases config.policy cases now world).follow completed.followed).cases, List.length_map]

/-- Reports that arrive in any order are gathered at the places of their cases. -/
theorem Completed.getElem?_gatherReports (completed : Completed backend config cases session now world moves ended)
    {arrived : List (Nat × PipelineResult)} (same : arrived.Perm ended.latest) (place : Nat)
    (case : TestCase) (named : cases[place]? = some case) :
    ∃ stage result, ended.slots[place]? = some ⟨case, stage⟩ ∧
      (gatherReports cases arrived)[place]? = some result ∧
      (stage = .reported result ∨ stage = .dead ∧ result = case.deadResult) := by
  -- The case was reported or its task died, and only in the first case was anything handed over.
  have handed := (handedOver_ofCases config.policy cases now world).follow completed.followed
  have kept := named
  rw [← handed.cases, List.getElem?_map] at kept
  obtain ⟨⟨own, stage⟩, found, rfl⟩ := Option.map_eq_some_iff.1 kept
  have allOver := List.all_eq_true.1 completed.allOver _ (List.mem_of_getElem? found)
  have member : ∀ result, (place, result) ∈ arrived ↔ stage = .reported result := by
    intro result
    rw [same.mem_iff, handed.handed, found]
    simp
  cases stage with
  | reported result =>
    refine ⟨_, result, found, gatherReports_of_mem named ?_ ?_, .inl rfl⟩
    · exact (member result).2 rfl
    · intro other arrived
      have equal := (member other).1 arrived
      cases equal
      rfl
  | dead =>
    refine ⟨_, _, found, gatherReports_of_not_mem named ?_, .inr ⟨rfl, rfl⟩⟩
    intro result arrived
    cases (member result).1 arrived
  | _ => cases allOver

/-- The result of a suite gathers the reports of its cases, in whatever order they moved. -/
theorem Completed.gathered (completed : Completed backend config cases session now world moves ended) :
    Gathered cases ended.slots (conclude cases session now ended).1 := by
  -- The reports arrive as they were handed over.
  refine ⟨length_gatherReports, fun place case named => ?_, ⟨length_gatherReports,
    SuiteResult.total_eq_counts _⟩, fun outcome => ?_, SuiteResult.exitCode_eq_zero _⟩
  · obtain ⟨stage, result, found, gathered, told | ⟨died, rfl⟩⟩ :=
      completed.getElem?_gatherReports (List.Perm.refl _) place case named
    · exact ⟨stage, result, found, gathered, .inl told⟩
    · exact ⟨stage, _, found, gathered, .inr ⟨died, rfl, rfl, rfl⟩⟩
  · simp only [SuiteResult.count, List.countP_eq_length_filter]
    rfl

/-- The report of a case is the entry at its place in the result of its suite. -/
theorem Completed.entry (completed : Completed backend config cases session now world moves ended)
    {place : Nat} {case : TestCase} {result : PipelineResult}
    (reported : ended.slots[place]? = some ⟨case, .reported result⟩) :
    (conclude cases session now ended).1.results[place]? = some result := by
  -- Cases do not change their places, and what was handed over is gathered.
  have handed := (handedOver_ofCases config.policy cases now world).follow completed.followed
  have named : cases[place]? = some case := by
    rw [← handed.cases, List.getElem?_map, reported]
    rfl
  obtain ⟨stage, told, found, gathered, told_by | ⟨died, _⟩⟩ :=
    completed.getElem?_gatherReports (List.Perm.refl _) place case named
  · rw [reported] at found
    cases found
    cases told_by
    exact gathered
  · rw [reported] at found
    cases found
    cases died

/--
In whatever order the cases of a suite move and their reports arrive, its result has one entry for each case, in case
order.

The entry is what the task of the case returned, or tells that it died, and each entry is counted once.
-/
theorem conclude_gathers (completed : Completed backend config cases session now world moves ended) :
    Gathered cases ended.slots (conclude cases session now ended).1 ∧
      ∀ arrived, arrived.Perm ended.latest →
        gatherReports cases arrived = (conclude cases session now ended).1.results := by
  -- Two orders of arrival agree at every place.
  refine ⟨completed.gathered, fun arrived same => List.ext_getElem? fun place => ?_⟩
  cases named : cases[place]? with
  | none =>
    have outside := List.getElem?_eq_none_iff.1 named
    rw [List.getElem?_eq_none (by simpa using outside),
      List.getElem?_eq_none (by simpa [conclude] using outside)]
  | some case =>
    obtain ⟨stage, result, found, gathered, told⟩ := completed.getElem?_gatherReports same place case named
    obtain ⟨other, resultOther, foundOther, gatheredOther, toldOther⟩ :=
      completed.getElem?_gatherReports (List.Perm.refl _) place case named
    rw [found] at foundOther
    cases foundOther
    have equal : result = resultOther := by
      rcases told with rfl | ⟨rfl, rfl⟩ <;> rcases toldOther with returned | ⟨died, rfl⟩
      · cases returned
        rfl
      · cases died
      · cases returned
      · rfl
    rw [gathered, equal]
    exact gatheredOther.symm

/-- Three cases of which the first dies, the second fails and the third is skipped for it. -/
def trio : List TestCase :=
  -- What their pipelines would do is left to the backend.
  ["first", "second", "third"].map fun name => ⟨name, .definition ⟨name, none, [], "start", []⟩⟩

/-- Two cases at a time, none after a failure. -/
def trioConfig : SuiteConfig := ⟨2, none, true, .default, none⟩

/-- The runs of the three cases on two slots. -/
def trioLegs : List (Progress Unit) :=
  -- The third case has none.
  [.waiting ⟨5⟩ (), .finished (.aborted "second" (.aborted "stopped") Duration.zero), .crashed]

/-- An order in which the first case is the last to end. -/
def trioMoves : List Move :=
  -- The third case takes the slot of the second.
  [⟨0, .enter⟩, ⟨1, .enter⟩, ⟨1, .check⟩, ⟨0, .check⟩, ⟨0, .start⟩, ⟨1, .start⟩, ⟨1, .announce⟩,
    ⟨1, .leave⟩, ⟨2, .enter⟩, ⟨2, .check⟩, ⟨2, .leave⟩, ⟨0, .wake⟩]

/-- The three cases have one entry each. -/
theorem conclude_gathers_trio :
    ∃ ended, Completed Backend.prepared trioConfig trio ⟨"session", Dictionary.empty⟩ Duration.zero
        trioLegs trioMoves ended ∧
      Gathered trio ended.slots (conclude trio ⟨"session", Dictionary.empty⟩ Duration.zero ended).1 ∧
      ∀ arrived, arrived.Perm ended.latest → gatherReports trio arrived =
        (conclude trio ⟨"session", Dictionary.empty⟩ Duration.zero ended).1.results := by
  -- The order is possible.
  have completed : Completed Backend.prepared trioConfig trio ⟨"session", Dictionary.empty⟩
      Duration.zero trioLegs trioMoves _ := ⟨rfl, rfl⟩
  exact ⟨_, completed, conclude_gathers completed⟩

end Suite

end PipelineTrial
