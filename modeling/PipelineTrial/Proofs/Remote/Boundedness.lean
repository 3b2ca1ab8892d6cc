import PipelineTrial.Proofs.Remote.Polls
import PipelineTrial.Suite.Config

/-! Which configurations bound the questions of remote runs: those with time between two questions. -/

namespace PipelineTrial

namespace Polling

/-- The questions of a run that started at a time with a submission, with how and when the run ends. -/
inductive RunsTo (patience : Patience) (verdictKey name : String) (started : Duration) :
    Response (Except RemoteError String) → List Poll → Ending → Duration → Prop where
  | silent : RunsTo patience verdictKey name started .silence [] .stalled started
  | crashed {delay : Duration} :
      RunsTo patience verdictKey name started (.crash delay) [] .crashed (started + delay)
  | refused {delay : Duration} {error : RemoteError} :
      RunsTo patience verdictKey name started (.answer delay (.error error)) []
        (.reported (.aborted name (.remote error.message) delay)) (started + delay)
  | submitted {delay finished : Duration} {execution : String} {polls : List Poll} {ending : Ending} :
      PollsTo patience verdictKey name started (started + delay) polls ending finished →
      RunsTo patience verdictKey name started (.answer delay (.ok execution)) polls ending finished

section Facts

variable {patience : Patience} {verdictKey name : String} {started finished : Duration}
  {submitted : Response (Except RemoteError String)} {polls : List Poll} {ending : Ending}

/-- No more questions are asked than intervals fit into the patience, and one. -/
theorem RunsTo.length_le (course : RunsTo patience verdictKey name started submitted polls ending finished)
    (positive : Duration.zero < patience.interval) :
    polls.length ≤ patience.limit.nanoseconds / patience.interval.nanoseconds + 1 := by
  -- The submission can take some of the patience.
  cases course with
  | silent => exact Nat.zero_le _
  | crashed => exact Nat.zero_le _
  | refused => exact Nat.zero_le _
  | submitted course =>
    refine Nat.le_trans (course.length_le positive (Nat.le_add_right _ _)) (Nat.succ_le_succ ?_)
    exact Nat.div_le_div_right (Nat.sub_le _ _)

/-- A run reports exactly when its submission and all its questions are answered. -/
theorem RunsTo.reported_iff (course : RunsTo patience verdictKey name started submitted polls ending finished) :
    (∃ result, ending = .reported result) ↔
      submitted.IsAnswer ∧ ∀ poll ∈ polls, poll.response.IsAnswer := by
  cases course with
  | silent => simp [Response.IsAnswer]
  | crashed => simp [Response.IsAnswer]
  | refused => simp [Response.IsAnswer]
  | submitted course =>
    rw [course.reported_iff]
    exact ⟨fun answered => ⟨⟨_, _, rfl⟩, answered⟩, fun answered => answered.2⟩

end Facts

/-- With time between two questions every run ends, and all that it sends after its submission are questions. -/
theorem runAlone_runsTo {σ : Type} (platform : Platform σ) {patience : Patience} (verdictKey session : String)
    (positive : Duration.zero < patience.interval) (definition : Definition) (now : Duration) (world : σ) :
    ∃ waits ending finished after submitted polls,
      (backend platform patience verdictKey session).runAlone waits definition now world =
        some (ending, finished, after) ∧
      (backend platform.logged patience verdictKey session).runAlone waits definition now (world, []) =
        some (ending, finished, after, ⟨now, .submission submitted⟩ :: polls.map Poll.exchange) ∧
      RunsTo patience verdictKey definition.name now submitted polls ending finished := by
  -- Only a submission whose answer names the run leads to a question.
  cases responded : platform.submit session definition now world with
  | mk response next =>
    have recorded := submit_logged responded []
    cases response with
    | silence =>
      exact ⟨0, _, _, _, _, [], runAlone_silence responded, runAlone_silence recorded, .silent⟩
    | crash delay =>
      exact ⟨1, _, _, _, _, [], runAlone_crash responded, runAlone_crash recorded, .crashed⟩
    | answer delay answer =>
      cases answer with
      | error error =>
        exact ⟨1, _, _, _, _, [], runAlone_refused responded, runAlone_refused recorded, .refused⟩
      | ok execution =>
        have within := Nat.lt_mul_div_succ patience.limit.nanoseconds positive
        rw [Nat.mul_comm] at within
        obtain ⟨ending, finished, after, polls, plain, logged, course⟩ := conclude_question platform patience
          verdictKey session execution _ (Nat.le_refl _) ⟨definition.name, now, .submission (some (.ok execution))⟩
          delay (Nat.lt_of_lt_of_le within (Nat.le_add_left _ _)) next
          [⟨now, .submission (.answer delay (.ok execution))⟩]
        exact ⟨_, ending, finished, after, _, polls, (runAlone_submitted responded).trans plain,
          (runAlone_submitted recorded).trans logged, .submitted course⟩

/-- A platform on which every run starts at once and goes on forever. -/
def steady : Platform Unit where
  submit _ _ _ world := (.answer Duration.zero (.ok "run"), world)
  status _ _ _ world := (.answer Duration.zero (.ok .running), world)

section Steady

variable {patience : Patience} {verdictKey session execution : String} {finished : Duration} {ending : Ending}

/-- A run that ends on the steady platform has asked until its patience had no room for another interval. -/
theorem lt_of_concludeQuestion_steady {waits : Nat} {run : RemoteRun} {elapsed : Duration}
    {before log : List PlatformExchange}
    (concluded : concludeQuestion steady.logged patience verdictKey session execution waits run
      (run.started + elapsed) ((), before) = some (ending, finished, (), log)) :
    ∃ count, log.length = before.length + count ∧
      patience.limit.nanoseconds < elapsed.nanoseconds + count * patience.interval.nanoseconds := by
  -- A question takes two waits: one for its answer, which is no time, and one until the next.
  induction waits using Nat.strongRecOn generalizing run elapsed before with
  | ind waits ih =>
    cases waits with
    | zero => simp [concludeQuestion, question, Platform.logged, steady, Backend.conclude] at concluded
    | succ waits =>
      rw [concludeQuestion_undecided _ _ _ _ _ _ _ rfl rfl, Duration.add_zero, Duration.add_sub_cancel_left] at concluded
      split at concluded
      · next late =>
        cases concluded
        exact ⟨1, List.length_append, by simpa [Duration.lt_iff] using late⟩
      · cases waits with
        | zero => cases concluded
        | succ waits =>
          rw [conclude_waiting_question, Duration.add_assoc] at concluded
          obtain ⟨count, asked, exceeds⟩ := ih waits (by omega) concluded
          refine ⟨count + 1, ?_, ?_⟩
          · rw [asked, List.length_append]
            exact Nat.add_right_comm _ _ _
          · rw [Nat.succ_mul]
            rw [Duration.nanoseconds_add] at exceeds
            omega

/-- The steady platform is asked until the patience has no room for another interval, if a run on it ends at all. -/
theorem lt_of_runAlone_steady {waits : Nat} {definition : Definition} {now : Duration} {log : List PlatformExchange}
    (ended : (backend steady.logged patience verdictKey session).runAlone waits definition now ((), []) =
      some (ending, finished, (), log)) :
    ∃ count, log.length = count + 1 ∧ patience.limit.nanoseconds < count * patience.interval.nanoseconds := by
  -- The submission is answered at once.
  cases waits with
  | zero => cases ended
  | succ waits =>
    rw [runAlone_submitted rfl] at ended
    obtain ⟨count, asked, exceeds⟩ := lt_of_concludeQuestion_steady ended
    exact ⟨count, asked.trans (Nat.add_comm _ _), by simpa using exceeds⟩

end Steady

end Polling

/-- Every run on a remote platform ends, asks no more questions than a bound, and reports if it is answered. -/
def RemoteConfig.BoundsPolls (remote : RemoteConfig) (bound : Nat) : Prop :=
  -- The requests are recorded beside the plain run.
  ∀ {σ : Type} (platform : Platform σ) (verdictKey session : String) (definition : Definition) (now : Duration)
    (world : σ), ∃ waits ending finished after submitted, ∃ polls : List Poll,
      (Polling.backend platform remote.patience verdictKey session).runAlone waits definition now world =
        some (ending, finished, after) ∧
      (Polling.backend platform.logged remote.patience verdictKey session).runAlone waits definition now (world, []) =
        some (ending, finished, after, ⟨now, .submission submitted⟩ :: polls.map Poll.exchange) ∧
      polls.length ≤ bound ∧
      ((∃ result, ending = .reported result) ↔ submitted.IsAnswer ∧ ∀ poll ∈ polls, poll.response.IsAnswer)

namespace RemoteConfig

variable (remote : RemoteConfig)

/-- A positive number of milliseconds is a positive interval. -/
theorem interval_pos_iff : Duration.zero < remote.patience.interval ↔ 0 < remote.pollMilliseconds := by
  simp only [Duration.lt_iff, patience, Duration.ofMilliseconds, Duration.nanoseconds_zero]
  omega

/-- The number of intervals that fit into the patience does not depend on the unit of time. -/
theorem limit_div_interval : remote.patience.limit.nanoseconds / remote.patience.interval.nanoseconds =
    remote.waitSeconds * 1000 / remote.pollMilliseconds := by
  have unit : remote.waitSeconds * 1000000000 = remote.waitSeconds * 1000 * 1000000 := by omega
  rw [patience, Duration.ofSeconds, Duration.ofMilliseconds, unit]
  exact Nat.mul_div_mul_right _ _ (by decide)

/--
The questions of remote runs are bounded exactly when there is time between two of them.

No bound is smaller than the number of intervals that fit into the patience, and one, which the steady platform is asked.
-/
theorem boundsPolls_iff :
    (∀ bound, remote.BoundsPolls bound ↔
      0 < remote.pollMilliseconds ∧ remote.waitSeconds * 1000 / remote.pollMilliseconds < bound) ∧
      ((∃ bound, remote.BoundsPolls bound) ↔ 0 < remote.pollMilliseconds) := by
  have least (bound : Nat) : remote.BoundsPolls bound ↔
      0 < remote.pollMilliseconds ∧ remote.waitSeconds * 1000 / remote.pollMilliseconds < bound := by
    -- A platform that never settles is asked as often as the limit allows, and no platform more often.
    rw [← remote.interval_pos_iff, ← remote.limit_div_interval]
    constructor
    · intro bounds
      obtain ⟨waits, ending, finished, _, submitted, polls, _, logged, few, _⟩ :=
        bounds Polling.steady "" "" ⟨"", none, [], "", []⟩ Duration.zero ()
      obtain ⟨count, asked, exceeds⟩ := Polling.lt_of_runAlone_steady logged
      rw [List.length_cons, List.length_map, Nat.add_right_cancel_iff] at asked
      have positive : 0 < remote.patience.interval.nanoseconds :=
        Nat.pos_of_mul_pos_left (Nat.zero_lt_of_lt exceeds)
      exact ⟨positive, Nat.lt_of_lt_of_le ((Nat.div_lt_iff_lt_mul positive).2 exceeds) (asked ▸ few)⟩
    · rintro ⟨positive, enough⟩ σ platform verdictKey session definition now world
      obtain ⟨waits, ending, finished, after, submitted, polls, plain, logged, course⟩ :=
        Polling.runAlone_runsTo platform verdictKey session positive definition now world
      exact ⟨waits, ending, finished, after, submitted, polls, plain, logged,
        Nat.le_trans (course.length_le positive) enough, course.reported_iff⟩
  refine ⟨least, fun ⟨bound, bounds⟩ => ((least bound).1 bounds).1, fun positive => ?_⟩
  exact ⟨_, (least _).2 ⟨positive, Nat.lt_succ_self _⟩⟩

end RemoteConfig

namespace Polling

section Instant

variable {patience : Patience} (instant : patience.interval = Duration.zero) (verdictKey session : String)
include instant

/-- With no time between questions, the steady platform is asked forever. -/
theorem runAlone_steady_eq_none (waits : Nat) (definition : Definition) (now : Duration) :
    (backend steady.logged patience verdictKey session).runAlone waits definition now ((), []) = none := by
  -- A run that ends has used its patience up, and here questions use nothing.
  cases ended : (backend steady.logged patience verdictKey session).runAlone waits definition now ((), []) with
  | none => rfl
  | some ending =>
    obtain ⟨count, _, exceeds⟩ := lt_of_runAlone_steady ended
    rw [instant, Duration.nanoseconds_zero, Nat.mul_zero] at exceeds
    cases exceeds

/-- Questions that are answered at once: a run is still going on for a number of them, and then it is completed. -/
def slowPolls (asked : Duration) (count : Nat) : List Poll :=
  List.replicate count ⟨asked, .answer Duration.zero (.ok .running)⟩ ++
    [⟨asked, .answer Duration.zero (.ok (.completed State.empty))⟩]

/-- With no time between questions, a run is asked for until it is completed, all at one time. -/
theorem concludeQuestion_slowPolls (execution : String) (count : Nat) (run : RemoteRun) (asked : Duration)
    (early : asked - run.started ≤ patience.limit) (log : List PlatformExchange) :
    concludeQuestion Platform.prepared.logged patience verdictKey session execution (2 * count + 1) run asked
        ((slowPolls asked count).map fun poll => .status poll.response, log) =
      some (.reported (.completed run.name State.empty [] (asked - run.started) verdictKey), asked, [],
        log ++ (slowPolls asked count).map Poll.exchange) := by
  -- A reply that decides nothing takes no time off the patience.
  induction count generalizing run log with
  | zero =>
    rw [concludeQuestion_answer _ _ _ _ _ _ _ rfl, judge_of_decided rfl, Duration.add_zero]
    rfl
  | succ count ih =>
    have late : ¬patience.limit < asked - run.started + patience.interval := by
      rw [instant, Duration.add_zero]
      exact Nat.not_lt.2 early
    have following := ih { run with awaited := .question execution } early
      (log ++ [Poll.exchange ⟨asked, .answer Duration.zero (.ok .running)⟩])
    rw [List.append_assoc] at following
    refine (concludeQuestion_undecided _ _ _ _ _ (2 * count + 2) _ rfl rfl).trans ?_
    rw [Duration.add_zero, if_neg late, conclude_waiting_question, instant, Duration.add_zero]
    exact following

end Instant

end Polling

/-- A configuration with no time between questions. -/
def instantConfig : RemoteConfig := ⟨"x", none, 0, 0⟩

/-- The configuration is accepted, and under it there is no bound on the questions that a run asks at one time. -/
theorem parse_accepts_instantConfig :
    (SuiteConfig.parse "[remote]\nbase_url = 'x'\npoll_interval_ms = 0\nmax_wait_secs = 0").toOption =
        some { SuiteConfig.default with remote := some instantConfig } ∧
      (∀ bound, ¬instantConfig.BoundsPolls bound) ∧
      (∀ verdictKey session waits definition now,
        (Polling.backend Polling.steady.logged instantConfig.patience verdictKey session).runAlone waits definition now
          ((), []) = none) ∧
      ∀ count, ∃ result log,
        (Polling.backend Platform.prepared.logged instantConfig.patience "passed" "session").runAlone (2 * count + 2)
            ⟨"remote", none, [], "start", []⟩ Duration.zero
            (.submission (.answer Duration.zero (.ok "run")) ::
              (Polling.slowPolls Duration.zero count).map fun poll => .status poll.response, []) =
          some (.reported result, Duration.zero, [], log) ∧
        log.length = count + 2 := by
  have instant : instantConfig.patience.interval = Duration.zero := rfl
  have endless := Polling.runAlone_steady_eq_none instant
  refine ⟨by decide +kernel, fun bound bounds => ?_, endless, fun count => ?_⟩
  · obtain ⟨waits, _, _, _, _, _, _, logged, _⟩ :=
      bounds Polling.steady "" "" ⟨"", none, [], "", []⟩ Duration.zero ()
    rw [endless] at logged
    cases logged
  · -- The submission is answered at the time of all questions.
    have concluded := Polling.concludeQuestion_slowPolls instant "passed" "session" "run" count
      ⟨"remote", Duration.zero, .submission (some (.ok "run"))⟩ Duration.zero (by decide)
      [⟨Duration.zero, .submission (.answer Duration.zero (.ok "run"))⟩]
    exact ⟨_, _, (Polling.runAlone_submitted rfl).trans concluded, by simp [Polling.slowPolls]⟩

end PipelineTrial
