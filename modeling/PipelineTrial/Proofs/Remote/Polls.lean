import PipelineTrial.Proofs.Duration
import PipelineTrial.Remote.Recording

/-! A remote run asks for its status at bounded intervals, within its patience, until a reply decides it. -/

namespace PipelineTrial

/-- A question for the status of a run: when it was asked, and the response to it. -/
structure Poll where
  asked : Duration
  response : Response (Except RemoteError RemoteStatus)

/-- The request that a question is. -/
def Poll.exchange (poll : Poll) : PlatformExchange := ⟨poll.asked, .status poll.response⟩

/-- Whether a response is an answer. -/
def Response.IsAnswer {α : Type} (response : Response α) : Prop :=
  -- It can also be a crash or none at all.
  ∃ delay value, response = .answer delay value

namespace Polling

/-- The report of a run that a reply decides, when the run is completed, has failed, or cannot be asked for. -/
def decided? (verdictKey name : String) (elapsed : Duration) :
    Except RemoteError RemoteStatus → Option PipelineResult
  | .ok (.completed state) => some (.completed name state [] elapsed verdictKey)
  | .ok (.failed message) => some (.aborted name (.remote message) elapsed)
  | .error error => some (.aborted name (.remote error.message) elapsed)
  | .ok .pending => none
  | .ok .running => none

end Polling

namespace Poll

/-- The time at which a question is answered. -/
def received? (poll : Poll) : Option Duration :=
  -- There may be no answer.
  match poll.response with
  | .answer delay _ => some (poll.asked + delay)
  | _ => none

/-- The report that the answer to a question decides for a run that started at a time. -/
def decided? (verdictKey name : String) (started : Duration) (poll : Poll) : Option PipelineResult :=
  -- It tells the time from the start to the answer.
  match poll.response with
  | .answer delay answer => Polling.decided? verdictKey name (poll.asked + delay - started) answer
  | _ => none

end Poll

namespace Polling

/-- The questions of a run that started at a time, from one asked at a time on, with how and when it ends. -/
inductive PollsTo (patience : Patience) (verdictKey name : String) (started : Duration) :
    Duration → List Poll → Ending → Duration → Prop where
  | silent {asked : Duration} :
      PollsTo patience verdictKey name started asked [⟨asked, .silence⟩] .stalled asked
  | crashed {asked delay : Duration} :
      PollsTo patience verdictKey name started asked [⟨asked, .crash delay⟩] .crashed (asked + delay)
  | decided {asked delay : Duration} {answer : Except RemoteError RemoteStatus} {result : PipelineResult} :
      decided? verdictKey name (asked + delay - started) answer = some result →
      PollsTo patience verdictKey name started asked [⟨asked, .answer delay answer⟩] (.reported result)
        (asked + delay)
  | expired {asked delay : Duration} {answer : Except RemoteError RemoteStatus} :
      decided? verdictKey name (asked + delay - started) answer = none →
      patience.limit < asked + delay - started + patience.interval →
      PollsTo patience verdictKey name started asked [⟨asked, .answer delay answer⟩]
        (.reported (.aborted name (.timeout patience.limit) (asked + delay - started))) (asked + delay)
  | again {asked delay finished : Duration} {answer : Except RemoteError RemoteStatus} {polls : List Poll}
      {ending : Ending} :
      decided? verdictKey name (asked + delay - started) answer = none →
      asked + delay - started + patience.interval ≤ patience.limit →
      PollsTo patience verdictKey name started (asked + delay + patience.interval) polls ending finished →
      PollsTo patience verdictKey name started asked (⟨asked, .answer delay answer⟩ :: polls) ending finished

section Course

variable {σ : Type} {patience : Patience} {verdictKey name : String}

/-- A status that decides a run finishes it. -/
theorem judge_of_decided {run : RemoteRun} {execution : String} {now : Duration}
    {answer : Except RemoteError RemoteStatus} {result : PipelineResult}
    (decides : decided? verdictKey run.name (now - run.started) answer = some result) :
    judge patience verdictKey run execution now answer = .finished result := by
  -- There are three such replies.
  cases answer with
  | error error =>
    cases decides
    rfl
  | ok status =>
    cases status with
    | pending => cases decides
    | running => cases decides
    | completed state =>
      cases decides
      rfl
    | failed message =>
      cases decides
      rfl

/-- A status that decides nothing leads to another question unless that would come too late. -/
theorem judge_of_undecided {run : RemoteRun} {execution : String} {now : Duration}
    {answer : Except RemoteError RemoteStatus}
    (undecided : decided? verdictKey run.name (now - run.started) answer = none) :
    judge patience verdictKey run execution now answer =
      if patience.limit < now - run.started + patience.interval then
        .finished (.aborted run.name (.timeout patience.limit) (now - run.started))
      else .waiting patience.interval { run with awaited := .question execution } := by
  -- The run is pending or running.
  cases answer with
  | error error => cases undecided
  | ok status =>
    cases status with
    | pending => rfl
    | running => rfl
    | completed state => cases undecided
    | failed message => cases undecided

section Waits

variable (platform : Platform σ) (patience : Patience) (verdictKey session execution : String)
  (bound : Nat) (run : RemoteRun)

/-- The ending of a run from a question on, within a bound on its waits. -/
def concludeQuestion (asked : Duration) (world : σ) : Option (Ending × Duration × σ) :=
  -- The question itself takes no time.
  (backend platform patience verdictKey session).conclude bound
    (question platform session run execution asked world).1 asked
    (question platform session run execution asked world).2

variable {asked : Duration} {world next : σ}

/-- A run whose question is never answered waits forever. -/
theorem concludeQuestion_silence (responded : platform.status session execution asked world = (.silence, next)) :
    concludeQuestion platform patience verdictKey session execution bound run asked world =
      some (.stalled, asked, next) := by
  simp [concludeQuestion, question, responded, Backend.conclude]

/-- A run whose task dies at a question ends with the delay of the response. -/
theorem concludeQuestion_crash {delay : Duration}
    (responded : platform.status session execution asked world = (.crash delay, next)) :
    concludeQuestion platform patience verdictKey session execution (bound + 1) run asked world =
      some (.crashed, asked + delay, next) := by
  simp [concludeQuestion, question, responded, Backend.conclude, backend]

/-- A run is judged by the answer to its question when that arrives. -/
theorem concludeQuestion_answer {delay : Duration} {answer : Except RemoteError RemoteStatus}
    (responded : platform.status session execution asked world = (.answer delay answer, next)) :
    concludeQuestion platform patience verdictKey session execution (bound + 1) run asked world =
      (backend platform patience verdictKey session).conclude bound
        (judge patience verdictKey run execution (asked + delay) answer) (asked + delay) next := by
  -- Only the name and the start of the run matter to its judgement.
  have judged : judge patience verdictKey { run with awaited := .status execution (some answer) } execution
      (asked + delay) answer = judge patience verdictKey run execution (asked + delay) answer := by
    cases answer with
    | error error => rfl
    | ok status => cases status <;> rfl
  simp only [concludeQuestion, question, responded, Backend.conclude, ← judged]
  rfl

/-- A run whose question gets a reply that decides nothing waits for the next question, unless that comes too late. -/
theorem concludeQuestion_undecided {delay : Duration} {answer : Except RemoteError RemoteStatus}
    (responded : platform.status session execution asked world = (.answer delay answer, next))
    (undecided : decided? verdictKey run.name (asked + delay - run.started) answer = none) :
    concludeQuestion platform patience verdictKey session execution (bound + 1) run asked world =
      if patience.limit < asked + delay - run.started + patience.interval then
        some (.reported (.aborted run.name (.timeout patience.limit) (asked + delay - run.started)), asked + delay, next)
      else (backend platform patience verdictKey session).conclude bound
        (.waiting patience.interval { run with awaited := .question execution }) (asked + delay) next := by
  rw [concludeQuestion_answer _ _ _ _ _ _ _ responded, judge_of_undecided undecided]
  split
  · cases bound <;> rfl
  · rfl

/-- The wait for a question is over when it is asked. -/
theorem conclude_waiting_question (span now : Duration) :
    (backend platform patience verdictKey session).conclude (bound + 1)
        (.waiting span { run with awaited := .question execution }) now world =
      concludeQuestion platform patience verdictKey session execution bound
        { run with awaited := .question execution } (now + span) world := rfl

end Waits

/-- A logged platform answers a question as it does without a log, and adds it to the log. -/
theorem status_logged {platform : Platform σ} {session execution : String} {asked : Duration} {world next : σ}
    {response : Response (Except RemoteError RemoteStatus)}
    (responded : platform.status session execution asked world = (response, next))
    (log : List PlatformExchange) :
    platform.logged.status session execution asked (world, log) =
      (response, next, log ++ [Poll.exchange ⟨asked, response⟩]) := by
  simp [Platform.logged, responded, Poll.exchange]

/-- A run ends within a bound on its waits from a question on, and all that it sends are questions. -/
def EndsByPolls (platform : Platform σ) (patience : Patience) (verdictKey session execution : String)
    (bound : Nat) (run : RemoteRun) (asked : Duration) (world : σ) (log : List PlatformExchange) : Prop :=
  -- The requests are recorded beside the plain run.
  ∃ ending finished after polls,
    concludeQuestion platform patience verdictKey session execution bound run asked world =
      some (ending, finished, after) ∧
    concludeQuestion platform.logged patience verdictKey session execution bound run asked (world, log) =
      some (ending, finished, after, log ++ polls.map Poll.exchange) ∧
    PollsTo patience verdictKey run.name run.started asked polls ending finished

/-- A question either ends a run, or an undecided reply leads to another one that its patience has time for. -/
theorem endsByPolls_of_onward (platform : Platform σ) (session execution : String) {bound : Nat}
    (run : RemoteRun) (asked : Duration) (world : σ) (log : List PlatformExchange)
    (onward : ∀ (delay : Duration) (next : σ) (log : List PlatformExchange),
      asked + delay - run.started + patience.interval ≤ patience.limit → ∃ fewer, bound = fewer + 1 ∧
        EndsByPolls platform patience verdictKey session execution fewer
          { run with awaited := .question execution } (asked + delay + patience.interval) next log) :
    EndsByPolls platform patience verdictKey session execution (bound + 1) run asked world log := by
  -- The response to the question, and then the reply, decide which way the run takes.
  cases responded : platform.status session execution asked world with
  | mk response next =>
    have recorded := status_logged responded log
    cases response with
    | silence =>
      exact ⟨_, _, _, [⟨asked, .silence⟩], concludeQuestion_silence _ _ _ _ _ _ _ responded,
        concludeQuestion_silence _ _ _ _ _ _ _ recorded, .silent⟩
    | crash delay =>
      exact ⟨_, _, _, [⟨asked, .crash delay⟩], concludeQuestion_crash _ _ _ _ _ _ _ responded,
        concludeQuestion_crash _ _ _ _ _ _ _ recorded, .crashed⟩
    | answer delay answer =>
      cases decides : decided? verdictKey run.name (asked + delay - run.started) answer with
      | some result =>
        have plain := concludeQuestion_answer _ patience verdictKey _ _ bound run responded
        have logged := concludeQuestion_answer _ patience verdictKey _ _ bound run recorded
        rw [judge_of_decided decides] at plain logged
        refine ⟨_, _, next, [⟨asked, .answer delay answer⟩], plain.trans ?_, logged.trans ?_,
          .decided decides⟩ <;> simp [Backend.conclude]
      | none =>
        have plain := concludeQuestion_undecided _ patience verdictKey _ _ bound run responded decides
        have logged := concludeQuestion_undecided _ patience verdictKey _ _ bound run recorded decides
        by_cases late : patience.limit < asked + delay - run.started + patience.interval
        · rw [if_pos late] at plain logged
          exact ⟨_, _, next, [⟨asked, .answer delay answer⟩], plain, logged, .expired decides late⟩
        · rw [if_neg late] at plain logged
          have intime : asked + delay - run.started + patience.interval ≤ patience.limit := Nat.le_of_not_lt late
          obtain ⟨fewer, rfl, ending, finished, after, polls, following, followingLogged, course⟩ :=
            onward delay next (log ++ [Poll.exchange ⟨asked, .answer delay answer⟩]) intime
          rw [conclude_waiting_question] at plain logged
          rw [List.append_assoc] at followingLogged
          exact ⟨ending, finished, after, ⟨asked, .answer delay answer⟩ :: polls, plain.trans following,
            logged.trans followingLogged, .again decides intime course⟩

/-- From a question on, a run ends after at most two waits for each question that its patience leaves time for. -/
theorem conclude_question (platform : Platform σ) (patience : Patience)
    (verdictKey session execution : String) {turns : Nat} (bound : Nat) (enough : 2 * turns + 1 ≤ bound)
    (run : RemoteRun) (elapsed : Duration)
    (within : patience.limit.nanoseconds <
      elapsed.nanoseconds + (turns + 1) * patience.interval.nanoseconds)
    (world : σ) (log : List PlatformExchange) :
    EndsByPolls platform patience verdictKey session execution bound run (run.started + elapsed) world log := by
  -- The induction is on the questions that may follow this one.
  induction turns generalizing bound run elapsed world log with
  | zero =>
    obtain ⟨bound, rfl⟩ : ∃ fewer, bound = fewer + 1 := ⟨bound - 1, by omega⟩
    refine endsByPolls_of_onward platform session execution run _ world log fun delay next log intime => ?_
    simp only [Duration.le_iff, Duration.nanoseconds_add, Duration.nanoseconds_sub] at intime
    omega
  | succ turns ih =>
    obtain ⟨bound, rfl⟩ : ∃ fewer, bound = fewer + 2 := ⟨bound - 2, by omega⟩
    refine endsByPolls_of_onward platform session execution run _ world log fun delay next log _ => ?_
    have later : run.started + elapsed + delay + patience.interval =
        run.started + (elapsed + delay + patience.interval) := by
      simp only [Duration.add_assoc]
    rw [later]
    refine ⟨bound, rfl, ih bound (by omega) { run with awaited := .question execution } _ ?_ next log⟩
    simp only [Duration.nanoseconds_add]
    have more : (turns + 1 + 1) * patience.interval.nanoseconds =
        (turns + 1) * patience.interval.nanoseconds + patience.interval.nanoseconds := Nat.succ_mul _ _
    omega

end Course

section Facts

variable {patience : Patience} {verdictKey name : String} {started asked finished : Duration}
  {polls : List Poll} {ending : Ending}

/-- The first question is asked at the time from which on the questions are told. -/
theorem PollsTo.first (course : PollsTo patience verdictKey name started asked polls ending finished) :
    ∃ response rest, polls = ⟨asked, response⟩ :: rest := by
  cases course <;> exact ⟨_, _, rfl⟩

/-- Each question after the first is asked an interval or more after the one before, and within the patience. -/
theorem PollsTo.paced (course : PollsTo patience verdictKey name started asked polls ending finished)
    (since : started ≤ asked) (place : Nat) {poll following : Poll} (found : polls[place]? = some poll)
    (foundNext : polls[place + 1]? = some following) :
    poll.asked + patience.interval ≤ following.asked ∧ following.asked ≤ started + patience.limit := by
  -- A run goes on only while the next question comes in time.
  induction course generalizing place with
  | silent => simp at foundNext
  | crashed => simp at foundNext
  | decided _ => simp at foundNext
  | expired _ _ => simp at foundNext
  | @again asked delay finished answer polls ending _ intime course ih =>
    simp only [Duration.le_iff, Duration.nanoseconds_add, Duration.nanoseconds_sub] at since intime ih ⊢
    cases place with
    | zero =>
      obtain ⟨response, rest, rfl⟩ := course.first
      cases found
      cases foundNext
      simp only [Duration.nanoseconds_add]
      omega
    | succ place => exact ih (by omega) place found foundNext

/-- No more questions are asked than intervals fit into the patience that is left, and one. -/
theorem PollsTo.length_le (course : PollsTo patience verdictKey name started asked polls ending finished)
    (positive : Duration.zero < patience.interval) (since : started ≤ asked) :
    polls.length ≤ (patience.limit - (asked - started)).nanoseconds / patience.interval.nanoseconds + 1 := by
  -- Each further question takes an interval off the patience.
  induction course with
  | silent => simp
  | crashed => simp
  | decided _ => simp
  | expired _ _ => simp
  | @again asked delay finished answer polls ending _ intime course ih =>
    simp only [Duration.lt_iff, Duration.le_iff, Duration.nanoseconds_add, Duration.nanoseconds_sub,
      Duration.nanoseconds_zero] at positive since intime ih ⊢
    have fewer := ih (by omega)
    rw [List.length_cons]
    refine Nat.succ_le_succ (Nat.le_trans fewer ?_)
    rw [← Nat.add_div_right _ positive]
    exact Nat.div_le_div_right (by omega)

/-- A reply that decides a run is the last one, and its report is how the run ends. -/
theorem PollsTo.last_of_decided (course : PollsTo patience verdictKey name started asked polls ending finished)
    (place : Nat) {poll : Poll} {result : PipelineResult} (found : polls[place]? = some poll)
    (decides : poll.decided? verdictKey name started = some result) :
    place + 1 = polls.length ∧ ending = .reported result ∧ poll.received? = some finished := by
  -- A run goes on only after a reply that decides nothing.
  induction course generalizing place with
  | silent =>
    cases place with
    | zero =>
      cases found
      cases decides
    | succ place => cases found
  | crashed =>
    cases place with
    | zero =>
      cases found
      cases decides
    | succ place => cases found
  | decided told =>
    cases place with
    | zero =>
      cases found
      cases told.symm.trans decides
      exact ⟨rfl, rfl, rfl⟩
    | succ place => cases found
  | expired told _ =>
    cases place with
    | zero =>
      cases found
      cases told.symm.trans decides
    | succ place => cases found
  | again told _ _ ih =>
    cases place with
    | zero =>
      cases found
      cases told.symm.trans decides
    | succ place =>
      obtain ⟨final, reported, received⟩ := ih place found
      exact ⟨congrArg (· + 1) final, reported, received⟩

/-- A run reports exactly when all its questions are answered. -/
theorem PollsTo.reported_iff (course : PollsTo patience verdictKey name started asked polls ending finished) :
    (∃ result, ending = .reported result) ↔ ∀ poll ∈ polls, poll.response.IsAnswer := by
  -- A question without an answer is the last one.
  induction course with
  | silent => simp [Response.IsAnswer]
  | crashed => simp [Response.IsAnswer]
  | decided _ => simp [Response.IsAnswer]
  | expired _ _ => simp [Response.IsAnswer]
  | again _ _ _ ih =>
    rw [ih, List.forall_mem_cons]
    exact ⟨fun answered => ⟨⟨_, _, rfl⟩, answered⟩, fun answered => answered.2⟩

end Facts

/-- A run ends with its last reply as the next question would come too late, as it would have after no reply before. -/
structure RunsOut (patience : Patience) (name : String) (started : Duration) (polls : List Poll)
    (ending : Ending) (finished : Duration) : Prop where
  ending : ending = .reported (.aborted name (.timeout patience.limit) (finished - started))
  last : ∃ poll, polls.getLast? = some poll ∧ poll.received? = some finished
  late : patience.limit < finished - started + patience.interval
  /-- The replies before the last left time for another question. -/
  early : ∀ (place : Nat) poll time, polls[place]? = some poll → place + 1 < polls.length →
    poll.received? = some time → time - started + patience.interval ≤ patience.limit

/-- A run that no reply decides runs out of patience. -/
theorem PollsTo.runsOut {patience : Patience} {verdictKey name : String} {started asked finished : Duration}
    {polls : List Poll} {ending : Ending}
    (course : PollsTo patience verdictKey name started asked polls ending finished)
    (answered : ∀ poll ∈ polls, poll.response.IsAnswer)
    (undecided : ∀ poll ∈ polls, poll.decided? verdictKey name started = none) :
    RunsOut patience name started polls ending finished := by
  -- Each reply but the last left time for another question.
  induction course with
  | silent =>
    obtain ⟨_, _, missing⟩ := answered _ List.mem_cons_self
    cases missing
  | crashed =>
    obtain ⟨_, _, missing⟩ := answered _ List.mem_cons_self
    cases missing
  | decided told => cases told.symm.trans (undecided _ List.mem_cons_self)
  | expired _ late =>
    refine ⟨rfl, ⟨_, rfl, rfl⟩, late, fun place poll time _ before _ => ?_⟩
    simp at before
  | @again asked delay finished answer polls ending _ intime course ih =>
    have following := ih (fun poll member => answered poll (List.mem_cons_of_mem _ member))
      fun poll member => undecided poll (List.mem_cons_of_mem _ member)
    obtain ⟨last, final, received⟩ := following.last
    refine ⟨following.ending, ⟨last, by rw [List.getLast?_cons, final]; rfl, received⟩, following.late, ?_⟩
    intro place poll time found before received
    cases place with
    | zero =>
      cases found
      cases received
      exact intime
    | succ place =>
      exact following.early place poll time found (Nat.lt_of_succ_lt_succ before) received

/-- The questions of a run that started at a time with a submission, and how and when the run ends. -/
structure Polled (patience : Patience) (verdictKey name : String) (started : Duration)
    (submitted : Response (Except RemoteError String)) (polls : List Poll) (ending : Ending)
    (finished : Duration) : Prop where
  few : polls.length ≤ patience.limit.nanoseconds / patience.interval.nanoseconds + 1
  /-- Nothing is asked unless the submission succeeds. -/
  begun : ∀ poll, polls[0]? = some poll → ∃ delay execution,
    submitted = .answer delay (.ok execution) ∧ poll.asked = started + delay
  spaced : ∀ (place : Nat) poll following, polls[place]? = some poll → polls[place + 1]? = some following →
    poll.asked + patience.interval ≤ following.asked
  timely : ∀ (place : Nat) poll, polls[place + 1]? = some poll → poll.asked ≤ started + patience.limit
  reported : (∃ result, ending = .reported result) ↔
    submitted.IsAnswer ∧ ∀ poll ∈ polls, poll.response.IsAnswer
  refused : ∀ delay error, submitted = .answer delay (.error error) → polls = [] ∧
    finished = started + delay ∧ ending = .reported (.aborted name (.remote error.message) delay)
  /-- Nothing is asked after a reply that decides the run. -/
  decided : ∀ (place : Nat) poll result, polls[place]? = some poll →
    poll.decided? verdictKey name started = some result →
      place + 1 = polls.length ∧ ending = .reported result ∧ poll.received? = some finished
  expired : ∀ delay execution, submitted = .answer delay (.ok execution) →
    (∀ poll ∈ polls, poll.response.IsAnswer) →
    (∀ poll ∈ polls, poll.decided? verdictKey name started = none) →
      RunsOut patience name started polls ending finished

/-- A run whose submission gets no answer that names it asks nothing. -/
theorem Polled.of_unsubmitted {patience : Patience} {verdictKey name : String} {started finished : Duration}
    {submitted : Response (Except RemoteError String)} {ending : Ending}
    (reported : (∃ result, ending = .reported result) ↔ submitted.IsAnswer)
    (refused : ∀ delay error, submitted = .answer delay (.error error) →
      finished = started + delay ∧ ending = .reported (.aborted name (.remote error.message) delay))
    (unnamed : ∀ delay execution, submitted ≠ .answer delay (.ok execution)) :
    Polled patience verdictKey name started submitted [] ending finished where
  few := Nat.zero_le _
  begun _ found := by cases found
  spaced _ _ _ found := by cases found
  timely _ _ found := by cases found
  reported := by simpa using reported
  refused delay error failed := ⟨rfl, refused delay error failed⟩
  decided _ _ _ found := by cases found
  expired delay execution named := absurd named (unnamed delay execution)

/-- The questions from the answer to a submission on are those of a run. -/
theorem PollsTo.polled {patience : Patience} {verdictKey name execution : String}
    {started delay finished : Duration} {polls : List Poll} {ending : Ending}
    (positive : Duration.zero < patience.interval)
    (course : PollsTo patience verdictKey name started (started + delay) polls ending finished) :
    Polled patience verdictKey name started (.answer delay (.ok execution)) polls ending finished := by
  -- The first question is asked when the submission is answered.
  have since : started ≤ started + delay := Nat.le_add_right _ _
  refine ⟨?_, fun poll found => ?_, fun place poll following found foundNext =>
    (course.paced since place found foundNext).1, fun place poll foundNext => ?_, ?_, ?_,
    fun place poll result => course.last_of_decided place, fun _ _ _ => course.runsOut⟩
  · refine Nat.le_trans (course.length_le positive since) (Nat.succ_le_succ ?_)
    exact Nat.div_le_div_right (Nat.sub_le _ _)
  · obtain ⟨response, rest, rfl⟩ := course.first
    cases found
    exact ⟨delay, execution, rfl, rfl⟩
  · obtain ⟨inside, _⟩ := List.getElem?_eq_some_iff.1 foundNext
    have before : place < polls.length := Nat.lt_of_succ_lt inside
    exact (course.paced since place (List.getElem?_eq_getElem before) foundNext).2
  · rw [course.reported_iff]
    exact ⟨fun answered => ⟨⟨_, _, rfl⟩, answered⟩, fun answered => answered.2⟩
  · rintro _ _ ⟨⟩

section Submission

variable {σ : Type} {platform : Platform σ} {patience : Patience} {verdictKey session : String}
  {bound : Nat} {definition : Definition} {now : Duration} {world next : σ}

/-- A run whose submission is never answered waits forever. -/
theorem runAlone_silence (responded : platform.submit session definition now world = (.silence, next)) :
    (backend platform patience verdictKey session).runAlone bound definition now world =
      some (.stalled, now, next) := by
  simp [Backend.runAlone, backend, responded, Backend.conclude]

/-- A run whose task dies at its submission ends with the delay of the response. -/
theorem runAlone_crash {delay : Duration}
    (responded : platform.submit session definition now world = (.crash delay, next)) :
    (backend platform patience verdictKey session).runAlone (bound + 1) definition now world =
      some (.crashed, now + delay, next) := by
  simp [Backend.runAlone, backend, responded, Backend.conclude]

/-- A run whose submission fails is given up when the answer arrives. -/
theorem runAlone_refused {delay : Duration} {error : RemoteError}
    (responded : platform.submit session definition now world = (.answer delay (.error error), next)) :
    (backend platform patience verdictKey session).runAlone (bound + 1) definition now world =
      some (.reported (.aborted definition.name (.remote error.message) delay), now + delay, next) := by
  simp [Backend.runAlone, backend, responded, Backend.conclude, giveUp]

/-- A run that is submitted goes on with a question when the answer arrives. -/
theorem runAlone_submitted {delay : Duration} {execution : String}
    (responded : platform.submit session definition now world = (.answer delay (.ok execution), next)) :
    (backend platform patience verdictKey session).runAlone (bound + 1) definition now world =
      concludeQuestion platform patience verdictKey session execution bound
        ⟨definition.name, now, .submission (some (.ok execution))⟩ (now + delay) next := by
  simp [Backend.runAlone, backend, responded, Backend.conclude, concludeQuestion]

/-- A logged platform answers a submission as it does without a log, and adds it to the log. -/
theorem submit_logged {response : Response (Except RemoteError String)}
    (responded : platform.submit session definition now world = (response, next))
    (log : List PlatformExchange) :
    platform.logged.submit session definition now (world, log) =
      (response, next, log ++ [⟨now, .submission response⟩]) := by
  simp [Platform.logged, responded]

end Submission

/--
A run on a remote platform ends within a bound on its waits, and all that it sends after its submission are questions.

There are at most as many as intervals fit into its patience, and one; they keep their distance and come in time. The first
reply that decides the run is the last, and without one the run ends with the first reply that leaves no time for more.
-/
theorem runAlone_polled {σ : Type} (platform : Platform σ) (patience : Patience)
    (verdictKey session : String) (positive : Duration.zero < patience.interval) {bound : Nat}
    (enough : 2 * (patience.limit.nanoseconds / patience.interval.nanoseconds + 1) ≤ bound)
    (definition : Definition) (now : Duration) (world : σ) :
    ∃ ending finished after submitted polls,
      (backend platform patience verdictKey session).runAlone bound definition now world =
        some (ending, finished, after) ∧
      (backend platform.logged patience verdictKey session).runAlone bound definition now (world, []) =
        some (ending, finished, after, ⟨now, .submission submitted⟩ :: polls.map Poll.exchange) ∧
      Polled patience verdictKey definition.name now submitted polls ending finished := by
  -- The submission comes first, and only an answer that names the run leads to a question.
  have waits : 0 < bound := Nat.lt_of_lt_of_le (Nat.mul_pos Nat.two_pos (Nat.succ_pos _)) enough
  obtain ⟨bound, rfl⟩ := Nat.exists_eq_succ_of_ne_zero (Nat.ne_of_gt waits)
  cases responded : platform.submit session definition now world with
  | mk response next =>
    have recorded := submit_logged responded []
    cases response with
    | silence =>
      refine ⟨.stalled, now, next, .silence, [], runAlone_silence responded, runAlone_silence recorded,
        .of_unsubmitted ?_ ?_ ?_⟩
      · simp [Response.IsAnswer]
      · rintro _ _ ⟨⟩
      · rintro _ _ ⟨⟩
    | crash delay =>
      refine ⟨.crashed, now + delay, next, .crash delay, [], runAlone_crash responded,
        runAlone_crash recorded, .of_unsubmitted ?_ ?_ ?_⟩
      · simp [Response.IsAnswer]
      · rintro _ _ ⟨⟩
      · rintro _ _ ⟨⟩
    | answer delay answer =>
      cases answer with
      | error error =>
        refine ⟨_, now + delay, next, .answer delay (.error error), [], runAlone_refused responded,
          runAlone_refused recorded, .of_unsubmitted ?_ ?_ ?_⟩
        · simp [Response.IsAnswer]
        · rintro _ _ ⟨⟩
          exact ⟨rfl, rfl⟩
        · rintro _ _ ⟨⟩
      | ok execution =>
        have within := Nat.lt_mul_div_succ patience.limit.nanoseconds positive
        rw [Nat.mul_comm] at within
        obtain ⟨ending, finished, after, polls, plain, logged, course⟩ := conclude_question platform patience
          verdictKey session execution bound (Nat.le_of_succ_le_succ enough)
          ⟨definition.name, now, .submission (some (.ok execution))⟩ delay
          (Nat.lt_of_lt_of_le within (Nat.le_add_left _ _)) next
          [⟨now, .submission (.answer delay (.ok execution))⟩]
        exact ⟨ending, finished, after, .answer delay (.ok execution), polls,
          (runAlone_submitted responded).trans plain, (runAlone_submitted recorded).trans logged,
          course.polled positive⟩

/-- The replies of a platform on which a run is still going on when it is asked for the second time. -/
def unsettledReplies : List PlatformReply :=
  -- A third question would get an answer, but is not asked.
  [.submission (.answer ⟨1⟩ (.ok "run")), .status (.answer ⟨2⟩ (.ok .pending)),
    .status (.answer ⟨0⟩ (.ok .running)), .status (.answer ⟨0⟩ (.ok (.completed State.empty)))]

/-- With an interval of three and a patience of seven, the run is given up at the second reply. -/
theorem runAlone_polled_unsettled :
    Duration.zero < (⟨3⟩ : Duration) ∧ 2 * (7 / 3 + 1) ≤ 6 ∧
    ∃ after submitted polls,
      (backend .prepared ⟨⟨3⟩, ⟨7⟩⟩ "passed" "session").runAlone 6 ⟨"remote", none, [], "start", []⟩
          Duration.zero unsettledReplies =
        some (.reported (.aborted "remote" (.timeout ⟨7⟩) ⟨6⟩), ⟨6⟩, after) ∧
      Polled ⟨⟨3⟩, ⟨7⟩⟩ "passed" "remote" Duration.zero submitted polls
        (.reported (.aborted "remote" (.timeout ⟨7⟩) ⟨6⟩)) ⟨6⟩ := by
  -- The run is computed, and what holds of every run is then said of it.
  have ran : (backend .prepared ⟨⟨3⟩, ⟨7⟩⟩ "passed" "session").runAlone 6
      ⟨"remote", none, [], "start", []⟩ Duration.zero unsettledReplies =
      some (.reported (.aborted "remote" (.timeout ⟨7⟩) ⟨6⟩), ⟨6⟩, _) := rfl
  obtain ⟨_, _, _, submitted, polls, plain, _, polled⟩ := runAlone_polled .prepared ⟨⟨3⟩, ⟨7⟩⟩ "passed"
    "session" (by decide) (by decide : 2 * (7 / 3 + 1) ≤ 6) ⟨"remote", none, [], "start", []⟩
    Duration.zero unsettledReplies
  rw [ran] at plain
  cases plain
  exact ⟨by decide, by decide, _, submitted, polls, ran, polled⟩

end Polling

end PipelineTrial
