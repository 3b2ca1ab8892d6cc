import PipelineTrial.Proofs.Run.Reenactment
import PipelineTrial.Remote.Recording

/-! A remote run depends on its platform only through the replies to it, and not on when it starts. -/

namespace PipelineTrial

/-- A remote run started at another time. -/
def RemoteRun.Shifted (began later : Duration) (run other : RemoteRun) : Prop :=
  -- It awaits the same.
  run.started = began ∧ other = { run with started := later }

namespace Polling

variable {σ : Type}

/-- A status is judged by the time since the start of the run. -/
theorem judge_reenacted (patience : Patience) (verdictKey : String) {began later : Duration}
    {run other : RemoteRun} (shifted : run.Shifted began later other) (execution : String)
    (elapsed : Duration) (answer : Except RemoteError RemoteStatus) :
    (judge patience verdictKey run execution (began + elapsed) answer).Matches
      (RemoteRun.Shifted began later)
      (judge patience verdictKey other execution (later + elapsed) answer) := by
  -- Only a run that goes on is not over.
  obtain ⟨rfl, rfl⟩ := shifted
  cases answer with
  | error error => simpa [judge, giveUp] using Progress.Matches.finished _
  | ok status =>
    cases status with
    | completed state => simpa [judge] using Progress.Matches.finished _
    | failed message => simpa [judge, giveUp] using Progress.Matches.finished _
    | pending =>
      simp only [judge, Duration.add_sub_cancel_left]
      split
      · simpa [giveUp] using Progress.Matches.finished _
      · exact .waiting ⟨rfl, rfl⟩
    | running =>
      simp only [judge, Duration.add_sub_cancel_left]
      split
      · simpa [giveUp] using Progress.Matches.finished _
      · exact .waiting ⟨rfl, rfl⟩

/-- A question is asked at another time, and answered from the record of its response. -/
theorem question_reenacted (platform : Platform σ) (session : String) {began later : Duration}
    {run other : RemoteRun} (shifted : run.Shifted began later other) (execution : String)
    (now hence : Duration) (world : σ) (rest : List PlatformReply) :
    ∃ progress,
      question .prepared session other execution hence
          ((question platform.recorded session run execution now (world, [])).2.2 ++ rest) =
        (progress, rest) ∧
        (question platform session run execution now world).1.Matches (RemoteRun.Shifted began later)
          progress := by
  -- The response alone decides what is awaited.
  obtain ⟨rfl, rfl⟩ := shifted
  cases responded : platform.status session execution now world with
  | mk response next =>
    cases response with
    | silence =>
      refine ⟨.stalled, ?_, ?_⟩
      · simp [question, Platform.recorded, Platform.prepared, responded]
      · simpa [question, responded] using Progress.Matches.stalled
    | crash delay =>
      refine ⟨.waiting delay { run with started := later, awaited := .status execution none }, ?_, ?_⟩
      · simp [question, Platform.recorded, Platform.prepared, responded]
      · simp only [question, responded]
        exact .waiting ⟨rfl, rfl⟩
    | answer delay answer =>
      refine ⟨.waiting delay { run with started := later, awaited := .status execution (some answer) },
        ?_, ?_⟩
      · simp [question, Platform.recorded, Platform.prepared, responded]
      · simp only [question, responded]
        exact .waiting ⟨rfl, rfl⟩

/-- Polling a platform is reenacted by polling one that replies what was prepared. -/
theorem reenactment (platform : Platform σ) (patience : Patience) (verdictKey session : String) :
    Reenactment (backend platform patience verdictKey session)
      (listener platform patience verdictKey session)
      (backend .prepared patience verdictKey session) RemoteRun.Shifted where
  start definition began later world rest := by
    -- The submission is answered from its record.
    cases responded : platform.submit session definition began world with
    | mk response next =>
      cases response with
      | silence =>
        refine ⟨.stalled, ?_, ?_⟩
        · simp [backend, listener, Platform.recorded, Platform.prepared, responded]
        · simpa [backend, responded] using Progress.Matches.stalled
      | crash delay =>
        refine ⟨.waiting delay ⟨definition.name, later, .submission none⟩, ?_, ?_⟩
        · simp [backend, listener, Platform.recorded, Platform.prepared, responded]
        · simp only [backend, responded]
          exact .waiting ⟨rfl, rfl⟩
      | answer delay answer =>
        refine ⟨.waiting delay ⟨definition.name, later, .submission (some answer)⟩, ?_, ?_⟩
        · simp [backend, listener, Platform.recorded, Platform.prepared, responded]
        · simp only [backend, responded]
          exact .waiting ⟨rfl, rfl⟩
  resume began later elapsed run other world rest alike := by
    -- What was awaited is the same, and each kind of it is handled at the same time since the start.
    have shifted := alike
    obtain ⟨rfl, rfl⟩ := alike
    cases awaited : run.awaited with
    | submission answer =>
      cases answer with
      | none =>
        refine ⟨.crashed, ?_, ?_⟩
        · simp [backend, listener, awaited]
        · simpa [backend, awaited] using Progress.Matches.crashed
      | some answer =>
        cases answer with
        | error error =>
          refine ⟨giveUp run (.remote error.message) (run.started + elapsed), ?_, ?_⟩
          · simp [backend, listener, awaited, giveUp]
          · simpa [backend, awaited, giveUp] using Progress.Matches.finished _
        | ok execution =>
          have asked := question_reenacted platform session shifted execution
            (run.started + elapsed) (later + elapsed) world rest
          simpa [backend, listener, awaited] using asked
    | status execution answer =>
      cases answer with
      | none =>
        refine ⟨.crashed, ?_, ?_⟩
        · simp [backend, listener, awaited]
        · simpa [backend, awaited] using Progress.Matches.crashed
      | some answer =>
        have judged := judge_reenacted patience verdictKey shifted execution elapsed answer
        refine ⟨_, ?_, by simpa [backend, awaited] using judged⟩
        simp [backend, listener, awaited]
    | question execution =>
      have asked := question_reenacted platform session shifted execution
        (run.started + elapsed) (later + elapsed) world rest
      simpa [backend, listener, awaited] using asked

end Polling

end PipelineTrial
