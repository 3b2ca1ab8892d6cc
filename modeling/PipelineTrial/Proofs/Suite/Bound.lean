import PipelineTrial.Proofs.Suite.Interleaving
import PipelineTrial.Suite.Run

/-! The cases of a suite on the local engine make no more moves than the bound that its run allows for. -/

namespace PipelineTrial

namespace Engine

variable {σ : Type}

/-- The most moves that a case can make after its run has moved on. -/
def movesAfter : Progress Pending → Nat
  | .finished _ => 2
  | .waiting _ pending => pending.left + 4
  | .crashed => 0
  | .stalled => 3

/-- The most moves that a case can make from a stage on, with a limit on its steps. -/
def movesFrom (limit : Nat) : CaseStage Pending → Nat
  | .queued => limit + 6
  | .admitted => limit + 5
  | .cleared => limit + 4
  | .active _ (some (_, pending)) => pending.left + 4
  | .active _ none => 3
  | .returned _ => 2
  | .leaving _ => 1
  | .reported _ => 0
  | .dead => 0

/-- A case whose run has moved on can make no more moves than its progress allows. -/
theorem movesFrom_settle (limit : Nat) (policy : SchedulePolicy) (case : TestCase)
    (began now : Duration) (progress : Progress Pending) :
    movesFrom limit (policy.settle case began now progress) ≤ movesAfter progress := by
  -- Running out of time leaves fewer moves than waiting.
  have paused (wait : Option (Duration × Pending)) :
      movesFrom limit (policy.pause case began now wait) ≤ max 2 (movesFrom limit (.active began wait)) := by
    unfold SchedulePolicy.pause
    split
    · exact Nat.le_max_right _ _
    · split
      · exact Nat.le_max_left _ _
      · exact Nat.le_max_right _ _
  cases progress with
  | finished result => exact Nat.le_refl _
  | crashed => exact Nat.le_refl _
  | stalled => exact paused none
  | waiting delay pending =>
    simp only [SchedulePolicy.settle]
    split
    · exact Nat.le_refl _
    · have bounded := paused (some (now + delay, pending))
      simp only [movesFrom, movesAfter] at bounded ⊢
      omega

/-- A walk that is moved on to its next call leaves a move for each of the steps to come, and three more. -/
theorem movesAfter_ask (executor : Executor σ) (settings : EngineSettings) (definition : Definition)
    (graph : Graph) (started now : Duration) (left : Nat) (walk : Walk) (world : σ) :
    movesAfter (ask executor settings definition graph started now left walk world).1 ≤ left + 3 := by
  -- The call takes one of the steps.
  cases left with
  | zero => simp [ask, movesAfter]
  | succ left =>
    simp only [ask]
    cases walk.prepare graph with
    | error error => simp [movesAfter]
    | ok pair =>
      simp only []
      split <;> simp only [movesAfter] <;> omega

/-- A run that starts has all its steps to come. -/
theorem movesAfter_start (executor : Executor σ) (settings : EngineSettings) (definition : Definition)
    (now : Duration) (world : σ) :
    movesAfter ((backend executor settings).start definition now world).1 ≤ settings.maxSteps + 3 := by
  -- A graph that does not build ends it at once.
  simp only [backend]
  cases Graph.build definition with
  | error error => simp [movesAfter]
  | ok graph => exact movesAfter_ask executor settings definition graph now now _ _ world

/-- A run that goes on has fewer moves to come than before. -/
theorem movesAfter_resume (executor : Executor σ) (settings : EngineSettings) (pending : Pending)
    (now : Duration) (world : σ) :
    movesAfter ((backend executor settings).resume pending now world).1 ≤ pending.left + 3 := by
  -- It makes another call or ends.
  simp only [backend]
  cases pending.answer with
  | none => simp [movesAfter]
  | some answer =>
    simp only []
    split
    · simp [movesAfter]
    · simp [movesAfter]
    · exact movesAfter_ask executor settings _ _ _ now _ _ world

/-- The most moves that cases can make in all. -/
def movesOf (limit : Nat) : List (CaseSlot Pending) → Nat
  | [] => 0
  | slot :: rest => movesFrom limit slot.stage + movesOf limit rest

/-- Cases can make fewer moves when one of them can. -/
private theorem movesOf_set_lt {limit : Nat} {slots : List (CaseSlot Pending)} {place : Nat}
    {old new : CaseSlot Pending} (found : slots[place]? = some old)
    (less : movesFrom limit new.stage < movesFrom limit old.stage) :
    movesOf limit (slots.set place new) < movesOf limit slots := by
  -- The cases before and behind it stay where they are.
  induction slots generalizing place with
  | nil => simp at found
  | cons first rest ih =>
    cases place with
    | zero =>
      simp only [List.getElem?_cons_zero, Option.some.injEq] at found
      subst found
      simp only [List.set_cons_zero, movesOf]
      omega
    | succ place =>
      have smaller := ih (by simpa using found)
      simp only [List.set_cons_succ, movesOf]
      omega

variable {plan : SchedulePlan σ Pending} {schedule ended : Schedule σ Pending} {executor : Executor σ}
  {settings : EngineSettings}

/-- Each possible move leaves the cases fewer moves. -/
theorem movesOf_apply (onEngine : plan.backend = backend executor settings) {move : Move}
    (permitted : schedule.permits plan.policy move) :
    movesOf settings.maxSteps (schedule.apply plan move).slots < movesOf settings.maxSteps schedule.slots := by
  -- The case that moves comes to a stage with fewer moves to come.
  obtain ⟨case, stage, found, moved⟩ := Schedule.moved_of_permits permitted
  obtain ⟨place, act⟩ := move
  have fewer (next : CaseStage Pending)
      (less : movesFrom settings.maxSteps next < movesFrom settings.maxSteps stage) :
      movesOf settings.maxSteps (schedule.slots.set place ⟨case, next⟩) <
        movesOf settings.maxSteps schedule.slots :=
    movesOf_set_lt found less
  generalize schedule.apply plan ⟨place, act⟩ = after at moved ⊢
  cases moved with
  | @start progress world started =>
    have settled := movesFrom_settle settings.maxSteps plan.policy case schedule.now schedule.now progress
    have bounded : movesAfter progress ≤ settings.maxSteps + 3 := by
      unfold SchedulePlan.startCase at started
      split at started
      · cases started
        simp [movesAfter]
      · next definition loaded =>
        rw [onEngine] at started
        have starting := movesAfter_start executor settings definition schedule.now schedule.world
        rwa [started] at starting
    refine fewer _ (Nat.lt_of_le_of_lt (Nat.le_trans settled bounded) ?_)
    simp only [movesFrom]
    omega
  | @wake began due run progress world _ resumed =>
    have settled := movesFrom_settle settings.maxSteps plan.policy case began due progress
    have bounded : movesAfter progress ≤ run.left + 3 := by
      rw [onEngine] at resumed
      have resuming := movesAfter_resume executor settings run due schedule.world
      rwa [resumed] at resuming
    refine fewer _ (Nat.lt_of_le_of_lt (Nat.le_trans settled bounded) ?_)
    simp only [movesFrom]
    omega
  | @expire began limit wait _ _ =>
    refine fewer _ ?_
    cases wait with
    | none => simp [movesFrom]
    | some pair =>
      simp only [movesFrom]
      omega
  | _ => exact fewer _ (by simp [movesFrom])

/-- The cases of a schedule on the local engine make no more moves than they can, in whatever order. -/
theorem length_follow_le (onEngine : plan.backend = backend executor settings) {moves : List Move}
    (followed : schedule.follow plan moves = some ended) :
    moves.length ≤ movesOf settings.maxSteps schedule.slots := by
  -- Each move takes at least one off what is left.
  induction moves generalizing schedule with
  | nil => exact Nat.zero_le _
  | cons move others ih =>
    obtain ⟨permitted, following⟩ := Schedule.follow_cons followed
    have fewer := movesOf_apply onEngine permitted
    have rest := ih following
    rw [List.length_cons]
    omega

end Engine

namespace Suite

variable {σ : Type} {executor : Executor σ} {settings : EngineSettings} {config : SuiteConfig}
  {cases : List TestCase} {session : Session} {now : Duration} {world : σ}

/-- The bound on the moves of a suite is what its cases can make when all are in line. -/
theorem movesOf_ofCases (policy : SchedulePolicy) :
    Engine.movesOf settings.maxSteps (Schedule.ofCases policy cases now world).slots =
      moveBound cases.length settings.maxSteps := by
  -- Each case can make as many.
  induction cases with
  | nil => simp [Engine.movesOf, Schedule.ofCases, moveBound]
  | cons case rest ih =>
    simp only [Schedule.ofCases, moveBound, List.map_cons, List.length_cons, Engine.movesOf,
      Engine.movesFrom, Nat.add_mul] at ih ⊢
    omega

/-- A suite on the local engine that ends within any bound ends in the same way within its own. -/
theorem runLocal_of_run {bound : Nat} {result : SuiteResult × σ}
    (ran : run (Engine.backend executor settings) config bound cases session now world = some result) :
    runLocal executor settings config cases session now world = some result := by
  -- The moves that it follows are no more than its cases can make.
  obtain ⟨ended, finished, concluded⟩ := Option.map_eq_some_iff.1 ran
  obtain ⟨_, moves, followed, within⟩ := Schedule.follow_of_finish finished
  have few := Engine.length_follow_le rfl followed
  rw [movesOf_ofCases] at few
  exact Option.map_eq_some_iff.2 ⟨ended, within _ few, concluded⟩

end Suite

end PipelineTrial
