import PipelineTrial.Proofs.Run.Backend
import PipelineTrial.Run.Recording

/-! What a run asks up to a deadline is what it asks in all, as far as that is asked by the deadline. -/

namespace PipelineTrial

/-- A run ends in some way, at some time, and leaves the collaborators in some state when nothing cuts it short. -/
inductive Backend.Ends {σ ρ : Type} (backend : Backend σ ρ) :
    Progress ρ → Duration → σ → Ending → Duration → σ → Prop where
  | finished {result : PipelineResult} {now : Duration} {world : σ} :
      Ends backend (.finished result) now world (.reported result) now world
  | crashed {now : Duration} {world : σ} : Ends backend .crashed now world .crashed now world
  | stalled {now : Duration} {world : σ} : Ends backend .stalled now world .stalled now world
  | waiting {delay now finished : Duration} {run : ρ} {world after : σ} {ending : Ending}
      (later : Ends backend (backend.resume run (now + delay) world).1 (now + delay)
        (backend.resume run (now + delay) world).2 ending finished after) :
      Ends backend (.waiting delay run) now world ending finished after

/-- A run is not over at a deadline, by which it has left the collaborators in some state. -/
inductive Backend.Outlasts {σ ρ : Type} (backend : Backend σ ρ) (deadline : Duration) :
    Progress ρ → Duration → σ → σ → Prop where
  /-- It waits forever. -/
  | stalled {now : Duration} {world : σ} : Outlasts backend deadline .stalled now world world
  /-- It waits past the deadline. -/
  | overdue {delay now : Duration} {run : ρ} {world : σ} (late : deadline < now + delay) :
      Outlasts backend deadline (.waiting delay run) now world world
  | onward {delay now : Duration} {run : ρ} {world left : σ} (inTime : now + delay ≤ deadline)
      (later : Outlasts backend deadline (backend.resume run (now + delay) world).1 (now + delay)
        (backend.resume run (now + delay) world).2 left) :
      Outlasts backend deadline (.waiting delay run) now world left

/-- A log has grown by entries of which something holds. -/
def LogGrows {σ κ : Type} (log : σ → List κ) (Holds : κ → Prop) (before after : σ) : Prop :=
  -- Nothing that was logged before is changed.
  ∃ made, log after = log before ++ made ∧ ∀ entry ∈ made, Holds entry

/-- A backend that logs what it asks, with the time at which it asks. -/
structure Backend.Logs {σ ρ κ : Type} (backend : Backend σ ρ) (log : σ → List κ) (time : κ → Duration) :
    Prop where
  start : ∀ definition now world, LogGrows log (time · = now) world (backend.start definition now world).2
  resume : ∀ run now world, LogGrows log (time · = now) world (backend.resume run now world).2

section Deadlines

variable {σ ρ κ : Type} {backend : Backend σ ρ} {log : σ → List κ} {time : κ → Duration} {bound : Nat}
  {progress : Progress ρ} {now finished deadline : Duration} {world after left : σ} {ending : Ending}

namespace Backend

/-- A run ends as it does within any bound on its waits that is large enough. -/
theorem ends_of_conclude (concluded : backend.conclude bound progress now world = some (ending, finished, after)) :
    backend.Ends progress now world ending finished after := by
  -- Each wait takes one off the bound.
  induction bound generalizing progress now world with
  | zero =>
    cases progress with
    | waiting delay run => cases concluded
    | finished result => cases concluded; exact .finished
    | crashed => cases concluded; exact .crashed
    | stalled => cases concluded; exact .stalled
  | succ bound ih =>
    cases progress with
    | waiting delay run => exact .waiting (ih concluded)
    | finished result => cases concluded; exact .finished
    | crashed => cases concluded; exact .crashed
    | stalled => cases concluded; exact .stalled

/-- No run ends before it has begun. -/
theorem Ends.le (ends : backend.Ends progress now world ending finished after) : now ≤ finished := by
  -- Each wait takes time on.
  induction ends with
  | finished => exact Nat.le_refl _
  | crashed => exact Nat.le_refl _
  | stalled => exact Nat.le_refl _
  | waiting _ ih =>
    simp only [Duration.le_iff, Duration.nanoseconds_add] at ih ⊢
    omega

/-- A run that never ends, or ends after a deadline, outlasts the deadline. -/
theorem Ends.outlasts (ends : backend.Ends progress now world ending finished after) (inTime : now ≤ deadline)
    (late : ending = .stalled ∨ deadline < finished) : ∃ left, backend.Outlasts deadline progress now world left := by
  -- The induction is on the run, which is not over at any time up to the deadline.
  induction ends with
  | finished =>
    have behind := late.resolve_left (by simp)
    simp only [Duration.le_iff, Duration.lt_iff] at inTime behind
    omega
  | crashed =>
    have behind := late.resolve_left (by simp)
    simp only [Duration.le_iff, Duration.lt_iff] at inTime behind
    omega
  | stalled => exact ⟨_, .stalled⟩
  | @waiting delay now finished run world after ending _ ih =>
    by_cases within : now + delay ≤ deadline
    · obtain ⟨left, later⟩ := ih within late
      exact ⟨left, .onward within later⟩
    · have behind : deadline < now + delay := by
        simp only [Duration.le_iff, Duration.lt_iff] at within ⊢
        omega
      exact ⟨world, .overdue behind⟩

end Backend

namespace LogGrows

/-- A log may not have grown at all. -/
theorem refl (log : σ → List κ) (Holds : κ → Prop) (world : σ) : LogGrows log Holds world world :=
  ⟨[], by simp, by simp⟩

/-- A log grows step by step. -/
theorem trans {Holds : κ → Prop} {middle : σ} (first : LogGrows log Holds world middle)
    (second : LogGrows log Holds middle after) : LogGrows log Holds world after := by
  obtain ⟨made, grown, told⟩ := first
  obtain ⟨later, grownLater, toldLater⟩ := second
  have whole : log after = log world ++ (made ++ later) := by rw [grownLater, grown, List.append_assoc]
  refine ⟨made ++ later, whole, fun entry member => ?_⟩
  rcases List.mem_append.1 member with early | late
  · exact told entry early
  · exact toldLater entry late

/-- What holds of the new entries of a log may be weakened. -/
theorem imp {Holds Weaker : κ → Prop} (weaken : ∀ entry, Holds entry → Weaker entry)
    (grown : LogGrows log Holds world after) : LogGrows log Weaker world after := by
  obtain ⟨made, whole, told⟩ := grown
  exact ⟨made, whole, fun entry member => weaken entry (told entry member)⟩

end LogGrows

namespace Backend

/-- What is logged from a time on includes what is logged when a run goes on at that time. -/
theorem Logs.of_resume (logs : backend.Logs log time) {run : ρ}
    (later : LogGrows log (now ≤ time ·) (backend.resume run now world).2 after) :
    LogGrows log (now ≤ time ·) world after := by
  have asked : LogGrows log (now ≤ time ·) world (backend.resume run now world).2 := by
    refine (logs.resume run now world).imp fun entry same => ?_
    rw [same]
    exact Nat.le_refl _
  exact asked.trans later

/-- A run logs nothing before it goes on. -/
theorem Ends.logs (logs : backend.Logs log time) (ends : backend.Ends progress now world ending finished after) :
    LogGrows log (now ≤ time ·) world after := by
  -- The induction is on the run: what it logs after a wait is logged at the end of the wait or later.
  induction ends with
  | finished => exact .refl _ _ _
  | crashed => exact .refl _ _ _
  | stalled => exact .refl _ _ _
  | @waiting delay now finished run world after ending _ ih =>
    refine (logs.of_resume ih).imp fun entry later => ?_
    simp only [Duration.le_iff, Duration.nanoseconds_add] at later ⊢
    omega

/-- What a run has logged by a deadline that it outlasts is what it logs in all, as far as that is logged by then. -/
theorem Outlasts.log_eq (logs : backend.Logs log time) (outlasts : backend.Outlasts deadline progress now world left)
    (ends : backend.Ends progress now world ending finished after)
    (early : ∀ entry ∈ log world, time entry ≤ deadline) :
    log left = (log after).filter fun entry => time entry ≤ deadline := by
  -- The induction is on the part of the run up to the deadline.
  induction outlasts with
  | stalled =>
    cases ends
    rw [List.filter_eq_self.2 (by simpa using early)]
  | @overdue delay now run world late =>
    cases ends with
    | waiting later =>
      obtain ⟨made, whole, told⟩ := logs.of_resume (later.logs logs)
      have missed : made.filter (fun entry => time entry ≤ deadline) = [] := by
        rw [List.filter_eq_nil_iff]
        intro entry member inTime
        have behind := told entry member
        simp only [decide_eq_true_eq, Duration.le_iff, Duration.lt_iff] at inTime behind late
        omega
      rw [whole, List.filter_append, missed, List.append_nil, List.filter_eq_self.2 (by simpa using early)]
  | @onward delay now run world left inTime _ ih =>
    cases ends with
    | waiting later =>
      refine ih later fun entry member => ?_
      obtain ⟨made, whole, told⟩ := logs.resume run (now + delay) world
      rw [whole] at member
      rcases List.mem_append.1 member with before | new
      · exact early entry before
      · rw [told entry new]
        exact inTime

end Backend

end Deadlines

namespace Engine

variable {σ : Type}

/-- A walk that is moved on to its next call records that call, with the time of asking. -/
theorem ask_logs (executor : Executor σ) (settings : EngineSettings) (definition : Definition) (graph : Graph)
    (started now : Duration) (left : Nat) (walk : Walk) (world : σ × List Exchange) :
    LogGrows Prod.snd (Exchange.asked · = now) world
      (ask executor.recorded settings definition graph started now left walk world).2 := by
  -- At most one node is asked.
  obtain ⟨own, calls⟩ := world
  cases left with
  | zero => exact .refl _ _ _
  | succ left =>
    cases prepared : walk.prepare graph with
    | error error => simpa only [ask, prepared] using .refl _ _ _
    | ok pair =>
      obtain ⟨node, inputs⟩ := pair
      cases responded : executor.respond node inputs now own with
      | mk response next =>
        have recorded := Executor.respond_recorded responded calls
        have asked : LogGrows Prod.snd (Exchange.asked · = now) (own, calls)
            (next, calls ++ [⟨node, inputs, now, response⟩]) :=
          ⟨[⟨node, inputs, now, response⟩], rfl, by simp⟩
        cases response <;> simpa only [ask, prepared, recorded] using asked

/-- The local engine with a record logs the calls of nodes, with their times. -/
theorem backend_logs (executor : Executor σ) (settings : EngineSettings) :
    (backend executor.recorded settings).Logs Prod.snd Exchange.asked := by
  constructor
  · -- A run begins with a call, unless its definition is rejected.
    intro definition now world
    cases built : Graph.build definition with
    | error error => simpa only [backend, built] using .refl _ _ _
    | ok graph => simpa only [backend, built] using ask_logs executor settings definition graph now now _ _ world
  · -- Whatever a node answers, at most one more node is called.
    intro pending now world
    cases answered : pending.answer with
    | none => simpa only [backend, answered] using .refl _ _ _
    | some answer =>
      cases received : pending.walk.receive pending.node (now - pending.asked) answer with
      | stopped walk error => simpa only [backend, answered, received] using .refl _ _ _
      | arrived walk => simpa only [backend, answered, received] using .refl _ _ _
      | onward walk =>
        simpa only [backend, answered, received] using
          ask_logs executor settings pending.definition pending.graph pending.started now pending.left walk world

end Engine

end PipelineTrial
