import PipelineTrial.Proofs.Dictionary
import PipelineTrial.Session.Store

/-! Histories of a store: operations on sessions, and what a store in memory answers to them. -/

namespace PipelineTrial

/-- An operation on the snapshot of a session. -/
inductive StoreOperation where
  | save (session : String) (snapshot : Environment)
  | load (session : String)
  | remove (session : String)

/-- What a store answers to an operation. -/
inductive StoreAnswer where
  | done
  | found (snapshot : Environment)
  | failed (error : SuiteError)

namespace StoreOperation

/-- The session that an operation is about. -/
def session : StoreOperation → String
  | .save session _ => session
  | .load session => session
  | .remove session => session

/-- Whether an operation stores or removes the snapshot of a session. -/
def Changes (session : String) : StoreOperation → Prop
  | .save other _ => other = session
  | .load _ => False
  | .remove other => other = session

end StoreOperation

/-- The answer to a load. -/
def StoreAnswer.ofLoad : Except SuiteError Environment → StoreAnswer
  | .ok snapshot => .found snapshot
  | .error error => .failed error

/-- The answer to an attempt to change a store. -/
def StoreAnswer.ofChange {Store : Type} : Except SuiteError Store → StoreAnswer
  | .ok _ => .done
  | .error error => .failed error

/-- The store in memory after an operation, and its answer. -/
def MemoryStore.perform (store : MemoryStore) : StoreOperation → MemoryStore × StoreAnswer
  | .save session snapshot => (store.save session snapshot, .done)
  | .load session => (store, .ofLoad (store.load session))
  | .remove session => (store.remove session, .done)

/-- The store in files after an operation, and its answer. -/
def FileStore.perform (store : FileStore) : StoreOperation → FileStore × StoreAnswer
  | .save session snapshot =>
    (store.afterSave session snapshot, .ofChange (store.save session snapshot))
  | .load session => (store, .ofLoad (store.load session))
  | .remove session => (store.afterRemove session, .ofChange (store.remove session))

/-- The answers to operations in turn. -/
def answersInTurn {Store : Type} (perform : Store → StoreOperation → Store × StoreAnswer)
    (store : Store) : List StoreOperation → List StoreAnswer
  | [] => []
  | operation :: rest =>
    (perform store operation).2 :: answersInTurn perform (perform store operation).1 rest

/-- A snapshot was saved for a session and neither replaced nor removed since. -/
def LastSaved (past : List StoreOperation) (session : String) (snapshot : Environment) : Prop :=
  -- Operations on other sessions and loads do not count.
  ∃ before after, past = before ++ .save session snapshot :: after ∧
    ∀ operation ∈ after, ¬operation.Changes session

/-- What a map from sessions to snapshots answers to an operation after others. -/
def Answered (past : List StoreOperation) : StoreOperation → StoreAnswer → Prop
  | .save _ _, answer => answer = .done
  | .load session, answer =>
    (∃ snapshot, LastSaved past session snapshot ∧ answer = .found snapshot) ∨
      (∀ snapshot, ¬LastSaved past session snapshot) ∧ answer = .failed (.unknownSession session)
  | .remove _, answer => answer = .done

/-- After one more operation the last snapshot saved is a new one, or the old one when that stayed. -/
theorem lastSaved_concat {past : List StoreOperation} {operation : StoreOperation} {session : String}
    {snapshot : Environment} :
    LastSaved (past ++ [operation]) session snapshot ↔
      operation = .save session snapshot ∨
        LastSaved past session snapshot ∧ ¬operation.Changes session := by
  -- The operation is the save itself, or it comes after the save.
  constructor
  · rintro ⟨before, after, split, unchanged⟩
    rcases List.eq_nil_or_concat after with rfl | ⟨after, last, rfl⟩
    · left
      simpa using (List.append_inj' split rfl).2
    · right
      have parts : past ++ [operation] = (before ++ .save session snapshot :: after) ++ [last] := by
        simpa using split
      obtain ⟨rfl, same⟩ := List.append_inj' parts rfl
      obtain rfl : operation = last := by simpa using same
      exact ⟨⟨before, after, rfl, fun earlier member => unchanged earlier (by simp [member])⟩,
        unchanged operation (by simp)⟩
  · rintro (rfl | ⟨⟨before, after, rfl, unchanged⟩, stays⟩)
    · exact ⟨past, [], rfl, by simp⟩
    · refine ⟨before, after ++ [operation], by simp, fun other member => ?_⟩
      rcases List.mem_append.1 member with earlier | last
      · exact unchanged other earlier
      · obtain rfl : other = operation := by simpa using last
        exact stays

namespace MemoryStore

/-- A store in memory holds the snapshots last saved. -/
def Represents (store : MemoryStore) (past : List StoreOperation) : Prop :=
  -- It holds nothing else.
  ∀ session snapshot, store.snapshots.get? session = some snapshot ↔ LastSaved past session snapshot

/-- The store without snapshots has no past. -/
theorem represents_nil : MemoryStore.empty.Represents [] := by
  -- Nothing was saved.
  intro session snapshot
  constructor
  · intro held
    cases held
  · rintro ⟨before, after, split, -⟩
    simp at split

/-- Each operation keeps what a store in memory holds in step with the past. -/
theorem Represents.perform {store : MemoryStore} {past : List StoreOperation}
    (represents : store.Represents past) (operation : StoreOperation) :
    (store.perform operation).1.Represents (past ++ [operation]) := by
  -- The map changes for a session exactly when the last save does.
  intro session snapshot
  rw [lastSaved_concat, ← represents]
  cases operation with
  | save other saved =>
    rw [MemoryStore.perform, MemoryStore.save, Dictionary.get?_insert]
    by_cases same : session = other
    · simp [same, StoreOperation.Changes]
    · simp [same, Ne.symm same, StoreOperation.Changes]
  | load other => simp [MemoryStore.perform, StoreOperation.Changes]
  | remove other =>
    rw [MemoryStore.perform, MemoryStore.remove, Dictionary.get?_erase]
    by_cases same : session = other
    · simp [same, StoreOperation.Changes]
    · simp [same, Ne.symm same, StoreOperation.Changes]

/-- An operation on one session leaves all other sessions as they were. -/
theorem get?_perform_of_ne (store : MemoryStore) (operation : StoreOperation) {other : String}
    (different : other ≠ operation.session) :
    (store.perform operation).1.snapshots.get? other = store.snapshots.get? other := by
  -- Only the entry of the operation's own session is replaced or erased.
  cases operation with
  | save session snapshot =>
    change other ≠ session at different
    simp [MemoryStore.perform, MemoryStore.save, Dictionary.get?_insert, different]
  | load => rfl
  | remove session =>
    change other ≠ session at different
    simp [MemoryStore.perform, MemoryStore.remove, Dictionary.get?_erase, different]

/-- A store in memory answers by the snapshots last saved. -/
theorem Represents.answered {store : MemoryStore} {past : List StoreOperation}
    (represents : store.Represents past) (operation : StoreOperation) :
    Answered past operation (store.perform operation).2 := by
  -- Only a load has something to look up.
  cases operation with
  | save => rfl
  | load session =>
    simp only [MemoryStore.perform, MemoryStore.load]
    cases held : store.snapshots.get? session with
    | none =>
      refine .inr ⟨fun snapshot saved => ?_, rfl⟩
      have present := (represents session snapshot).2 saved
      rw [held] at present
      cases present
    | some snapshot => exact .inl ⟨snapshot, (represents session snapshot).1 held, rfl⟩
  | remove => rfl

end MemoryStore

end PipelineTrial
