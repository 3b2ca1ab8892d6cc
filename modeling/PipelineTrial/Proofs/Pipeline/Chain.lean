import Mathlib.Data.List.Dedup
import Mathlib.Data.List.Perm.Subperm
import PipelineTrial.Proofs.Pipeline.Graph

/-! The chain of ids from the entry point of a graph ends before an id comes twice, or it never ends. -/

namespace PipelineTrial

namespace Graph

variable {graph : Graph}

/-- The id at a place of the chain from the entry point, if the chain is that long. -/
def visit? (graph : Graph) : Nat → Option String
  | 0 => some graph.entryPoint
  | place + 1 => (graph.visit? place).bind graph.next?

/-- The chain from the entry point comes to a node that finishes the run. -/
def ReachesEnd (graph : Graph) : Prop :=
  -- No place of the chain comes after that node.
  ∃ place id node, graph.visit? place = some id ∧ graph.node? id = some node ∧ node.transition = .finish

/-- Ids stand in a list as they do at the first places of the chain. -/
def Follows (graph : Graph) (ids : List String) : Prop :=
  -- The list may be shorter than the chain.
  ∀ place id, ids[place]? = some id → graph.visit? place = some id

/-- Nothing comes before the entry point. -/
theorem follows_nil (graph : Graph) : graph.Follows [] := by
  -- No place of the list holds an id.
  intro place id found
  simp at found

/-- Ids go on following the chain when the id at the next place comes next. -/
theorem Follows.concat {ids : List String} {id : String} (follows : graph.Follows ids)
    (next : graph.visit? ids.length = some id) : graph.Follows (ids ++ [id]) := by
  -- A place holds an old id, or it is the next one.
  intro place other found
  rcases Nat.lt_trichotomy place ids.length with inside | rfl | outside
  · rw [List.getElem?_append_left inside] at found
    exact follows place other found
  · simp only [List.getElem?_concat_length, Option.some.injEq] at found
    rwa [← found]
  · rw [List.getElem?_eq_none (by simp; omega)] at found
    cases found

/-- The ids that follow the chain are those at its first places. -/
theorem Follows.mem_iff {ids : List String} (follows : graph.Follows ids) (id : String) :
    id ∈ ids ↔ ∃ place < ids.length, graph.visit? place = some id := by
  -- Each place of the list has the id that the chain has there.
  constructor
  · intro member
    obtain ⟨place, inside, rfl⟩ := List.getElem_of_mem member
    exact ⟨place, inside, follows place _ (List.getElem?_eq_getElem inside)⟩
  · rintro ⟨place, inside, visited⟩
    have own := follows place _ (List.getElem?_eq_getElem inside)
    rw [visited] at own
    cases own
    exact List.getElem_mem inside

/-- From places of the same id on, the chain goes on alike. -/
theorem visit?_add {first second : Nat} (same : graph.visit? first = graph.visit? second) (more : Nat) :
    graph.visit? (first + more) = graph.visit? (second + more) := by
  -- The next id depends on the one before it alone.
  induction more with
  | zero => exact same
  | succ more ih =>
    show (graph.visit? (first + more)).bind graph.next? = (graph.visit? (second + more)).bind graph.next?
    rw [ih]

/-- A chain has no gaps. -/
theorem exists_visit?_of_le {place later : Nat} {id : String} (visited : graph.visit? later = some id)
    (before : place ≤ later) : ∃ other, graph.visit? place = some other := by
  -- Each place needs the one before it.
  induction later generalizing id with
  | zero =>
    obtain rfl : place = 0 := by omega
    exact ⟨id, visited⟩
  | succ later ih =>
    rcases Nat.eq_or_lt_of_le before with rfl | earlier
    · exact ⟨id, visited⟩
    · obtain ⟨other, visitedBefore, _⟩ := Option.bind_eq_some_iff.1 visited
      exact ih visitedBefore (by omega)

/-- Once the chain comes back to an earlier id, it has shown all its ids. -/
theorem visit?_of_repeat {first second : Nat} (earlier : first < second)
    (same : graph.visit? first = graph.visit? second) (place : Nat) :
    ∃ shown < second, graph.visit? place = graph.visit? shown := by
  -- Each later place is like one that lies as much before it as the two places are apart.
  induction place using Nat.strongRecOn with
  | ind place ih =>
    rcases Nat.lt_or_ge place second with inside | outside
    · exact ⟨place, inside, rfl⟩
    · have back := visit?_add same (place - second)
      rw [show second + (place - second) = place by omega] at back
      obtain ⟨shown, within, alike⟩ := ih (first + (place - second)) (by omega)
      exact ⟨shown, within, by rw [← back, alike]⟩

/-- A chain that comes to an id twice never ends. -/
theorem visit?_of_twice {first second : Nat} {id : String} (earlier : first < second)
    (once : graph.visit? first = some id) (twice : graph.visit? second = some id) (place : Nat) :
    ∃ other, graph.visit? place = some other := by
  -- Every place is like one before the second of the two.
  obtain ⟨shown, within, alike⟩ := visit?_of_repeat earlier (once.trans twice.symm) place
  rw [alike]
  exact exists_visit?_of_le twice (by omega)

/-- Ids that follow a chain that ends are different. -/
theorem Follows.nodup {ids : List String} (follows : graph.Follows ids) {last : Nat}
    (ended : graph.visit? last = none) : ids.Nodup := by
  -- Two equal ones would make the chain go on forever.
  rw [List.nodup_iff_pairwise_ne, List.pairwise_iff_getElem]
  intro first second inside insideToo earlier same
  have once := follows first _ (List.getElem?_eq_getElem inside)
  have twice := follows second _ (List.getElem?_eq_getElem insideToo)
  rw [← same] at twice
  obtain ⟨other, visited⟩ := visit?_of_twice earlier once twice last
  rw [ended] at visited
  cases visited

/-- The ids that nodes are declared with, repeated ones included. -/
def ids (graph : Graph) : List String := graph.nodes.map (·.id)

/-- An id that names a node is declared. -/
theorem mem_ids_of_node? {id : String} {node : Node} (named : graph.node? id = some node) :
    id ∈ graph.ids := by
  -- The node has that id.
  have member : node ∈ graph.nodes := List.mem_reverse.1 (List.mem_of_find?_eq_some named)
  exact List.mem_map.2 ⟨node, member, node?_id named⟩

/-- Different declared ids are no more than there are different declared ids. -/
theorem length_le_of_declared {ids : List String} (distinct : ids.Nodup)
    (declared : ∀ id ∈ ids, id ∈ graph.ids) : ids.length ≤ graph.ids.dedup.length := by
  -- They are some of these in another order.
  have within : ids ⊆ graph.ids.dedup := fun id member => List.mem_dedup.2 (declared id member)
  exact (List.subperm_of_subset distinct within).length_le

section Linked

variable (linked : graph.Linked)
include linked

/-- Every id of the chain of a linked graph names a node. -/
theorem Linked.named {place : Nat} {id : String} (visited : graph.visit? place = some id) :
    ∃ node, graph.node? id = some node := by
  -- It is the entry point, or a transition leads to it.
  cases place with
  | zero =>
    cases visited
    exact linked.entry
  | succ place =>
    obtain ⟨before, _, leads⟩ := Option.bind_eq_some_iff.1 visited
    exact linked.onward before id leads

/-- The chain of a linked graph ends at a node that finishes the run, and nowhere else. -/
theorem Linked.reachesEnd_iff : graph.ReachesEnd ↔ ∃ place, graph.visit? place = none := by
  constructor
  · rintro ⟨place, id, node, visited, named, finishes⟩
    exact ⟨place + 1, by simp [visit?, visited, next?, named, finishes, Transition.target?]⟩
  · -- The chain starts, so some place is the last before it ends.
    rintro ⟨place, ended⟩
    induction place with
    | zero => cases ended
    | succ place ih =>
      cases visited : graph.visit? place with
      | none => exact ih visited
      | some id =>
        obtain ⟨node, named⟩ := linked.named visited
        cases transition : node.transition with
        | finish => exact ⟨place, id, node, visited, named, transition⟩
        | node target =>
          simp [visit?, visited, next?, named, transition, Transition.target?] at ended

/-- Ids that follow the chain of a linked graph to its end are no more than there are different declared ids. -/
theorem Linked.length_le_of_follows {ids : List String} (follows : graph.Follows ids)
    (ends : graph.ReachesEnd) : ids.length ≤ graph.ids.dedup.length := by
  -- They are different, and each names a node.
  obtain ⟨last, ended⟩ := linked.reachesEnd_iff.1 ends
  refine length_le_of_declared (follows.nodup ended) fun id member => ?_
  obtain ⟨place, _, visited⟩ := (follows.mem_iff id).1 member
  obtain ⟨node, named⟩ := linked.named visited
  exact mem_ids_of_node? named

end Linked

/-- Ids that follow a chain to its end are all ids of the chain. -/
theorem Follows.mem_iff_of_end {ids : List String} (follows : graph.Follows ids)
    (ended : graph.visit? ids.length = none) (id : String) :
    id ∈ ids ↔ ∃ place, graph.visit? place = some id := by
  -- No place comes after the end.
  rw [follows.mem_iff]
  constructor
  · rintro ⟨place, _, visited⟩
    exact ⟨place, visited⟩
  · rintro ⟨place, visited⟩
    refine ⟨place, ?_, visited⟩
    by_contra outside
    obtain ⟨other, visitedEnd⟩ := exists_visit?_of_le visited (by omega : ids.length ≤ place)
    rw [ended] at visitedEnd
    cases visitedEnd

/-- Ids that follow a chain until it comes back to one of them are all ids of the chain. -/
theorem Follows.mem_iff_of_repeat {ids : List String} (follows : graph.Follows ids) {again : String}
    (member : again ∈ ids) (visitedAgain : graph.visit? ids.length = some again) (id : String) :
    id ∈ ids ↔ ∃ place, graph.visit? place = some id := by
  -- Every place is like one before the return.
  obtain ⟨first, earlier, once⟩ := (follows.mem_iff again).1 member
  rw [follows.mem_iff]
  constructor
  · rintro ⟨place, _, visited⟩
    exact ⟨place, visited⟩
  · rintro ⟨place, visited⟩
    obtain ⟨shown, within, alike⟩ := visit?_of_repeat earlier (once.trans visitedAgain.symm) place
    exact ⟨shown, within, by rw [← alike, visited]⟩

end Graph

end PipelineTrial
