import Mathlib.Data.List.Basic
import TypedConfig.Unit.Order

/-!
# The order of units respects their constraints

`visit` and `visitAll` are one walk: names are taken from a list, one after the other, and each new
name waits for its predecessors, which are taken in the same way. The relation `Placed` describes
the finished walks without a bound on their depth, so that the laws of an order are inductions over
one relation with three rules.

* `Placed.settled`: every name of the order stands behind all its predecessors.
* `Placed.nodup`, `Placed.mem_of_mem`, `Placed.forall_mem`: no name is repeated, none that was asked
  for is lost, and none comes from outside.
* `predecessors_eq_of_agree`: names without a unit have no influence on the predecessors.
* `sortedNames_respects_constraints`: the three together, for whole graphs.
-/

namespace TypedConfig.UnitGraph

/-! ### The walk -/

/-- One name of a walk: a name that is placed already is passed over, one that waits closes a
cycle, and any other is visited. -/
def place (predecessors : Text → List Text) (room : Nat) (path order : List Text) (name : Text) :
    Except (List Text) (List Text) :=
  if order.contains name then .ok order
  else if path.contains name then .error (cycleOf path name)
  else visit predecessors room path order name

theorem visit_succ (predecessors : Text → List Text) (room : Nat) (path order : List Text)
    (name : Text) :
    visit predecessors (room + 1) path order name =
      match (predecessors name).foldlM (place predecessors room (name :: path)) order with
      | .ok order => .ok (order ++ [name])
      | .error chain => .error chain := rfl

theorem visitAll_eq_foldlM (predecessors : Text → List Text) (room : Nat)
    (order names : List Text) :
    visitAll predecessors room order names = names.foldlM (place predecessors room []) order := by
  induction names generalizing order with
  | nil => rfl
  | cons name names ih =>
    rw [List.foldlM_cons, visitAll, place]
    by_cases known : order.contains name
    · rw [if_pos known, if_pos known]
      exact ih order
    · rw [if_neg known, if_neg known, if_neg (by simp)]
      cases visited : visit predecessors room [] order name with
      | error chain => rfl
      | ok result => exact ih result

/-- `Placed predecessors path order names result`: while the names of a path wait, walking over
`names` turns one order into another. -/
inductive Placed (predecessors : Text → List Text) :
    (path order names result : List Text) → Prop
  | done {path order : List Text} : Placed predecessors path order [] order
  | known {path order names result : List Text} {name : Text} (placed : name ∈ order)
      (rest : Placed predecessors path order names result) :
      Placed predecessors path order (name :: names) result
  | visited {path order names inner result : List Text} {name : Text} (new : name ∉ order)
      (free : name ∉ path)
      (needed : Placed predecessors (name :: path) order (predecessors name) inner)
      (rest : Placed predecessors path (inner ++ [name]) names result) :
      Placed predecessors path order (name :: names) result

/-- What taking one name of a walk has done when it did not close a cycle. -/
theorem place_eq_ok {predecessors : Text → List Text} {room : Nat} {path order result : List Text}
    {name : Text} (taken : place predecessors room path order name = .ok result) :
    (name ∈ order ∧ result = order)
      ∨ name ∉ order ∧ name ∉ path ∧ ∃ less inner, less < room
        ∧ (predecessors name).foldlM (place predecessors less (name :: path)) order = .ok inner
        ∧ result = inner ++ [name] := by
  rw [place] at taken
  by_cases known : order.contains name
  · rw [if_pos known] at taken
    cases taken
    exact .inl ⟨List.contains_iff_mem.1 known, rfl⟩
  · rw [if_neg known] at taken
    by_cases waits : path.contains name
    · rw [if_pos waits] at taken
      cases taken
    · rw [if_neg waits] at taken
      refine .inr ⟨mt List.contains_iff_mem.2 known, mt List.contains_iff_mem.2 waits, ?_⟩
      cases room with
      | zero => cases taken
      | succ less =>
        rw [visit_succ] at taken
        split at taken
        next inner walked =>
          cases taken
          exact ⟨less, inner, Nat.lt_succ_self less, walked, rfl⟩
        next => cases taken

/-- A walk that ends without a cycle is a finished walk. -/
theorem placed_of_foldlM {predecessors : Text → List Text} {room : Nat}
    {path order names result : List Text}
    (walked : names.foldlM (place predecessors room path) order = .ok result) :
    Placed predecessors path order names result := by
  induction room using Nat.strongRecOn generalizing path order names result with
  | ind room deeper =>
    induction names generalizing order with
    | nil =>
      cases walked
      exact .done
    | cons name names rest =>
      rw [List.foldlM_cons] at walked
      cases taken : place predecessors room path order name with
      | error chain =>
        rw [taken] at walked
        cases walked
      | ok next =>
        rw [taken] at walked
        rcases place_eq_ok taken with ⟨known, rfl⟩ | ⟨new, free, less, inner, smaller, inside, rfl⟩
        · exact .known known (rest walked)
        · exact .visited new free (deeper less smaller inside) (rest walked)

/-! ### What a finished walk does to an order -/

/-- Every name of an order stands behind all its predecessors. -/
def Settled (predecessors : Text → List Text) (order : List Text) : Prop :=
  ∀ front name back, order = front ++ name :: back → ∀ needed ∈ predecessors name, needed ∈ front

theorem settled_nil (predecessors : Text → List Text) : Settled predecessors [] := by
  intro front name back same
  cases front <;> cases same

theorem settled_concat {predecessors : Text → List Text} {order : List Text} {name : Text}
    (settled : Settled predecessors order) (ready : ∀ needed ∈ predecessors name, needed ∈ order) :
    Settled predecessors (order ++ [name]) := by
  intro front other back same
  rcases List.eq_nil_or_concat back with rfl | ⟨back, last, rfl⟩
  · obtain ⟨rfl, last⟩ := List.append_inj' same rfl
    cases last
    exact ready
  · rw [List.concat_eq_append, ← List.cons_append, ← List.append_assoc] at same
    exact settled front other back (List.append_inj' same rfl).1

namespace Placed

variable {predecessors : Text → List Text} {path order names result : List Text}

/-- What is placed stays. -/
theorem subset (walk : Placed predecessors path order names result) : order ⊆ result := by
  induction walk with
  | done => exact List.Subset.refl _
  | known _ _ ih => exact ih
  | visited _ _ _ _ inner rest =>
    exact fun name mem => rest (List.mem_append_left _ (inner mem))

/-- No name that was asked for is lost. -/
theorem mem_of_mem (walk : Placed predecessors path order names result) :
    ∀ name ∈ names, name ∈ result := by
  induction walk with
  | done => exact fun _ mem => nomatch mem
  | known placed rest ih =>
    intro name mem
    rcases List.mem_cons.1 mem with rfl | mem
    · exact rest.subset placed
    · exact ih name mem
  | visited _ _ _ rest _ ih =>
    intro name mem
    rcases List.mem_cons.1 mem with rfl | mem
    · exact rest.subset (by simp)
    · exact ih name mem

/-- A name that waits is not placed. -/
theorem mem_order_of_mem_path (walk : Placed predecessors path order names result) {name : Text}
    (waits : name ∈ path) (mem : name ∈ result) : name ∈ order := by
  induction walk with
  | done => exact mem
  | known _ _ ih => exact ih waits mem
  | visited _ free _ _ inner rest =>
    rcases List.mem_append.1 (rest waits mem) with mem | mem
    · exact inner (List.mem_cons_of_mem _ waits) mem
    · rw [List.mem_singleton.1 mem] at waits
      exact absurd waits free

/-- No name is placed twice. -/
theorem nodup (walk : Placed predecessors path order names result) (distinct : order.Nodup) :
    result.Nodup := by
  induction walk with
  | done => exact distinct
  | known _ _ ih => exact ih distinct
  | visited new _ needed _ inner rest =>
    refine rest (List.nodup_append.2 ⟨inner distinct, by simp, ?_⟩)
    intro name mem last same
    rw [List.mem_singleton] at same
    rintro rfl
    subst same
    exact new (needed.mem_order_of_mem_path List.mem_cons_self mem)

/-- A property of the names of a list that passes on to predecessors holds of all that is placed. -/
theorem forall_mem {holds : Text → Prop} (walk : Placed predecessors path order names result)
    (passed : ∀ name, holds name → ∀ needed ∈ predecessors name, holds needed)
    (before : ∀ name ∈ order, holds name) (asked : ∀ name ∈ names, holds name) :
    ∀ name ∈ result, holds name := by
  induction walk with
  | done => exact before
  | known _ _ ih => exact ih before fun name mem => asked name (List.mem_cons_of_mem _ mem)
  | visited _ _ _ _ inner rest =>
    have here := asked _ List.mem_cons_self
    refine rest (fun name mem => ?_) fun name mem => asked name (List.mem_cons_of_mem _ mem)
    rcases List.mem_append.1 mem with mem | mem
    · exact inner before (passed _ here) name mem
    · rw [List.mem_singleton.1 mem]
      exact here

/-- **A walk keeps an order settled**: a name is placed when its predecessors are. -/
theorem settled (walk : Placed predecessors path order names result)
    (before : Settled predecessors order) : Settled predecessors result := by
  induction walk with
  | done => exact before
  | known _ _ ih => exact ih before
  | visited _ _ needed _ inner rest => exact rest (settled_concat (inner before) needed.mem_of_mem)

end Placed

/-- In a settled order without repetition, a predecessor stands in front. -/
theorem idxOf_lt_idxOf {predecessors : Text → List Text} {order : List Text} {first second : Text}
    (settled : Settled predecessors order) (distinct : order.Nodup) (mem : second ∈ order)
    (needed : first ∈ predecessors second) : order.idxOf first < order.idxOf second := by
  obtain ⟨front, back, rfl⟩ := List.append_of_mem mem
  have inFront : first ∈ front := settled front second back rfl first needed
  have notInFront : second ∉ front := fun mem =>
    (List.nodup_append.1 distinct).2.2 second mem second List.mem_cons_self rfl
  rw [List.idxOf_append_of_mem inFront, List.idxOf_append_of_notMem notInFront]
  exact Nat.lt_add_right _ (List.idxOf_lt_length_of_mem inFront)

/-! ### Predecessors -/

/-- One of two units asks that the first run before the second. -/
def MustPrecede (first second : ConfigUnit) : Prop :=
  second.name ∈ first.before ∨ first.name ∈ second.after

theorem precedes_iff {first second : ConfigUnit} :
    precedes first second ↔ MustPrecede first second := by
  rw [precedes, Bool.or_eq_true, List.contains_iff_mem, List.contains_iff_mem, MustPrecede]

/-- The unit of a name is the registered one. -/
theorem find?_eq_some_of_mem {graph : UnitGraph} {unit : ConfigUnit} (mem : unit ∈ graph.units) :
    graph.find? unit.name = some unit := by
  obtain ⟨front, back, same⟩ := List.append_of_mem mem
  have distinct := graph.distinct
  rw [same, List.map_append, List.map_cons, List.nodup_append] at distinct
  rw [find?, same, List.find?_append, List.find?_eq_none.2, Option.none_or, List.find?_cons_of_pos]
  · simp
  · intro other inFront
    simpa using distinct.2.2 other.name (List.mem_map_of_mem inFront) unit.name List.mem_cons_self

theorem mem_predecessors_of_mustPrecede {graph : UnitGraph} {first second : ConfigUnit}
    (firstMem : first ∈ graph.units) (secondMem : second ∈ graph.units)
    (constraint : MustPrecede first second) : first.name ∈ graph.predecessors second.name := by
  rw [predecessors, find?_eq_some_of_mem secondMem]
  exact List.mem_map_of_mem (List.mem_filter.2 ⟨firstMem, precedes_iff.2 constraint⟩)

theorem mem_names_of_mem_predecessors {graph : UnitGraph} {name needed : Text}
    (mem : needed ∈ graph.predecessors name) : needed ∈ graph.names := by
  rw [predecessors] at mem
  split at mem
  · obtain ⟨unit, kept, rfl⟩ := List.mem_map.1 mem
    exact List.mem_map_of_mem (List.mem_filter.1 kept).1
  · cases mem

/-- Two units of one name ask for the same constraints with the units of a list of names; they may
name units outside the list, name one several times, and list names in any order. -/
structure AgreeAmong (names : List Text) (first second : ConfigUnit) : Prop where
  name : first.name = second.name
  before : ∀ name ∈ names, name ∈ first.before ↔ name ∈ second.before
  after : ∀ name ∈ names, name ∈ first.after ↔ name ∈ second.after

theorem precedes_eq_of_agree {names : List Text} {first second first' second' : ConfigUnit}
    (firstAgrees : AgreeAmong names first first') (secondAgrees : AgreeAmong names second second')
    (firstMem : first.name ∈ names) (secondMem : second.name ∈ names) :
    precedes first' second' = precedes first second := by
  rw [Bool.eq_iff_iff, precedes_iff, precedes_iff, MustPrecede, MustPrecede, ← firstAgrees.name,
    ← secondAgrees.name, firstAgrees.before _ secondMem, secondAgrees.after _ firstMem]

theorem names_eq_of_agree {names : List Text} {units units' : List ConfigUnit}
    (agree : List.Forall₂ (AgreeAmong names) units units') :
    units'.map ConfigUnit.name = units.map ConfigUnit.name := by
  induction agree with
  | nil => rfl
  | cons head _ ih => rw [List.map_cons, List.map_cons, ih, head.name]

/-- The units of a name in two lists that agree, which are both there or both missing. -/
theorem find?_of_agree {agrees : ConfigUnit → ConfigUnit → Prop} {units units' : List ConfigUnit}
    (named : ∀ unit unit', agrees unit unit' → unit.name = unit'.name)
    (agree : List.Forall₂ agrees units units') (name : Text) :
    (units.find? (fun unit => unit.name = name) = none
        ∧ units'.find? (fun unit => unit.name = name) = none)
      ∨ ∃ unit unit', units.find? (fun unit => unit.name = name) = some unit
        ∧ units'.find? (fun unit => unit.name = name) = some unit'
        ∧ agrees unit unit' ∧ unit ∈ units := by
  induction agree with
  | nil => exact .inl ⟨rfl, rfl⟩
  | @cons unit unit' units units' head _ ih =>
    have same := named unit unit' head
    by_cases here : unit.name = name
    · refine .inr ⟨unit, unit', ?_, ?_, head, List.mem_cons_self⟩
      · rw [List.find?_cons_of_pos (by simpa using here)]
      · rw [List.find?_cons_of_pos (by simpa [← same] using here)]
    · rw [List.find?_cons_of_neg (by simpa using here),
        List.find?_cons_of_neg (by simpa [← same] using here)]
      rcases ih with missing | ⟨found, found', first, second, alike, mem⟩
      · exact .inl missing
      · exact .inr ⟨found, found', first, second, alike, List.mem_cons_of_mem _ mem⟩

theorem filter_names_of_agree {names : List Text} {units units' : List ConfigUnit}
    {unit unit' : ConfigUnit} (agree : List.Forall₂ (AgreeAmong names) units units')
    (registered : ∀ other ∈ units, other.name ∈ names) (agrees : AgreeAmong names unit unit')
    (mem : unit.name ∈ names) :
    (units'.filter fun other => precedes other unit').map ConfigUnit.name
      = (units.filter fun other => precedes other unit).map ConfigUnit.name := by
  induction agree with
  | nil => rfl
  | @cons other other' units units' head _ ih =>
    have same := precedes_eq_of_agree head agrees (registered _ List.mem_cons_self) mem
    have rest := ih fun other mem => registered other (List.mem_cons_of_mem _ mem)
    rw [List.filter_cons, List.filter_cons, same]
    split
    · rw [List.map_cons, List.map_cons, rest, head.name]
    · exact rest

/-- **Names without a unit have no influence**: the predecessors depend on the constraints between
registered units only. -/
theorem predecessors_eq_of_agree {graph other : UnitGraph}
    (agree : List.Forall₂ (AgreeAmong graph.names) graph.units other.units) :
    other.predecessors = graph.predecessors := by
  funext name
  have registered : ∀ unit ∈ graph.units, unit.name ∈ graph.names :=
    fun unit mem => List.mem_map_of_mem mem
  rw [predecessors, predecessors, find?, find?]
  rcases find?_of_agree (fun _ _ agrees => agrees.name) agree name with
    ⟨missing, missing'⟩ | ⟨unit, unit', found, found', agrees, mem⟩
  · rw [missing, missing']
  · rw [found, found']
    exact filter_names_of_agree agree registered agrees (registered unit mem)

/-! ### Whole graphs -/

/-- A graph that can be sorted has a finished walk over its names. -/
theorem placed_of_sortedNames {graph : UnitGraph} {order : List Text}
    (sorted : graph.sortedNames = .ok order) :
    Placed graph.predecessors [] [] graph.names order := by
  rw [sortedNames, visitAll_eq_foldlM] at sorted
  cases walked : graph.names.foldlM (place graph.predecessors (graph.units.length + 1) []) [] with
  | error chain =>
    rw [walked] at sorted
    cases sorted
  | ok result =>
    rw [walked] at sorted
    cases sorted
    exact placed_of_foldlM walked

theorem perm_names_of_sortedNames {graph : UnitGraph} {order : List Text}
    (sorted : graph.sortedNames = .ok order) : order.Perm graph.names := by
  have walk := placed_of_sortedNames sorted
  refine (List.perm_ext_iff_of_nodup (walk.nodup List.nodup_nil) graph.distinct).2 fun name => ?_
  refine ⟨fun mem => ?_, walk.mem_of_mem name⟩
  exact walk.forall_mem (fun _ _ _ mem => mem_names_of_mem_predecessors mem)
    (fun _ mem => nomatch mem) (fun _ mem => mem) name mem

/-- **The order of a graph.** When the units can be sorted, the order holds every registered name
once, and a unit stands strictly in front of those that have to run after it, whichever of the two
says so. Names without a unit, repetitions and the order of the constraints have no influence. -/
theorem sortedNames_respects_constraints (graph : UnitGraph) :
    (∀ order, graph.sortedNames = .ok order →
      order.Perm graph.names
        ∧ ∀ first ∈ graph.units, ∀ second ∈ graph.units, MustPrecede first second →
          order.idxOf first.name < order.idxOf second.name)
    ∧ ∀ other : UnitGraph, List.Forall₂ (AgreeAmong graph.names) graph.units other.units →
      other.sortedNames = graph.sortedNames := by
  refine ⟨fun order sorted => ?_, fun other agree => ?_⟩
  · have perm := perm_names_of_sortedNames sorted
    have walk := placed_of_sortedNames sorted
    refine ⟨perm, fun first firstMem second secondMem constraint => ?_⟩
    exact idxOf_lt_idxOf (walk.settled (settled_nil _)) (walk.nodup List.nodup_nil)
      (perm.mem_iff.2 (List.mem_map_of_mem secondMem))
      (mem_predecessors_of_mustPrecede firstMem secondMem constraint)
  · have names : other.names = graph.names := names_eq_of_agree agree
    have length : other.units.length = graph.units.length := by
      simpa [UnitGraph.names] using congrArg List.length names
    rw [sortedNames, sortedNames, predecessors_eq_of_agree agree, names, length]

/-- A unit that does nothing, with its constraints. -/
def idleUnit (name : Text) (before after : List Text) : ConfigUnit :=
  ⟨name, [], [], fun _ => .ok (), .empty, before, after⟩

/-- A graph with a name without a unit, a repeated name, and one constraint in both spellings. -/
def crowdedGraph : UnitGraph :=
  ⟨[idleUnit "A" ["B", "B"] ["ghost"], idleUnit "B" [] ["A", "A"], idleUnit "C" ["ghost", "B"] []],
    by decide⟩

/-- The same graph without what has no influence. -/
def tidyGraph : UnitGraph :=
  ⟨[idleUnit "A" ["B"] [], idleUnit "B" [] ["A"], idleUnit "C" ["B"] []], by decide⟩

/-- The order of both. -/
def crowdedOrder : List Text := ["A", "C", "B"]

theorem crowdedGraph_order :
    crowdedGraph.sortedNames = .ok crowdedOrder
      ∧ crowdedOrder.Perm crowdedGraph.names
      ∧ MustPrecede (idleUnit "C" ["ghost", "B"] []) (idleUnit "B" [] ["A", "A"])
      ∧ crowdedOrder.idxOf "C".toList < crowdedOrder.idxOf "B".toList
      ∧ tidyGraph.sortedNames = crowdedGraph.sortedNames := by
  have sorted : crowdedGraph.sortedNames = .ok crowdedOrder := rfl
  have constraint : MustPrecede (idleUnit "C" ["ghost", "B"] []) (idleUnit "B" [] ["A", "A"]) :=
    .inl (by decide)
  have respects := (sortedNames_respects_constraints crowdedGraph).1 _ sorted
  refine ⟨sorted, respects.1, constraint, ?_, ?_⟩
  · exact respects.2 _ (by simp [crowdedGraph]) _ (by simp [crowdedGraph]) constraint
  · refine (sortedNames_respects_constraints crowdedGraph).2 tidyGraph ?_
    refine .cons ⟨rfl, ?_, ?_⟩ (.cons ⟨rfl, ?_, ?_⟩ (.cons ⟨rfl, ?_, ?_⟩ .nil)) <;> decide

end TypedConfig.UnitGraph
