import Mathlib.Data.List.Chain
import Mathlib.Data.List.Nodup
import TypedConfig.Proofs.Except
import TypedConfig.Proofs.Unit.Order

/-!
# Cycles of units

The names that wait for one another form a path along the constraints. A walk stops only when a name
that waits is needed again, and the part of the path from that name on is then a cycle.

* `Waiting`: what holds of the names that wait: none waits twice, and each is needed by the next.
* `closedChain_of_place`: a walk that stops has closed such a path. The room it is given is never
  used up, because the names that wait are different registered names.
* `Respects`, `respects_of_sortedNames`: in a sorted order, every constraint points forwards.
* `irreflexive_of_sortedNames`: a graph with an order therefore has no cycle.
* `sortedNames_error_iff`: both together, for whole graphs.
-/

namespace TypedConfig.UnitGraph

/-! ### Paths of names that wait -/

/-- The names of a path are different names of a list, and each is needed by the one behind it. -/
structure Waiting (predecessors : Text → List Text) (names path : List Text) : Prop where
  distinct : path.Nodup
  listed : path ⊆ names
  needed : path.IsChain fun needed name => needed ∈ predecessors name

/-- A chain of names that comes back to its first name; each name needs the one behind it. -/
structure ClosedChain (needs : Text → Text → Prop) (names chain : List Text) : Prop where
  long : 2 ≤ chain.length
  closed : chain.head? = chain.getLast?
  distinct : chain.dropLast.Nodup
  listed : ∀ name ∈ chain, name ∈ names
  linked : chain.IsChain needs

variable {predecessors : Text → List Text} {names path : List Text}

/-- The names that wait behind `name` come in the order in which they began to wait. -/
theorem cycleOf_append {front back : List Text} {name : Text} (other : name ∉ back) :
    cycleOf (front ++ name :: back) name = name :: front.reverse ++ [name] := by
  have passed : ∀ before ∈ back.reverse, (before != name) = true := by
    intro before mem
    rw [bne_iff_ne]
    rintro rfl
    exact other (List.mem_reverse.1 mem)
  have reversed : (front ++ name :: back).reverse = back.reverse ++ name :: front.reverse := by simp
  unfold cycleOf
  rw [reversed, List.dropWhile_append_of_pos passed, List.dropWhile_cons_of_neg (by simp)]

/-- **A name that is needed while it waits closes a cycle.** -/
theorem Waiting.closedChain (waiting : Waiting predecessors names path) {name : Text}
    (mem : name ∈ path) (needed : ∀ last ∈ path.head?, name ∈ predecessors last) :
    ClosedChain (fun name needed => needed ∈ predecessors name) names (cycleOf path name) := by
  obtain ⟨front, back, rfl⟩ := List.append_of_mem mem
  have distinct := List.nodup_append.1 waiting.distinct
  have notFront : name ∉ front := fun inFront =>
    distinct.2.2 name inFront name List.mem_cons_self rfl
  have notBack : name ∉ back := (List.nodup_cons.1 distinct.2.1).1
  rw [cycleOf_append notBack]
  have round : (name :: front ++ name :: back).IsChain
      fun needed name => needed ∈ predecessors name :=
    List.isChain_cons.2 ⟨needed, waiting.needed⟩
  refine ⟨by simp, ?_, ?_, ?_, ?_⟩
  · rw [List.getLast?_concat]
    rfl
  · rw [List.dropLast_concat, List.nodup_cons, List.mem_reverse]
    exact ⟨notFront, List.nodup_reverse.2 distinct.1⟩
  · intro other inChain
    refine waiting.listed ?_
    simp only [List.mem_append, List.mem_cons, List.mem_reverse] at inChain ⊢
    tauto
  · have same : name :: front.reverse ++ [name] = (name :: front ++ [name]).reverse := by simp
    rw [same, List.isChain_reverse]
    exact (List.isChain_split.1 round).1

/-- A further name that is needed can wait as well, unless it waits already. -/
theorem Waiting.cons (waiting : Waiting predecessors names path) {name : Text} (free : name ∉ path)
    (listed : name ∈ names) (needed : ∀ last ∈ path.head?, name ∈ predecessors last) :
    Waiting predecessors names (name :: path) :=
  ⟨List.nodup_cons.2 ⟨free, waiting.distinct⟩, List.cons_subset.2 ⟨listed, waiting.listed⟩,
    List.isChain_cons.2 ⟨needed, waiting.needed⟩⟩

/-- **A walk that stops reports a cycle.** The induction is on the room: every name that begins to
wait takes one place of it, and there is room for one more than all names of the list. -/
theorem closedChain_of_place {room : Nat} {order chain : List Text} {name : Text}
    (inside : ∀ name, ∀ needed ∈ predecessors name, needed ∈ names)
    (waiting : Waiting predecessors names path) (listed : name ∈ names)
    (needed : ∀ last ∈ path.head?, name ∈ predecessors last)
    (enough : names.length < room + path.length)
    (stopped : place predecessors room path order name = .error chain) :
    ClosedChain (fun name needed => needed ∈ predecessors name) names chain := by
  induction room generalizing path order name with
  | zero =>
    have fits : path.length ≤ names.length := waiting.distinct.length_le_of_subset waiting.listed
    omega
  | succ room deeper =>
    rw [place] at stopped
    by_cases known : order.contains name
    · rw [if_pos known] at stopped
      cases stopped
    · rw [if_neg known] at stopped
      by_cases waits : path.contains name
      · rw [if_pos waits] at stopped
        cases stopped
        exact waiting.closedChain (List.contains_iff_mem.1 waits) needed
      · rw [if_neg waits, visit_succ] at stopped
        split at stopped
        next => cases stopped
        next chain' walked =>
          cases stopped
          obtain ⟨earlier, mem, reached, here⟩ := exists_of_foldlM_eq_error walked
          have more := waiting.cons (mt List.contains_iff_mem.2 waits) listed needed
          refine deeper more (inside name earlier mem) ?_ ?_ here
          · intro last first
            cases first
            exact mem
          · rw [List.length_cons]
            omega

/-! ### Whole graphs -/

/-- A declared constraint asks that the unit of one name run before the unit of another. -/
def Ordered (graph : UnitGraph) (earlier later : Text) : Prop :=
  ∃ first ∈ graph.units, ∃ second ∈ graph.units,
    first.name = earlier ∧ second.name = later ∧ MustPrecede first second

theorem mem_predecessors_iff {graph : UnitGraph} {earlier later : Text} :
    earlier ∈ graph.predecessors later ↔ graph.Ordered earlier later := by
  constructor
  · intro mem
    rw [predecessors] at mem
    split at mem
    next second found =>
      obtain ⟨first, kept, rfl⟩ := List.mem_map.1 mem
      obtain ⟨firstMem, constraint⟩ := List.mem_filter.1 kept
      refine ⟨first, firstMem, second, List.mem_of_find?_eq_some found, rfl, ?_, ?_⟩
      · simpa using List.find?_some found
      · exact precedes_iff.1 constraint
    next => cases mem
  · rintro ⟨first, firstMem, second, secondMem, rfl, rfl, constraint⟩
    exact mem_predecessors_of_mustPrecede firstMem secondMem constraint

/-- Constraints are between registered units. -/
theorem Ordered.mem_names {graph : UnitGraph} {earlier later : Text}
    (ordered : graph.Ordered earlier later) : later ∈ graph.names := by
  obtain ⟨_, _, second, mem, -, rfl, -⟩ := ordered
  exact List.mem_map_of_mem mem

/-- A graph that cannot be sorted is reported as a cycle of its constraints. -/
theorem exists_closedChain_of_sortedNames {graph : UnitGraph} {error : UnitError}
    (failed : graph.sortedNames = .error error) :
    ∃ chain, error = .cycle chain
      ∧ ClosedChain (fun name needed => graph.Ordered needed name) graph.names chain := by
  rw [sortedNames, visitAll_eq_foldlM] at failed
  cases walked : graph.names.foldlM (place graph.predecessors (graph.units.length + 1) []) [] with
  | ok order =>
    rw [walked] at failed
    cases failed
  | error chain =>
    rw [walked] at failed
    cases failed
    obtain ⟨name, mem, reached, stopped⟩ := exists_of_foldlM_eq_error walked
    have nothing : Waiting graph.predecessors graph.names [] :=
      ⟨List.nodup_nil, List.nil_subset _, .nil⟩
    have enough : graph.names.length < graph.units.length + 1 + ([] : List Text).length := by
      simp [UnitGraph.names]
    have closed := closedChain_of_place (fun _ _ => mem_names_of_mem_predecessors) nothing mem
      (by simp) enough stopped
    refine ⟨chain, rfl, closed.long, closed.closed, closed.distinct, closed.listed, ?_⟩
    exact closed.linked.imp fun _ _ => mem_predecessors_iff.1

theorem ClosedChain.exists_transGen {needs : Text → Text → Prop} {chain : List Text}
    (closed : ClosedChain needs names chain) : ∃ name, Relation.TransGen needs name name := by
  match chain, closed.long, closed.closed, closed.linked with
  | first :: second :: rest, _, same, linked =>
    obtain ⟨step, walk⟩ := List.isChain_cons_cons.1 linked
    have back : (second :: rest).getLast (by simp) = first := by
      rw [List.head?_cons, List.getLast?_cons_cons, List.getLast?_eq_some_getLast (by simp)] at same
      exact (Option.some.inj same).symm
    exact ⟨first, .head' step (List.relationReflTransGen_of_exists_isChain_cons rest walk back)⟩

/-- The constraints of a graph all point forwards in a list of names. -/
def Respects (graph : UnitGraph) (order : List Text) : Prop :=
  ∀ earlier later, graph.Ordered earlier later → order.idxOf earlier < order.idxOf later

theorem respects_of_sortedNames {graph : UnitGraph} {order : List Text}
    (sorted : graph.sortedNames = .ok order) : graph.Respects order := by
  have walk := placed_of_sortedNames sorted
  rintro earlier later ⟨first, firstMem, second, secondMem, rfl, rfl, constraint⟩
  exact idxOf_lt_idxOf (walk.settled (settled_nil _)) (walk.nodup List.nodup_nil)
    (walk.mem_of_mem _ (List.mem_map_of_mem secondMem))
    (mem_predecessors_of_mustPrecede firstMem secondMem constraint)

/-- A graph that can be sorted has no cycle: along the constraints, names stand further and further
behind in the order. -/
theorem irreflexive_of_sortedNames {graph : UnitGraph} {order : List Text}
    (sorted : graph.sortedNames = .ok order) (name : Text) :
    ¬ Relation.TransGen graph.Ordered name name := by
  intro round
  have further : ∀ later, Relation.TransGen graph.Ordered name later →
      order.idxOf name < order.idxOf later := by
    intro later steps
    induction steps with
    | single step => exact respects_of_sortedNames sorted _ _ step
    | tail _ step ih => exact ih.trans (respects_of_sortedNames sorted _ _ step)
  exact absurd (further name round) (Nat.lt_irrefl _)

/-- **Cycles are found exactly where there are any, and the report is genuine.** A graph cannot be
sorted if and only if its constraints lead from some registered name back to it, and the error then
shows such a way: at least two names, all registered, the last one the first again and none else
repeated, each of them required to run before the one in front of it. -/
theorem sortedNames_error_iff (graph : UnitGraph) :
    ((∃ error, graph.sortedNames = .error error)
        ↔ ∃ name, Relation.TransGen graph.Ordered name name)
      ∧ ∀ error, graph.sortedNames = .error error → ∃ chain, error = .cycle chain
        ∧ ClosedChain (fun name needed => graph.Ordered needed name) graph.names chain := by
  refine ⟨⟨?_, ?_⟩, fun error => exists_closedChain_of_sortedNames⟩
  · rintro ⟨error, failed⟩
    obtain ⟨chain, -, closed⟩ := exists_closedChain_of_sortedNames failed
    obtain ⟨name, round⟩ := closed.exists_transGen
    exact ⟨name, Relation.transGen_swap.1 round⟩
  · rintro ⟨name, round⟩
    cases outcome : graph.sortedNames with
    | error error => exact ⟨error, rfl⟩
    | ok order => exact absurd round (irreflexive_of_sortedNames outcome name)

/-- Three units that wait for one another in a ring, behind one that waits for none of them. -/
def ringGraph : UnitGraph :=
  ⟨[idleUnit "D" [] ["ghost"], idleUnit "A" ["B"] ["C"], idleUnit "B" ["C"] [],
    idleUnit "C" [] ["B"]], by decide⟩

theorem ringGraph_cycle :
    ringGraph.sortedNames = .error (.cycle ["A", "C", "B", "A"])
      ∧ (∃ name, Relation.TransGen ringGraph.Ordered name name)
      ∧ ClosedChain (fun name needed => ringGraph.Ordered needed name) ringGraph.names
        ["A", "C", "B", "A"] := by
  have failed : ringGraph.sortedNames = .error (.cycle ["A", "C", "B", "A"]) := rfl
  obtain ⟨chain, same, closed⟩ := (sortedNames_error_iff ringGraph).2 _ failed
  cases same
  exact ⟨failed, (sortedNames_error_iff ringGraph).1.1 ⟨_, failed⟩, closed⟩

end TypedConfig.UnitGraph
