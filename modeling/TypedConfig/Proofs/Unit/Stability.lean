import TypedConfig.Proofs.Unit.Cycle
import TypedConfig.Proofs.Unit.Run

/-!
# Why units leave the order of registration

Names are taken in the order in which they were registered, and a name is put in front of others
only because one of those that were taken waits for it.

* `Placed.exists_split`, `Placed.isPrefix`: a walk over a list begins with a walk over its front,
  and what that places stays in front.
* `Placed.exists_asked`: what a walk places is asked for, or one that is asked for waits for it.
* `exists_waiting_of_overtaken`: a name that overtakes an earlier one is needed by a name that was
  registered no later than that one.
* `sortedNames_of_ordered`: an order of registration that respects all constraints is kept.
* `sortedNames_is_stable`: what follows for whole graphs.
-/

namespace TypedConfig.UnitGraph

namespace Placed

variable {predecessors : Text → List Text} {path order front back names result : List Text}

/-- What is placed stays where it is. -/
theorem isPrefix (walk : Placed predecessors path order names result) : order <+: result := by
  induction walk with
  | done => exact List.prefix_refl _
  | known _ _ ih => exact ih
  | visited _ _ _ _ inner rest => exact inner.trans ((List.prefix_append _ _).trans rest)

/-- A walk over a list begins with a walk over its front. -/
theorem exists_split (walk : Placed predecessors path order (front ++ back) result) :
    ∃ middle, Placed predecessors path order front middle
      ∧ Placed predecessors path middle back result := by
  induction front generalizing order with
  | nil => exact ⟨order, .done, walk⟩
  | cons name front ih =>
    cases walk with
    | known placed rest =>
      obtain ⟨middle, first, second⟩ := ih rest
      exact ⟨middle, .known placed first, second⟩
    | visited new free needed rest =>
      obtain ⟨middle, first, second⟩ := ih rest
      exact ⟨middle, .visited new free needed first, second⟩

/-- **What a walk places is asked for, or one that is asked for waits for it**, directly or through
others. -/
theorem exists_asked (walk : Placed predecessors path [] names result) :
    ∀ name ∈ result, ∃ asked ∈ names,
      Relation.ReflTransGen (fun earlier later => earlier ∈ predecessors later) name asked := by
  refine walk.forall_mem ?_ (List.forall_mem_nil _) fun name mem => ⟨name, mem, .refl⟩
  rintro name ⟨asked, mem, steps⟩ needed first
  exact ⟨asked, mem, .head first steps⟩

end Placed

variable {graph : UnitGraph} {order : List Text}

/-! ### Constraints that are looked up -/

instance (graph : UnitGraph) (earlier later : Text) : Decidable (graph.Ordered earlier later) :=
  decidable_of_iff ((graph.predecessors later).contains earlier)
    (List.contains_iff_mem.trans mem_predecessors_iff)

theorem respects_iff :
    graph.Respects order ↔ ∀ later ∈ graph.names, ∀ earlier ∈ graph.predecessors later,
      order.idxOf earlier < order.idxOf later := by
  constructor
  · exact fun respects later _ earlier needed =>
      respects earlier later (mem_predecessors_iff.1 needed)
  · exact fun forwards earlier later ordered =>
      forwards later ordered.mem_names earlier (mem_predecessors_iff.2 ordered)

instance (graph : UnitGraph) (order : List Text) : Decidable (graph.Respects order) :=
  decidable_of_iff _ respects_iff.symm

/-! ### Overtaking -/

/-- **A name overtakes an earlier one only because it is needed**: some name that was registered no
later than the one that is overtaken waits for it. -/
theorem exists_waiting_of_overtaken (sorted : graph.sortedNames = .ok order)
    {front back : List Text} {earlier later : Text}
    (registered : graph.names = front ++ earlier :: back) (mem : later ∈ back)
    (overtaken : order.idxOf later < order.idxOf earlier) :
    ∃ root ∈ front ++ [earlier], Relation.TransGen graph.Ordered later root := by
  have walk := placed_of_sortedNames sorted
  have distinct : (front ++ [earlier] ++ back).Nodup := by
    rw [List.append_assoc, List.singleton_append, ← registered]
    exact graph.distinct
  rw [registered, ← List.singleton_append, ← List.append_assoc] at walk
  obtain ⟨middle, first, second⟩ := walk.exists_split
  obtain ⟨more, rfl⟩ := second.isPrefix
  have placed : earlier ∈ middle := first.mem_of_mem earlier (by simp)
  -- The walk up to the overtaken name has placed it, and so all that stands in front of it.
  have inFront : later ∈ middle := by
    by_contra behind
    rw [List.idxOf_append_of_notMem behind, List.idxOf_append_of_mem placed] at overtaken
    exact absurd (List.idxOf_lt_length_of_mem placed) (by omega)
  obtain ⟨root, asked, steps⟩ := first.exists_asked later inFront
  rcases Relation.reflTransGen_iff_eq_or_transGen.1 steps with rfl | steps
  · exact absurd rfl ((List.nodup_append.1 distinct).2.2 root asked root mem)
  · exact ⟨root, asked, steps.lift id fun _ _ => mem_predecessors_iff.1⟩

/-! ### Orders that are kept -/

/-- A name whose predecessors are all placed is put at the end. -/
theorem place_of_subset {predecessors : Text → List Text} {room : Nat} {name : Text}
    (new : name ∉ order) (ready : predecessors name ⊆ order) :
    place predecessors (room + 1) [] order name = .ok (order ++ [name]) := by
  have passed : ∀ needed : List Text, needed ⊆ order →
      needed.foldlM (place predecessors room [name]) order = .ok order := by
    intro needed inside
    induction needed with
    | nil => rfl
    | cons first needed ih =>
      obtain ⟨here, later⟩ := List.cons_subset.1 inside
      rw [List.foldlM_cons, place, if_pos (List.contains_iff_mem.2 here)]
      exact ih later
  rw [place, if_neg (mt List.contains_iff_mem.1 new), if_neg (by simp), visit_succ,
    passed _ ready]

/-- Names that are listed behind their predecessors are placed as they are listed. -/
theorem foldlM_place_of_settled {predecessors : Text → List Text} {room : Nat}
    {names : List Text} (distinct : (order ++ names).Nodup)
    (settled : Settled predecessors (order ++ names)) :
    names.foldlM (place predecessors (room + 1) []) order = .ok (order ++ names) := by
  induction names generalizing order with
  | nil => rw [List.append_nil]; rfl
  | cons name names ih =>
    have new : name ∉ order := fun mem =>
      (List.nodup_append.1 distinct).2.2 name mem name List.mem_cons_self rfl
    have ready : predecessors name ⊆ order := settled order name names rfl
    have moved : order ++ name :: names = order ++ [name] ++ names := by simp
    rw [List.foldlM_cons, place_of_subset new ready, moved]
    rw [moved] at distinct settled
    exact ih distinct settled

/-- **An order of registration that respects all constraints is kept.** -/
theorem sortedNames_of_respects (respects : graph.Respects graph.names) :
    graph.sortedNames = .ok graph.names := by
  have settled : Settled graph.predecessors graph.names := by
    intro front name back listed needed mem
    have before := respects needed name (mem_predecessors_iff.1 mem)
    have distinct : graph.names.Nodup := graph.distinct
    rw [listed] at before distinct
    have notInFront : name ∉ front := fun mem =>
      (List.nodup_append.1 distinct).2.2 name mem name List.mem_cons_self rfl
    by_contra behind
    rw [List.idxOf_append_of_notMem notInFront, List.idxOf_append_of_notMem behind,
      List.idxOf_cons_self] at before
    omega
  have walked : graph.names.foldlM (place graph.predecessors (graph.units.length + 1) []) []
      = .ok graph.names := foldlM_place_of_settled graph.distinct settled
  rw [sortedNames, visitAll_eq_foldlM, walked]
  rfl

/-! ### Registering units again -/

/-- The graph of a list of units, registered one after the other. -/
def ofUnits? (units : List ConfigUnit) : Except UnitError UnitGraph :=
  units.foldlM register empty

/-- Units of different names can all be registered. -/
theorem exists_ofUnits? {units : List ConfigUnit} (distinct : (units.map ConfigUnit.name).Nodup) :
    ∃ graph, ofUnits? units = .ok graph ∧ graph.units = units := by
  suffices general : ∀ graph : UnitGraph, ((graph.units ++ units).map ConfigUnit.name).Nodup →
      ∃ result, units.foldlM register graph = .ok result
        ∧ result.units = graph.units ++ units from general empty distinct
  clear distinct
  induction units with
  | nil => exact fun graph _ => ⟨graph, rfl, (List.append_nil _).symm⟩
  | cons unit units ih =>
    intro graph distinct
    have moved : graph.units ++ unit :: units = graph.units ++ [unit] ++ units := by simp
    have free : unit.name ∉ graph.names := by
      rw [List.map_append, List.nodup_append] at distinct
      exact fun taken => distinct.2.2 _ taken unit.name List.mem_cons_self rfl
    rw [List.foldlM_cons, register, dif_neg free, moved]
    rw [moved] at distinct
    exact ih _ distinct

/-- The constraints of a graph do not depend on the order of registration. -/
theorem ordered_iff_of_perm {other : UnitGraph} (perm : other.units.Perm graph.units)
    {earlier later : Text} : other.Ordered earlier later ↔ graph.Ordered earlier later := by
  simp only [Ordered, perm.mem_iff]

/-- **Units that are registered in their sorted order keep it.** -/
theorem exists_resorted (sorted : graph.sortedNames = .ok order) :
    ∃ again, ofUnits? (graph.inOrder order) = .ok again ∧ again.sortedNames = .ok order := by
  have perm := inOrder_perm_units sorted
  have named : (graph.inOrder order).map ConfigUnit.name = order :=
    map_name_inOrder fun name mem => (perm_names_of_sortedNames sorted).mem_iff.1 mem
  have distinct : order.Nodup := (perm_names_of_sortedNames sorted).nodup_iff.2 graph.distinct
  obtain ⟨again, registered, same⟩ := exists_ofUnits? (named.symm ▸ distinct)
  have names : again.names = order := by rw [UnitGraph.names, same, named]
  refine ⟨again, registered, names ▸ sortedNames_of_respects ?_⟩
  intro earlier later constraint
  rw [names]
  refine respects_of_sortedNames sorted earlier later ?_
  exact (ordered_iff_of_perm (same ▸ perm)).1 constraint

/-! ### Whole graphs -/

/-- No constraint puts the unit of a name before or behind a registered one. -/
def Unconstrained (graph : UnitGraph) (name : Text) : Prop :=
  ∀ other ∈ graph.names, ¬ graph.Ordered name other ∧ ¬ graph.Ordered other name

instance (graph : UnitGraph) (name : Text) : Decidable (graph.Unconstrained name) :=
  inferInstanceAs (Decidable (∀ other ∈ graph.names, _))

/-- In a list without repetition, what stands behind a name stands behind the front that ends with
it. -/
theorem exists_front_of_idxOf_lt {names : List Text} (distinct : names.Nodup)
    {earlier later : Text} (mem : later ∈ names)
    (before : names.idxOf earlier < names.idxOf later) :
    ∃ front back, names = front ++ earlier :: back ∧ later ∈ back
      ∧ ∀ root ∈ front ++ [earlier], names.idxOf root ≤ names.idxOf earlier := by
  have here : earlier ∈ names := List.idxOf_lt_length_iff.1 (by
    have := List.idxOf_lt_length_of_mem mem
    omega)
  obtain ⟨front, back, rfl⟩ := List.append_of_mem here
  have notInFront : earlier ∉ front := fun inFront =>
    (List.nodup_append.1 distinct).2.2 earlier inFront earlier List.mem_cons_self rfl
  have position : (front ++ earlier :: back).idxOf earlier = front.length := by
    rw [List.idxOf_append_of_notMem notInFront, List.idxOf_cons_self, Nat.add_zero]
  rw [position] at before ⊢
  refine ⟨front, back, rfl, ?_, fun root asked => ?_⟩
  · rcases List.mem_append.1 mem with inFront | behind
    · rw [List.idxOf_append_of_mem inFront] at before
      exact absurd (List.idxOf_lt_length_of_mem inFront) (by omega)
    · rcases List.mem_cons.1 behind with rfl | behind
      · rw [position] at before
        exact absurd before (Nat.lt_irrefl _)
      · exact behind
  · rcases List.mem_append.1 asked with inFront | last
    · rw [List.idxOf_append_of_mem inFront]
      exact Nat.le_of_lt (List.idxOf_lt_length_of_mem inFront)
    · rw [List.mem_singleton.1 last, position]

/-- **The sort leaves the order of registration only for a reason.** When a unit comes in front of
one that was registered earlier, some unit registered no later than that one waits for it, directly
or through others. So units without constraints keep their order; an order of registration that
respects all constraints is kept as it is; and the units of a graph can be registered again in their
sorted order, which is then the sorted order again. -/
theorem sortedNames_is_stable (graph : UnitGraph) :
    (∀ order, graph.sortedNames = .ok order →
      (∀ earlier ∈ graph.names, ∀ later ∈ graph.names,
        graph.names.idxOf earlier < graph.names.idxOf later →
        order.idxOf later < order.idxOf earlier →
        ∃ root ∈ graph.names, graph.names.idxOf root ≤ graph.names.idxOf earlier
          ∧ Relation.TransGen graph.Ordered later root)
      ∧ (∀ earlier ∈ graph.names, ∀ later ∈ graph.names,
        graph.Unconstrained earlier → graph.Unconstrained later →
        graph.names.idxOf earlier < graph.names.idxOf later →
        order.idxOf earlier < order.idxOf later)
      ∧ ∃ again, ofUnits? (graph.inOrder order) = .ok again ∧ again.sortedNames = .ok order)
    ∧ (graph.Respects graph.names → graph.sortedNames = .ok graph.names) := by
  refine ⟨fun order sorted => ?_, sortedNames_of_respects⟩
  have overtaken : ∀ earlier, ∀ later ∈ graph.names,
      graph.names.idxOf earlier < graph.names.idxOf later →
      order.idxOf later < order.idxOf earlier →
      ∃ root ∈ graph.names, graph.names.idxOf root ≤ graph.names.idxOf earlier
        ∧ Relation.TransGen graph.Ordered later root := by
    intro earlier later mem before reversed
    have distinct : graph.names.Nodup := graph.distinct
    obtain ⟨front, back, listed, behind, bounded⟩ := exists_front_of_idxOf_lt distinct mem before
    obtain ⟨root, asked, steps⟩ := exists_waiting_of_overtaken sorted listed behind reversed
    refine ⟨root, ?_, bounded root asked, steps⟩
    rw [listed]
    simp only [List.mem_append, List.mem_cons, List.not_mem_nil] at asked ⊢
    tauto
  refine ⟨fun earlier _ => overtaken earlier, ?_, exists_resorted sorted⟩
  intro earlier earlierMem later laterMem _ free before
  have perm := perm_names_of_sortedNames sorted
  rcases Nat.lt_trichotomy (order.idxOf earlier) (order.idxOf later) with less | same | greater
  · exact less
  · rw [List.idxOf_inj (perm.mem_iff.2 earlierMem)] at same
    exact absurd before (same ▸ Nat.lt_irrefl _)
  · obtain ⟨root, -, -, steps⟩ := overtaken earlier later laterMem before greater
    -- What overtakes is needed by something, so it is not without constraints.
    obtain ⟨next, step, -⟩ := Relation.TransGen.head'_iff.1 steps
    exact absurd step (free next step.mem_names).1

/-- A graph whose first unit waits for its last but one, and that for one in the middle. -/
def pulledGraph : UnitGraph :=
  ⟨[idleUnit "A" [] ["D"], idleUnit "B" [] ["ghost"], idleUnit "C" ["D"] [], idleUnit "D" [] [],
    idleUnit "E" [] []], by decide⟩

/-- Its order. -/
def pulledOrder : List Text := ["C", "D", "A", "B", "E"]

/-- The same units, registered in that order. -/
def pulledAgain : UnitGraph :=
  ⟨[idleUnit "C" ["D"] [], idleUnit "D" [] [], idleUnit "A" [] ["D"], idleUnit "B" [] ["ghost"],
    idleUnit "E" [] []], by decide⟩

theorem sortedNames_is_stable_pulledGraph :
    pulledGraph.sortedNames = .ok pulledOrder
      ∧ (∃ root ∈ pulledGraph.names,
          pulledGraph.names.idxOf root ≤ pulledGraph.names.idxOf "B".toList
            ∧ Relation.TransGen pulledGraph.Ordered "C" root)
      ∧ pulledGraph.Unconstrained "B" ∧ pulledGraph.Unconstrained "E"
      ∧ pulledOrder.idxOf "B".toList < pulledOrder.idxOf "E".toList
      ∧ (∃ again, ofUnits? (pulledGraph.inOrder pulledOrder) = .ok again
          ∧ again.sortedNames = .ok pulledOrder)
      ∧ pulledAgain.Respects pulledAgain.names
      ∧ pulledAgain.sortedNames = .ok pulledAgain.names := by
  have sorted : pulledGraph.sortedNames = .ok pulledOrder := rfl
  obtain ⟨overtaken, kept, again⟩ := (sortedNames_is_stable pulledGraph).1 _ sorted
  have free : pulledGraph.Unconstrained "B" ∧ pulledGraph.Unconstrained "E" := by decide
  have respects : pulledAgain.Respects pulledAgain.names := by decide
  exact ⟨sorted, overtaken "B" (by decide) "C" (by decide) (by decide) (by decide), free.1, free.2,
    kept "B" (by decide) "E" (by decide) free.1 free.2 (by decide), again, respects,
    (sortedNames_is_stable pulledAgain).2 respects⟩

end TypedConfig.UnitGraph
