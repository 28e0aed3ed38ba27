import TypedConfig.Unit.Basic

/-!
# The order of units

A graph holds units of distinct names in the order of their registration. `UnitGraph.sortedNames`
puts every unit behind those that have to run before it, and disturbs the order of registration only
where it must: units are taken in that order, each behind its predecessors, which are taken in that
order as well. Units that wait for one another are reported as a cycle.

Names of units that are not registered have no influence.
-/

namespace TypedConfig

/-- Units of distinct names, in the order of their registration. -/
structure UnitGraph where
  units : List ConfigUnit
  distinct : (units.map ConfigUnit.name).Nodup

namespace UnitGraph

/-- The graph without units. -/
def empty : UnitGraph := ⟨[], List.nodup_nil⟩

instance : Inhabited UnitGraph := ⟨empty⟩

/-- The names of the units, in the order of their registration. -/
def names (graph : UnitGraph) : List Text := graph.units.map ConfigUnit.name

/-- The unit of a name. -/
def find? (graph : UnitGraph) (name : Text) : Option ConfigUnit :=
  graph.units.find? fun unit => unit.name = name

/-- The graph with a further unit, whose name must not be taken. -/
def register (graph : UnitGraph) (unit : ConfigUnit) : Except UnitError UnitGraph :=
  if taken : unit.name ∈ graph.names then .error (.duplicate unit.name)
  else .ok ⟨graph.units ++ [unit], by
    rw [List.map_append, List.nodup_append]
    refine ⟨graph.distinct, by simp, fun name mem other same => ?_⟩
    rw [List.map_singleton, List.mem_singleton] at same
    rintro rfl
    exact taken (same ▸ mem)⟩

/-- Whether one unit has to run before another. -/
def precedes (first second : ConfigUnit) : Bool :=
  first.before.contains second.name || second.after.contains first.name

/-- The names of the units that have to run before the unit of a name. -/
def predecessors (graph : UnitGraph) (name : Text) : List Text :=
  match graph.find? name with
  | some unit => (graph.units.filter fun other => precedes other unit).map ConfigUnit.name
  | none => []

/-- The cycle that is closed by `name` at the end of a path, whose last name comes first. -/
def cycleOf (path : List Text) (name : Text) : List Text :=
  (path.reverse.dropWhile (· != name)) ++ [name]

/-- Puts a name behind its predecessors, at the end of an order. The path holds the names that wait
for it, the nearest first, and `room` bounds how many more names can wait. The error is a cycle. -/
def visit (predecessors : Text → List Text) :
    (room : Nat) → (path order : List Text) → (name : Text) → Except (List Text) (List Text)
  | 0, path, _, name => .error (cycleOf path name)
  | room + 1, path, order, name =>
    let path := name :: path
    let step (order : List Text) (needed : Text) : Except (List Text) (List Text) :=
      if order.contains needed then .ok order
      else if path.contains needed then .error (cycleOf path needed)
      else visit predecessors room path order needed
    match (predecessors name).foldlM step order with
    | .ok order => .ok (order ++ [name])
    | .error chain => .error chain

/-- Puts the names of a list that are not there yet at the end of an order, each behind its
predecessors. -/
def visitAll (predecessors : Text → List Text) (room : Nat) :
    (order names : List Text) → Except (List Text) (List Text)
  | order, [] => .ok order
  | order, name :: names =>
    if order.contains name then visitAll predecessors room order names
    else match visit predecessors room [] order name with
      | .ok order => visitAll predecessors room order names
      | .error chain => .error chain

/-- The names of the units in an order that respects all constraints. -/
def sortedNames (graph : UnitGraph) : Except UnitError (List Text) :=
  (visitAll graph.predecessors (graph.units.length + 1) [] graph.names).mapError .cycle

end UnitGraph

end TypedConfig
