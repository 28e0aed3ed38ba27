import TypedConfig.Unit.Order

/-!
# Running units

The units of a graph are run in their order. A unit whose conditions do not hold is skipped, and its
parameters are not bound. The first error ends the run; what has happened until then is part of the
result.
-/

namespace TypedConfig

/-- The units that were run and those that were skipped, in order. -/
structure RunReport where
  executed : List Text
  skipped : List Text
  deriving DecidableEq

namespace UnitGraph

open ConfigUnit (Event)

/-- Runs a list of units behind those of a report. -/
def runUnits (binder : Binder) (context : Context) :
    RunReport → List ConfigUnit → List Event × Except UnitError RunReport
  | report, [] => ([], .ok report)
  | report, unit :: units =>
    match unit.admitted context with
    | (consulted, .error error) => (consulted, .error error)
    | (consulted, .ok false) =>
      let (events, result) :=
        runUnits binder context { report with skipped := report.skipped ++ [unit.name] } units
      (consulted ++ events, result)
    | (consulted, .ok true) =>
      match unit.execute binder context.properties with
      | (called, .error error) => (consulted ++ called, .error error)
      | (called, .ok ()) =>
        let (events, result) :=
          runUnits binder context { report with executed := report.executed ++ [unit.name] } units
        (consulted ++ called ++ events, result)

/-- Runs the units of a graph: what happens, and the report or the error that ends the run. -/
def run (graph : UnitGraph) (binder : Binder) (context : Context) :
    List Event × Except UnitError RunReport :=
  match graph.sortedNames with
  | .error error => ([], .error error)
  | .ok order => runUnits binder context ⟨[], []⟩ (order.filterMap graph.find?)

end UnitGraph

end TypedConfig
