import TypedConfig.Condition.Description
import TypedConfig.Unit.Order

/-!
# The description of units

One-line texts that show how a unit was put together, and which units a graph holds.
-/

namespace TypedConfig

/-- The description of a unit. -/
def ConfigUnit.description (unit : ConfigUnit) : Text :=
  let quotedList (names : List Text) : Text := Text.bracketed (names.map Text.quoted)
  "Configer \x7b name: " ++ Text.quoted unit.name ++ ", tags: " ++ quotedList unit.tags
    ++ ", condition: " ++ unit.condition.description ++ ", before: " ++ quotedList unit.before
    ++ ", after: " ++ quotedList unit.after ++ ", .. \x7d"

/-- The description of a graph. -/
def UnitGraph.description (graph : UnitGraph) : Text :=
  "ConfigerGraph \x7b units: " ++ Text.bracketed (graph.names.map Text.quoted) ++ " \x7d"

end TypedConfig
