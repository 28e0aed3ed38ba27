import TypedConfig.Binder.Typed
import TypedConfig.Condition.Basic

/-!
# Configuration units

A unit is a named function whose parameters are bound from tags. It may be subject to conditions, and
it may have to run before or after other units.
-/

namespace TypedConfig

/-- What goes wrong when units are built, ordered and run. -/
inductive UnitError where
  | emptyName
  | duplicate (name : Text)
  | arity (name : Text) (expected found : Nat)
  /-- Units that wait for one another; the first name is repeated at the end. -/
  | cycle (chain : List Text)
  | condition (name : Text) (error : ConditionError)
  | binding (name : Text) (error : PropertyError)
  | execution (name : Text) (message : Text)
  deriving DecidableEq

namespace UnitError

/-- The wording of a unit's error. -/
def message : UnitError → Text
  | emptyName => "configer name cannot be empty"
  | duplicate name => "configer `" ++ name ++ "` is already registered"
  | arity name expected found =>
    "configer `" ++ name ++ "` takes " ++ Text.ofNat expected ++ " arguments but "
      ++ Text.ofNat found ++ " tags were given"
  | cycle chain => "found cycle config: " ++ Text.join " -> " chain
  | condition name _ => "condition of configer `" ++ name ++ "` failed"
  | binding name _ => "cannot bind arguments of configer `" ++ name ++ "`"
  | execution name _ => "configer `" ++ name ++ "` failed"

/-- The wordings of the causes behind an error, the nearest first. -/
def causes : UnitError → List Text
  | condition _ error => error.message :: error.causes
  | binding _ error => error.message :: error.cause?.toList.map Cause.message
  | execution _ message => [message]
  | _ => []

end UnitError

/-- A named function with what it needs to run. -/
structure ConfigUnit where
  name : Text
  /-- The tags of the parameters. -/
  tags : List Text
  /-- The types of the parameters. -/
  parameters : List (Described Value)
  /-- The function, which may report an error. -/
  action : List Value → Except Text Unit
  condition : Conditional
  before : List Text
  after : List Text

namespace ConfigUnit

/-- The unit of a function, with a tag for each parameter and without conditions or constraints. -/
def new? (name : Text) (tags : List Text) (parameters : List (Described Value))
    (action : List Value → Except Text Unit) : Except UnitError ConfigUnit :=
  if name.trim = [] then .error .emptyName
  else if tags.length = parameters.length then
    .ok ⟨name, tags, parameters, action, .empty, [], []⟩
  else .error (.arity name parameters.length tags.length)

/-- The unit with an operator selected for its next condition. -/
def select (unit : ConfigUnit) (operator : LogicOperator) : ConfigUnit :=
  { unit with condition := unit.condition.select operator }

/-- The unit with a further condition. -/
def conditionOn (unit : ConfigUnit) (condition : Condition) : ConfigUnit :=
  { unit with condition := unit.condition.append condition }

/-- The unit that has to run before others. -/
def runsBefore (unit : ConfigUnit) (names : List Text) : ConfigUnit := { unit with before := names }

/-- The unit that has to run after others. -/
def runsAfter (unit : ConfigUnit) (names : List Text) : ConfigUnit := { unit with after := names }

/-! ### Running one unit -/

/-- What happens while units are run. -/
inductive Event where
  /-- A predicate is consulted. -/
  | consulted (label : Text)
  /-- A unit's function is called. -/
  | called (name : Text) (arguments : List Value)

/-- Whether the conditions of a unit hold, with the predicates consulted. -/
def admitted (unit : ConfigUnit) (context : Context) : List Event × Except UnitError Bool :=
  let evaluation := unit.condition.evaluate context
  (evaluation.consulted.map .consulted, evaluation.result.mapError (.condition unit.name))

/-- The path of a parameter. -/
def parameterPath (name : Text) (index : Nat) : Text := name ++ ".arg" ++ Text.ofNat index

/-- The values of parameters, the first of which has an index. -/
def bindParameters (binder : Binder) (source : Source) (name : Text) (index : Nat) :
    List (Text × Described Value) → Except PropertyError (List Value)
  | [] => .ok []
  | (tag, described) :: parameters =>
    match Target.ofTag? tag (parameterPath name index) with
    | .error error => .error error
    | .ok target =>
      match binder.bindTarget described source target with
      | .error error => .error error
      | .ok value =>
        match bindParameters binder source name (index + 1) parameters with
        | .error error => .error error
        | .ok values => .ok (value :: values)

/-- Binds the parameters of a unit and calls its function. -/
def execute (unit : ConfigUnit) (binder : Binder) (source : Source) :
    List Event × Except UnitError Unit :=
  match bindParameters binder source unit.name 0 (unit.tags.zip unit.parameters) with
  | .error error => ([], .error (.binding unit.name error))
  | .ok arguments =>
    ([.called unit.name arguments], (unit.action arguments).mapError (.execution unit.name))

end ConfigUnit

end TypedConfig
