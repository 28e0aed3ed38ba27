import TypedConfig.Error
import TypedConfig.Expression.Dollar
import TypedConfig.Literal.Duration

/-!
# Registries

The functions that binding consults by name: converters make a value of a text, splitters divide the
text of a sequence, validators check a value against a rule. A name is registered once, and the name
of a splitter or a validator must not be blank.
-/

namespace TypedConfig

/-- The kinds of functions that are registered. -/
inductive CallbackKind where
  | converter
  | splitter
  | validator
  deriving DecidableEq

/-- The word for a kind of function. -/
def CallbackKind.name : CallbackKind → Text
  | .converter => "converter"
  | .splitter => "splitter"
  | .validator => "validator"

/-- Why a function is not registered. -/
inductive RegistryError where
  | duplicate (kind : CallbackKind) (name : Text)
  | emptyName (kind : CallbackKind)
  deriving DecidableEq

/-- The wording of a registry's error. -/
def RegistryError.message : RegistryError → Text
  | .duplicate kind name => kind.name ++ " `" ++ name ++ "` is already registered"
  | .emptyName kind => kind.name ++ " name cannot be empty"

/-- Makes a value of a text. -/
abbrev Converter := Text → Except Cause Value

/-- Divides the text of a sequence. -/
abbrev Splitter := Text → Except Cause (List Text)

/-- Says whether a value satisfies a rule, given as the rule and the value. -/
abbrev Validator := Text → Value → Except Cause Bool

/-- The registered functions; converters go by the name of their type. -/
structure Registry where
  converters : Table Converter
  splitters : Table Splitter
  validators : Table Validator

namespace Registry

/-- The type name of durations. -/
def durationType : Text := "core::time::Duration"

/-- The name of the validator that evaluates expressions. -/
def expressionValidator : Text := "expr"

/-- The registry without functions. -/
def empty : Registry := ⟨[], [], []⟩

/-- The converter of durations. -/
def convertDuration : Converter := fun text =>
  match Duration.read text with
  | .ok duration => .ok duration.document
  | .error error => .error (.literal error)

/-- The validator that evaluates the rule as an expression about the value. -/
def validateExpression : Validator := fun rule value => Expression.holds rule (some value)

/-- The registry that binding starts from: durations are converted, and `expr` rules are
evaluated. -/
def standard : Registry :=
  ⟨[(durationType, convertDuration)], [], [(expressionValidator, validateExpression)]⟩

/-- A table with a function under a name that is not taken yet. -/
def enter {Callback : Type} (kind : CallbackKind) (name : Text) (callback : Callback)
    (table : Table Callback) : Except RegistryError (Table Callback) :=
  if (table.get? name).isSome then .error (.duplicate kind name)
  else .ok (table.insert name callback)

/-- A table with a function under a name that is neither blank nor taken yet. -/
def enterNamed {Callback : Type} (kind : CallbackKind) (name : Text) (callback : Callback)
    (table : Table Callback) : Except RegistryError (Table Callback) :=
  if name.trim = [] then .error (.emptyName kind) else enter kind name callback table

/-- The registry with a converter for a type. -/
def addConverter (registry : Registry) (type : Text) (converter : Converter) :
    Except RegistryError Registry :=
  (enter .converter type converter registry.converters).map fun converters =>
    { registry with converters }

/-- The registry with a splitter. -/
def addSplitter (registry : Registry) (name : Text) (splitter : Splitter) :
    Except RegistryError Registry :=
  (enterNamed .splitter name splitter registry.splitters).map fun splitters =>
    { registry with splitters }

/-- The registry with a validator. -/
def addValidator (registry : Registry) (name : Text) (validator : Validator) :
    Except RegistryError Registry :=
  (enterNamed .validator name validator registry.validators).map fun validators =>
    { registry with validators }

end Registry

end TypedConfig
