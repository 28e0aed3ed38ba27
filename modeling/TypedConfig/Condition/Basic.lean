import TypedConfig.Condition.Context
import TypedConfig.Expression.Dollar
import TypedConfig.Literal.Integer
import TypedConfig.Placeholder

/-!
# Conditions

A condition is a test of the context. A conditional is a list of conditions joined by `and` and `or`,
which group to the left: a condition is evaluated only if the value of those before it does not
decide the result already.

`Condition.evaluate` and `Conditional.evaluate` give, beside the result, the labels of the
predicates that were consulted, in order.
-/

namespace TypedConfig

/-- Why a condition has no value. -/
inductive ConditionError where
  /-- A placeholder of the condition's input cannot be resolved. -/
  | resolve (error : PropertyError)
  | expression (expression : Text) (cause : Cause)
  deriving DecidableEq

namespace ConditionError

/-- The wording of a condition's error. -/
def message : ConditionError → Text
  | resolve error => "cannot resolve condition input: " ++ error.message
  | expression source _ => "condition expression `" ++ source ++ "` failed"

/-- The wordings of the causes behind an error, the nearest first. -/
def causes : ConditionError → List Text
  | resolve error => error.message :: error.cause?.toList.map Cause.message
  | expression _ cause => [cause.message]

end ConditionError

/-- How a condition is joined to those before it. -/
inductive LogicOperator where
  | and
  | or
  deriving DecidableEq

/-- Conditions with the operator in front of each, and the operator selected for the next one. The
operator in front of the first condition has no influence. -/
structure Conjoined (Member : Type) where
  steps : List (LogicOperator × Member)
  pending : LogicOperator

/-- A test of the context. -/
inductive Condition where
  | property (name : Text)
  | missingProperty (name : Text)
  /-- The resolved property equals a text, or satisfies the expression behind `expr:`. -/
  | propertyValue (name expected : Text)
  | bean (selector : BeanSelector)
  | missingBean (selector : BeanSelector)
  | expression (expression : Text)
  | profile (profile : Text)
  /-- A predicate on the context, under a label. -/
  | predicate (label : Text) (test : Context → Bool)
  | not (inner : Condition)
  | all (conditional : Conjoined Condition)

/-- Conditions joined by `and` and `or`. -/
abbrev Conditional := Conjoined Condition

namespace Conditional

/-- The conditional without conditions. -/
def empty : Conditional := ⟨[], .and⟩

instance : Inhabited Conditional := ⟨empty⟩

instance : Inhabited Condition := ⟨.all empty⟩

/-- The conditional with an operator selected for the next condition. -/
def select (conditional : Conditional) (operator : LogicOperator) : Conditional :=
  { conditional with pending := operator }

/-- The conditional with a condition at its end, joined by the selected operator. -/
def append (conditional : Conditional) (condition : Condition) : Conditional :=
  ⟨conditional.steps ++ [(conditional.pending, condition)], .and⟩

/-- The number of conditions. -/
def size (conditional : Conditional) : Nat := conditional.steps.length

end Conditional

/-! ### Evaluation -/

/-- The result of an evaluation, and the labels of the predicates consulted on the way. -/
structure Evaluation where
  consulted : List Text
  result : Except ConditionError Bool

/-- The evaluation of a test that consults no predicate. -/
def Evaluation.plain (result : Except ConditionError Bool) : Evaluation := ⟨[], result⟩

/-- The start of an expected value that is an expression. -/
def expressionMark : Text := "expr:"

/-- The integer that a text of digits with an optional sign writes. -/
def signedDigits? (text : Text) : Option Int :=
  let (negative, digits) := match text with
    | '-' :: digits => (true, digits)
    | '+' :: digits => (false, digits)
    | digits => (false, digits)
  if Text.isDigits digits then
    let size : Int := Text.toNat 10 digits
    some (if negative then -size else size)
  else none

/-- The value that a property's text stands for in an expression: an integer of 64 bits, a finite
double, a boolean, or the text itself. -/
def valueOfText (text : Text) : Value :=
  match (signedDigits? text).filter (IntegerLiteral.fitsSigned 64) with
  | some number => .ofInt number
  | none =>
    match (Binary64.ofText? text).filter Binary64.isFinite with
    | some number => .number (.binary number)
    | none =>
      if text = "true".toList then .boolean true
      else if text = "false".toList then .boolean false
      else .string text

/-- The value of an expression, an error naming it as it was `written`. -/
def evaluateExpression (written expression : Text) (value : Option Value) :
    Except ConditionError Bool :=
  (Expression.holds expression value).mapError (ConditionError.expression written)

/-- Whether the property of a name has an expected value. -/
def propertyHasValue (source : Source) (name expected : Text) : Except ConditionError Bool :=
  if source.has name then
    match Placeholder.resolve source (Target.new name name) with
    | .error error => .error (.resolve error)
    | .ok text =>
      match expected.dropStart? expressionMark with
      | some expression => evaluateExpression expression expression (some (valueOfText text))
      | none => .ok (text = expected)
  else .ok false

/-- Whether an expression holds when its placeholders are resolved. -/
def expressionHolds (source : Source) (expression : Text) : Except ConditionError Bool :=
  match Placeholder.resolveText source expression with
  | .error error => .error (.resolve error)
  | .ok resolved => evaluateExpression expression resolved none

/-- Whether the value so far leaves the result to the next condition. -/
def LogicOperator.isOpen (operator : LogicOperator) (value : Bool) : Bool :=
  match operator with
  | .and => value
  | .or => !value

mutual

/-- The evaluation of a condition. -/
def Condition.evaluate (context : Context) : Condition → Evaluation
  | .property name => .plain (.ok (context.properties.has name))
  | .missingProperty name => .plain (.ok (!context.properties.has name))
  | .propertyValue name expected => .plain (propertyHasValue context.properties name expected)
  | .bean selector => .plain (.ok (context.beans.contains selector))
  | .missingBean selector => .plain (.ok (!context.beans.contains selector))
  | .expression expression => .plain (expressionHolds context.properties expression)
  | .profile profile => .plain (.ok (context.activeProfiles.contains profile))
  | .predicate label test => ⟨[label], .ok (test context)⟩
  | .not inner =>
    let evaluation := inner.evaluate context
    ⟨evaluation.consulted, evaluation.result.map (!·)⟩
  | .all ⟨steps, _⟩ => evaluateSteps context steps

/-- The evaluation of joined conditions; without a condition they are true. -/
def evaluateSteps (context : Context) : List (LogicOperator × Condition) → Evaluation
  | [] => .plain (.ok true)
  | (_, first) :: steps =>
    let evaluation := first.evaluate context
    match evaluation.result with
    | .error error => ⟨evaluation.consulted, .error error⟩
    | .ok value =>
      let rest := evaluateRest context value steps
      ⟨evaluation.consulted ++ rest.consulted, rest.result⟩

/-- The evaluation of further conditions behind a value. -/
def evaluateRest (context : Context) (value : Bool) : List (LogicOperator × Condition) → Evaluation
  | [] => .plain (.ok value)
  | (operator, condition) :: steps =>
    if operator.isOpen value then
      let evaluation := condition.evaluate context
      match evaluation.result with
      | .error error => ⟨evaluation.consulted, .error error⟩
      | .ok value =>
        let rest := evaluateRest context value steps
        ⟨evaluation.consulted ++ rest.consulted, rest.result⟩
    else evaluateRest context value steps

end

/-- The evaluation of a conditional. -/
def Conditional.evaluate (context : Context) (conditional : Conditional) : Evaluation :=
  evaluateSteps context conditional.steps

end TypedConfig
