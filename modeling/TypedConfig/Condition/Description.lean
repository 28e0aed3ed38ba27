import TypedConfig.Condition.Basic
import TypedConfig.Text.Quoted

/-!
# The description of conditions

One-line texts that show how a conditional was put together, and the profiles of a context.
-/

namespace TypedConfig

/-- The description of a selector. -/
def BeanSelector.description : BeanSelector → Text
  | .name label => "Name(" ++ Text.quoted label ++ ")"
  | .type label => "Type(" ++ Text.quoted label ++ ")"

/-- The word for an operator. -/
def LogicOperator.name : LogicOperator → Text
  | .and => "And"
  | .or => "Or"

mutual

/-- The description of a condition. -/
def Condition.description : Condition → Text
  | .property name => "OnProperty(" ++ Text.quoted name ++ ")"
  | .missingProperty name => "OnMissingProperty(" ++ Text.quoted name ++ ")"
  | .propertyValue name expected =>
    "OnPropertyValue \x7b name: " ++ Text.quoted name ++ ", expected: " ++ Text.quoted expected
      ++ " \x7d"
  | .bean selector => "OnBean(" ++ selector.description ++ ")"
  | .missingBean selector => "OnMissingBean(" ++ selector.description ++ ")"
  | .expression expression => "OnExpression(" ++ Text.quoted expression ++ ")"
  | .profile profile => "OnProfile(" ++ Text.quoted profile ++ ")"
  | .predicate _ _ => "OnMatches(..)"
  | .not inner => "Not(" ++ inner.description ++ ")"
  | .all ⟨steps, pending⟩ =>
    "All(Conditional \x7b steps: " ++ Text.bracketed (describeSteps steps) ++ ", pending: "
      ++ pending.name ++ " \x7d)"

/-- The descriptions of joined conditions. -/
def describeSteps : List (LogicOperator × Condition) → List Text
  | [] => []
  | (operator, condition) :: steps =>
    ("(" ++ operator.name ++ ", " ++ condition.description ++ ")") :: describeSteps steps

end

/-- The description of a conditional. -/
def Conditional.description (conditional : Conditional) : Text :=
  "Conditional \x7b steps: " ++ Text.bracketed (describeSteps conditional.steps) ++ ", pending: "
    ++ conditional.pending.name ++ " \x7d"

/-- The description of a context. -/
def Context.description (context : Context) : Text :=
  "ConditionContext \x7b profiles: " ++ Text.bracketed (context.activeProfiles.map Text.quoted)
    ++ ", .. \x7d"

end TypedConfig
