import TypedConfig.Decimal.Binary
import TypedConfig.Value.Basic

/-!
# The operands of expressions

Strings, 64 bit integers, doubles, booleans, tuples, and the empty operand. Integers and doubles
never equal each other; two integers are compared exactly, any other two numbers as doubles.
-/

namespace TypedConfig.Expression

/-- What an expression computes with. -/
inductive Operand where
  | string (text : Text)
  | float (number : Binary64)
  | int (number : Int)
  | boolean (flag : Bool)
  | tuple (items : List Operand)
  | empty

namespace Operand

/-- A number as a double. -/
def number? : Operand → Option Binary64
  | float number => some number
  | int number => some (Binary64.ofInt number)
  | _ => none

/-- Whether an operand is neither a tuple nor empty. -/
def isScalar : Operand → Bool
  | tuple _ => false
  | empty => false
  | _ => true

mutual

/-- Equality of kind and content. Zeros of both signs are equal, and a NaN equals nothing. -/
def equal : Operand → Operand → Bool
  | string left, string right => left = right
  | float left, float right => left.toFloat == right.toFloat
  | int left, int right => left = right
  | boolean left, boolean right => left = right
  | tuple left, tuple right => equalItems left right
  | empty, empty => true
  | _, _ => false

/-- Equality item by item. -/
def equalItems : List Operand → List Operand → Bool
  | [], [] => true
  | left :: lefts, right :: rights => equal left right && equalItems lefts rights
  | _, _ => false

end

mutual

/-- The operand of a value. Null and objects are empty, and an integer above the greatest one of the
language is a double. -/
def ofValue : Value → Operand
  | .null => empty
  | .object _ => empty
  | .boolean flag => boolean flag
  | .string text => string text
  | .array items => tuple (ofItems items)
  | .number (.binary number) => float number
  | .number (.integer number) =>
    if number < Nat.pow 2 63 then int number else float (Binary64.ofInt number)

/-- The operands of a list of values. -/
def ofItems : List Value → List Operand
  | [] => []
  | item :: items => ofValue item :: ofItems items

end

end Operand

end TypedConfig.Expression
