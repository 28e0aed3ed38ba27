import TypedConfig.Expression.Function
import TypedConfig.Expression.Tree

/-!
# Evaluation of expressions

An operator is applied to the values of all its operands, so that both sides of `&&` and `||` and all
branches of `if` must have a value. An expression without a value has no further description: it has
none when an operand is missing or of the wrong kind, a name is unknown, an integer overflows, or
something is assigned.
-/

namespace TypedConfig.Expression

open Operand

/-! ### Arithmetic -/

/-- The remainder of a division of doubles that goes toward zero; it has the sign of the dividend. -/
def floatRemainder (left right : Binary64) : Binary64 :=
  if !left.isFinite || right.isNaN || right.magnitude.1 = 0 then Binary64.nan
  else if !right.isFinite then left
  else
    let (significand, exponent) := left.magnitude
    let (divisor, scale) := right.magnitude
    let unit := min exponent scale
    let rest :=
      (significand * Nat.pow 2 (exponent - unit).toNat) % (divisor * Nat.pow 2 (scale - unit).toNat)
    Binary64.ofRatio left.isNegative (rest * Nat.pow 2 unit.toNat) (Nat.pow 2 (-unit).toNat)

/-- An arithmetic operation on two numbers: on integers where both are integers, on doubles
otherwise. -/
def arithmetic (ints : Int → Int → Option Int) (floats : Float → Float → Float) :
    Operand → Operand → Option Operand
  | int left, int right => (ints left right).bind checked
  | left, right =>
    match left.number?, right.number? with
    | some left, some right => some (float (.ofFloat (floats left.toFloat right.toFloat)))
    | _, _ => none

/-- The remainder of two numbers. -/
def remainder : Operand → Operand → Option Operand
  | int left, int right => if right = 0 then none else checked (left.tmod right)
  | left, right =>
    match left.number?, right.number? with
    | some left, some right => some (float (floatRemainder left right))
    | _, _ => none

/-- A comparison of two strings, by code points, or of two numbers. -/
def compareBy (texts : Text → Text → Bool) (ints : Int → Int → Bool) (floats : Float → Float → Bool) :
    Operand → Operand → Option Operand
  | string left, string right => some (boolean (texts left right))
  | int left, int right => some (boolean (ints left right))
  | left, right =>
    match left.number?, right.number? with
    | some left, some right => some (boolean (floats left.toFloat right.toFloat))
    | _, _ => none

/-- The value of an operator between two operands. -/
def binary (operator : BinaryOperator) (left right : Operand) : Option Operand :=
  match operator with
  | .add =>
    match left, right with
    | string left, string right => some (string (left ++ right))
    | left, right => arithmetic (fun left right => some (left + right)) (· + ·) left right
  | .subtract => arithmetic (fun left right => some (left - right)) (· - ·) left right
  | .multiply => arithmetic (fun left right => some (left * right)) (· * ·) left right
  | .divide =>
    arithmetic (fun left right => if right = 0 then none else some (left.tdiv right)) (· / ·) left right
  | .remainder =>
    match left, right with
    | int left, int right =>
      if right = -1 && left = leastInt then none else remainder (int left) (int right)
    | left, right => remainder left right
  | .power =>
    match left.number?, right.number? with
    | some left, some right => some (float (.ofFloat (left.toFloat.pow right.toFloat)))
    | _, _ => none
  | .equal => some (boolean (equal left right))
  | .notEqual => some (boolean (!equal left right))
  | .greater => compareBy (fun left right => right < left) (fun left right => right < left)
      (fun left right => right < left) left right
  | .less => compareBy (fun left right => left < right) (fun left right => left < right)
      (fun left right => left < right) left right
  | .greaterEqual => compareBy (fun left right => !(left < right)) (fun left right => right ≤ left)
      (fun left right => right ≤ left) left right
  | .lessEqual => compareBy (fun left right => !(right < left)) (fun left right => left ≤ right)
      (fun left right => left ≤ right) left right
  | .and =>
    match left, right with
    | boolean left, boolean right => some (boolean (left && right))
    | _, _ => none
  | .or =>
    match left, right with
    | boolean left, boolean right => some (boolean (left || right))
    | _, _ => none

/-! ### Trees -/

/-- The values of names. -/
abbrev Scope := Text → Option Operand

/-- The value of an operator that is applied to the values of its operands, the first one first. -/
def apply (scope : Scope) : Operator → List Operand → Option Operand
  | .group, [] => some empty
  | .group, first :: _ => some first
  | .binary operator, [left, right] => binary operator left right
  | .negate, [int number] => checked (-number)
  | .negate, [float number] => some (float (.ofFloat (-number.toFloat)))
  | .not, [boolean flag] => some (boolean (!flag))
  | .tuple, items => some (tuple items)
  | .chain, items => items.getLast?
  | .constant operand, [] => some operand
  | .reference name, [] => scope name
  | .function name, [argument] => call (String.ofList name) argument
  | _, _ => none

mutual

/-- The value of a tree. -/
def Tree.eval (scope : Scope) : Tree → Option Operand
  | .node operator children =>
    match evalChildren scope children with
    | some operands => apply scope operator operands.reverse
    | none => none

/-- The values of a list of trees, if all of them have one. -/
def evalChildren (scope : Scope) : List Tree → Option (List Operand)
  | [] => some []
  | child :: children =>
    match child.eval scope, evalChildren scope children with
    | some operand, some operands => some (operand :: operands)
    | _, _ => none

end

/-- The value of the text of an expression. -/
def eval (scope : Scope) (text : Text) : Option Operand :=
  (tokens? text).bind fun tokens => (tree? tokens).bind (Tree.eval scope)

end TypedConfig.Expression
