import TypedConfig.Decimal.Shortest
import TypedConfig.Expression.Operand
import TypedConfig.Expression.Token
import TypedConfig.Text.Case

/-!
# The functions of expressions

`call` gives the value of a function by its name. A function takes one operand, which is a tuple
where the function has several arguments; without the right number and kinds of arguments it has no
value. Functions of numbers are those of the machine and give doubles, functions of bits take the
64 bits of an integer, and a text is measured and cut by its bytes.
-/

namespace TypedConfig.Expression

open Operand

/-- An integer, if it is in range. -/
def checked (number : Int) : Option Operand :=
  if leastInt ≤ number && number ≤ greatestInt then some (int number) else none

/-! ### Least and greatest numbers -/

/-- The smaller of two doubles, a NaN giving way to the other. -/
def floatMin (left right : Float) : Float :=
  if left.isNaN then right else if right.isNaN then left else if right < left then right else left

/-- The greater of two doubles, a NaN giving way to the other. -/
def floatMax (left right : Float) : Float :=
  if left.isNaN then right else if right.isNaN then left else if left < right then right else left

/-- The extreme integer and the extreme double of a list of numbers, behind those given. -/
def extremes (ints : Int → Int → Int) (floats : Float → Float → Float) :
    Int → Float → List Operand → Option (Int × Float)
  | number, inexact, [] => some (number, inexact)
  | number, inexact, int other :: items => extremes ints floats (ints number other) inexact items
  | number, inexact, float other :: items =>
    extremes ints floats number (floats inexact other.toFloat) items
  | _, _, _ :: _ => none

/-- The smallest number of a tuple. -/
def smallest (items : List Operand) : Option Operand :=
  let found := extremes min floatMin greatestInt (Binary64.infinity false).toFloat items
  found.map fun (number, inexact) =>
    if (Binary64.ofInt number).toFloat < inexact then int number else float (.ofFloat inexact)

/-- The greatest number of a tuple. -/
def greatest (items : List Operand) : Option Operand :=
  let found := extremes max floatMax leastInt (Binary64.infinity true).toFloat items
  found.map fun (number, inexact) =>
    if inexact < (Binary64.ofInt number).toFloat then int number else float (.ofFloat inexact)

/-! ### Numbers and bits -/

/-- The inverse of the hyperbolic cosine, by its logarithm. -/
def inverseCosh (number : Float) : Float :=
  if number < 1 then 0 / 0 else (number + (number - 1).sqrt * (number + 1).sqrt).log

/-- The functions of one number. -/
def ofNumber? : (name : String) → Option (Float → Float)
  | "floor" => some Float.floor
  | "ceil" => some Float.ceil
  | "round" => some Float.round
  | "math::ln" => some Float.log
  | "math::log2" => some Float.log2
  | "math::log10" => some Float.log10
  | "math::exp" => some Float.exp
  | "math::exp2" => some Float.exp2
  | "math::sin" => some Float.sin
  | "math::asin" => some Float.asin
  | "math::sinh" => some Float.sinh
  | "math::asinh" => some Float.asinh
  | "math::cos" => some Float.cos
  | "math::acos" => some Float.acos
  | "math::cosh" => some Float.cosh
  | "math::acosh" => some inverseCosh
  | "math::tan" => some Float.tan
  | "math::atan" => some Float.atan
  | "math::tanh" => some Float.tanh
  | "math::atanh" => some Float.atanh
  | "math::sqrt" => some Float.sqrt
  | "math::cbrt" => some Float.cbrt
  | _ => none

/-- The functions of two numbers. -/
def ofNumbers? : (name : String) → Option (Float → Float → Float)
  | "math::pow" => some Float.pow
  | "math::log" => some fun number base => number.log / base.log
  | "math::atan2" => some Float.atan2
  | "math::hypot" => some fun first second => (first * first + second * second).sqrt
  | _ => none

/-- The tests of a number. -/
def testOf? : (name : String) → Option (Binary64 → Bool)
  | "math::is_nan" => some Binary64.isNaN
  | "math::is_finite" => some Binary64.isFinite
  | "math::is_infinite" => some fun number => !number.isFinite && !number.isNaN
  | "math::is_normal" => some fun number => number.isFinite && number.exponentField != 0
  | _ => none

/-- The functions of the bits of two integers; only the last six bits of a distance count. -/
def ofBits? : (name : String) → Option (Int64 → Int64 → Int64)
  | "bitand" => some (· &&& ·)
  | "bitor" => some (· ||| ·)
  | "bitxor" => some (· ^^^ ·)
  | "shl" => some (· <<< ·)
  | "shr" => some (· >>> ·)
  | _ => none

/-- The value of a function of numbers. -/
def callNumeric (name : String) (argument : Operand) : Option Operand :=
  match ofNumber? name, testOf? name, argument.number? with
  | some round, _, some number => some (float (.ofFloat (round number.toFloat)))
  | _, some test, some number => some (boolean (test number))
  | _, _, _ =>
    match ofBits? name, ofNumbers? name, argument with
    | some combine, _, tuple [int first, int second] =>
      some (int (combine (.ofInt first) (.ofInt second)).toInt)
    | _, some combine, tuple [first, second] => do
      let first ← first.number?
      let second ← second.number?
      pure (float (.ofFloat (combine first.toFloat second.toFloat)))
    | _, _, _ => none

/-- The absolute value of a number. -/
def absolute : Operand → Option Operand
  | int number => checked number.natAbs
  | float number => some (float (.ofFloat number.toFloat.abs))
  | _ => none

/-! ### Texts -/

/-- The name of the kind of an operand. -/
def kind : Operand → Text
  | string _ => "string"
  | float _ => "float"
  | int _ => "int"
  | boolean _ => "boolean"
  | tuple _ => "tuple"
  | empty => "empty"

/-- A double without an exponent, and without a point where it is whole. -/
def plainText (number : Binary64) : Text :=
  if number.isNaN then "NaN"
  else if !number.isFinite then (if number.isNegative then "-inf" else "inf")
  else
    let text := number.text ⟨-324, 309, false⟩
    match text.reverse with
    | '0' :: '.' :: whole => whole.reverse
    | _ => text

mutual

/-- The text of an operand: the items of a tuple in parentheses, and a string among them in
quotes. -/
def textOf : Operand → Text
  | string text => '"' :: text ++ ['"']
  | float number => plainText number
  | int number => Text.ofInt number
  | boolean flag => if flag then "true" else "false"
  | tuple [] => "()"
  | tuple (item :: items) => '(' :: textOf item ++ restText items
  | empty => "()"

/-- The texts of the further items of a tuple, and its end. -/
def restText : List Operand → Text
  | [] => ")"
  | item :: items => ", " ++ textOf item ++ restText items

end

/-- What is left of a text behind a number of bytes, if no character is divided. -/
def dropBytes? : (count : Nat) → Text → Option Text
  | 0, text => some text
  | _ + 1, [] => none
  | count + 1, char :: text =>
    if char.utf8Size ≤ count + 1 then dropBytes? (count + 1 - char.utf8Size) text else none
termination_by _ text => text.length

/-- The part of a text between two numbers of bytes. -/
def substring? (text : Text) (first last : Int) : Option Text := do
  if first < 0 || last < first || text.utf8Length < last then none
  let start ← dropBytes? first.toNat text
  let rest ← dropBytes? (last - first).toNat start
  pure (start.take (start.length - rest.length))

/-! ### All functions -/

/-- The value of a function that is called with an argument. -/
def call (name : String) (argument : Operand) : Option Operand :=
  match name, argument with
  | "len", string text => some (int text.utf8Length)
  | "len", tuple items => some (int items.length)
  | "min", tuple items => smallest items
  | "max", tuple items => greatest items
  | "math::abs", number => absolute number
  | "if", tuple [boolean condition, first, second] => some (if condition then first else second)
  | "contains", tuple [tuple items, item] =>
    if item.isScalar then some (boolean (items.any (equal · item))) else none
  | "contains_any", tuple [tuple items, tuple others] =>
    if others.all isScalar then some (boolean (others.any fun other => items.any (equal · other)))
    else none
  | "typeof", argument => some (string (kind argument))
  | "str::to_lowercase", string text => some (string text.lower)
  | "str::to_uppercase", string text => some (string text.upper)
  | "str::trim", string text => some (string text.trim)
  | "str::from", string text => some (string text)
  | "str::from", argument => some (string (textOf argument))
  | "str::substring", tuple [string text, int first] =>
    (substring? text first text.utf8Length).map string
  | "str::substring", tuple [string text, int first, int last] =>
    (substring? text first last).map string
  | "bitnot", int number => some (int (-number - 1))
  | name, argument => callNumeric name argument

end TypedConfig.Expression
