import TypedConfig.Decimal.Literal
import TypedConfig.Literal.Integer
import TypedConfig.Value.Basic

/-!
# Scalars

The kinds of scalars that texts are converted to without a registered converter: integers of a
width, floating point numbers of two formats, booleans and strings.
-/

namespace TypedConfig

/-- A kind of scalar. -/
inductive Scalar where
  | signed (bits : Nat)
  | unsigned (bits : Nat)
  | float (bits : Nat)
  | boolean
  | string
  deriving DecidableEq

namespace Scalar

/-- The format that floating point literals of a width are read in. -/
def floatFormat (bits : Nat) : BinaryFormat := if bits = 32 then .single else .double

/-- The value of a floating point literal, which must be finite. -/
def readFloat (bits : Nat) (text : Text) : Except LiteralError Binary64 :=
  match DecimalLiteral.ofText? text with
  | none => .error (.malformed .float text)
  | some literal =>
    let number := literal.toBinary64 (floatFormat bits)
    if number.isFinite then .ok number else .error (.outOfRange (.float bits) text)

/-- The spellings of true. -/
def trueWords : List Text := ["1", "t", "T", "TRUE", "true", "True"]

/-- The spellings of false. -/
def falseWords : List Text := ["0", "f", "F", "FALSE", "false", "False"]

/-- The value of a boolean literal. -/
def readBoolean (text : Text) : Except LiteralError Bool :=
  if trueWords.contains text then .ok true
  else if falseWords.contains text then .ok false
  else .error (.malformed .boolean text)

/-- The value that a text writes. -/
def read (scalar : Scalar) (text : Text) : Except LiteralError Value :=
  match scalar with
  | signed bits => (IntegerLiteral.readSigned bits text).map Value.ofInt
  | unsigned bits => (IntegerLiteral.readUnsigned bits text).map fun number => Value.ofInt number
  | float bits => (readFloat bits text).map fun number => .number (.binary number)
  | boolean => (readBoolean text).map .boolean
  | string => .ok (.string text)

end Scalar

end TypedConfig
