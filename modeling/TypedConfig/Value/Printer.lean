import TypedConfig.Value.Basic
import TypedConfig.Decimal.Shortest

/-!
# The compact text of a value

A document without blanks, its members in the order of the object. Doubles have the fewest digits
that read back and at least one digit behind the point; the text of a value stands in error messages
and is what a store keeps of a scalar.
-/

namespace TypedConfig

/-- Numbers are written without an exponent from `0.00001` up to below `1e+16`. -/
def Number.layout : DecimalLayout := ⟨-5, 16, true⟩

/-- The text of a number. -/
def Number.text : Number → Text
  | .integer number => Text.ofInt number
  | .binary number => number.text Number.layout

namespace Value

/-- One character of a string in a document. -/
def escapeChar (char : Char) : Text :=
  if char = '"' then "\\\""
  else if char = '\\' then "\\\\"
  else if char = '\n' then "\\n"
  else if char = '\r' then "\\r"
  else if char = '\t' then "\\t"
  else if char.toNat = 0x08 then "\\b"
  else if char.toNat = 0x0C then "\\f"
  else if char.toNat < 0x20 then
    let digits := Nat.toDigits 16 char.toNat
    "\\u" ++ List.replicate (4 - digits.length) '0' ++ digits
  else [char]

/-- A string of a document between its quotes. -/
def stringText (text : Text) : Text := '"' :: text.flatMap escapeChar ++ ['"']

mutual

/-- The compact text of a value. -/
def text : Value → Text
  | null => "null"
  | boolean flag => if flag then "true" else "false"
  | number digits => digits.text
  | string content => stringText content
  | array items => '[' :: itemsText items ++ [']']
  | object members => '{' :: membersText members ++ ['}']

/-- The items of a list, separated by commas. -/
def itemsText : List Value → Text
  | [] => []
  | [item] => item.text
  | item :: next :: items => item.text ++ ',' :: itemsText (next :: items)

/-- The members of an object, separated by commas. -/
def membersText : List (Text × Value) → Text
  | [] => []
  | [(name, value)] => stringText name ++ ':' :: value.text
  | (name, value) :: next :: members =>
    stringText name ++ ':' :: value.text ++ ',' :: membersText (next :: members)

end

end Value

end TypedConfig
