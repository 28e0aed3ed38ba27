import TypedConfig.Error

/-!
# Integer literals

A literal is an optional sign and digits. The digits are decimal, unless a prefix says otherwise:
`0x`, `0o` and `0b` in either case, or a plain leading zero for octal. Behind a prefix, single
underscores may stand before and between the digits. Unsigned literals have no sign.

Reading is split in two: `magnitude?` says which natural number a text writes, if any, and the
width of the integer only decides whether that number is in range.
-/

namespace TypedConfig.IntegerLiteral

/-- The radix of a literal without its sign, its digits, and whether a prefix stood in front of
them. -/
def body : Text → Nat × Text × Bool
  | '0' :: mark :: digits =>
    if mark = 'x' || mark = 'X' then (16, digits, true)
    else if mark = 'o' || mark = 'O' then (8, digits, true)
    else if mark = 'b' || mark = 'B' then (2, digits, true)
    else (8, mark :: digits, true)
  | digits => (10, digits, false)

/-- Whether the underscores among digits separate them: they stand behind a prefix only, never
twice in a row, and not at the end. -/
def separates (digits : Text) (hasPrefix : Bool) : Bool :=
  !digits.contains '_'
    || (hasPrefix && digits.getLast? != some '_' && !digits.has ['_', '_'])

/-- The natural number that a literal without a sign writes. -/
def magnitude? (text : Text) : Option Nat :=
  let (radix, digits, hasPrefix) := body text
  let cleaned := digits.filter (· != '_')
  if separates digits hasPrefix && !cleaned.isEmpty
      && cleaned.all fun char => (Text.digit? radix char).isSome
  then some (Text.toNat radix cleaned)
  else none

/-- The sign and the rest of a signed literal. -/
def takeSign : Text → Bool × Text
  | '-' :: text => (true, text)
  | '+' :: text => (false, text)
  | text => (false, text)

/-- The integer that a signed literal writes. -/
def signed? (text : Text) : Option Int :=
  let (negative, digits) := takeSign text
  (magnitude? digits).map fun (number : Nat) => if negative then -(number : Int) else number

/-- Whether an integer fits a signed width. -/
def fitsSigned (bits : Nat) (number : Int) : Bool :=
  -(Nat.pow 2 (bits - 1) : Int) ≤ number && number < (Nat.pow 2 (bits - 1) : Int)

/-- Whether a natural number fits an unsigned width. -/
def fitsUnsigned (bits : Nat) (number : Nat) : Bool := number < Nat.pow 2 bits

/-- The value of a signed literal of a width. -/
def readSigned (bits : Nat) (text : Text) : Except LiteralError Int :=
  match signed? text with
  | none => .error (.malformed .integer text)
  | some number =>
    if fitsSigned bits number then .ok number else .error (.outOfRange (.signed bits) text)

/-- The value of an unsigned literal of a width. -/
def readUnsigned (bits : Nat) (text : Text) : Except LiteralError Nat :=
  if text.head? = some '+' || text.head? = some '-' then .error (.malformed .unsigned text)
  else match magnitude? text with
    | none => .error (.malformed .integer text)
    | some number =>
      if fitsUnsigned bits number then .ok number else .error (.outOfRange (.unsigned bits) text)

end TypedConfig.IntegerLiteral
