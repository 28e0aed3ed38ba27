import TypedConfig.Decimal.Binary

/-!
# The shortest decimal of a double

`shortestDigits` gives the fewest decimal digits that read back as a double: of the grids with one,
two, … digits it takes the first with a point in the interval of numbers that round to the double,
and of two such points the nearer one.

`DecimalLayout` is how digits are set out as a text: positional between two powers of ten, with an
exponent elsewhere.
-/

namespace TypedConfig

/-- The power of ten of the first digit of a positive ratio. -/
def ratioLog10 (numerator denominator : Nat) : Int :=
  if denominator ≤ numerator then (Text.ofNat (numerator / denominator)).length - 1
  else
    let rec below : Nat → Nat → Int
      | 0, shift => -shift
      | fuel + 1, shift =>
        if denominator ≤ numerator * Nat.pow 10 shift then -shift else below fuel (shift + 1)
    below denominator.log2 1

/-- A point `digits · 10 ^ exponent` of a decimal grid that lies in the interval from `lower` to
`upper`, as near as possible to `value`; all three are counted in `1 / unit`. -/
def gridPoint? (unit lower value upper : Nat) (closed : Bool) (exponent : Int) : Option Nat :=
  let scale := unit * Nat.pow 10 exponent.toNat
  let widen := Nat.pow 10 (-exponent).toNat
  let inside (point : Nat) : Bool :=
    if closed then lower * widen ≤ point * scale && point * scale ≤ upper * widen
    else lower * widen < point * scale && point * scale < upper * widen
  let point := value * widen / scale
  let rest := value * widen % scale
  if inside point && inside (point + 1) then
    some (if 2 * rest < scale || (2 * rest = scale && point % 2 = 0) then point else point + 1)
  else if inside point then some point
  else if inside (point + 1) then some (point + 1)
  else none

/-- The fewest digits that read back as a positive finite double, and the power of ten of the last
of them. -/
def shortestDigits (number : Binary64) : Nat × Int :=
  let (significand, exponent) := number.magnitude
  let unit := 4 * Nat.pow 2 (-exponent).toNat
  let quarter := Nat.pow 2 exponent.toNat
  let atPower := significand = Nat.pow 2 52 && exponent != -1074
  let lower := (4 * significand - (if atPower then 1 else 2)) * quarter
  let value := 4 * significand * quarter
  let upper := (4 * significand + 2) * quarter
  let top := ratioLog10 value unit
  let rec search : Nat → Int → Nat × Int
    | 0, exponent => (value, exponent)
    | fuel + 1, exponent =>
      match gridPoint? unit lower value upper (significand % 2 = 0) exponent with
      | some point => (point, exponent)
      | none => search fuel (exponent - 1)
  search 18 top

/-- How the digits of a number are set out. -/
structure DecimalLayout where
  /-- The least power of ten of the first digit that is written without an exponent. -/
  positionalFrom : Int
  /-- The first power of ten of the first digit that is written with an exponent again. -/
  positionalBelow : Int
  /-- Whether an exponent that is not negative has a sign. -/
  plus : Bool

/-- Digits with a point behind the first `whole` of them, at least one digit on either side. -/
def pointAt (digits : Text) (whole : Int) : Text :=
  if whole ≤ 0 then "0." ++ List.replicate (-whole).toNat '0' ++ digits
  else if digits.length ≤ whole.toNat then
    digits ++ List.replicate (whole.toNat - digits.length) '0' ++ ".0"
  else digits.take whole.toNat ++ "." ++ digits.drop whole.toNat

/-- The text of digits whose first stands at a power of ten. -/
def DecimalLayout.text (layout : DecimalLayout) (digits : Text) (power : Int) : Text :=
  if layout.positionalFrom ≤ power && power < layout.positionalBelow then pointAt digits (power + 1)
  else
    let mantissa := match digits with
      | first :: second :: rest => first :: '.' :: second :: rest
      | digits => digits
    let sign : Text := if layout.plus && 0 ≤ power then ['+'] else []
    mantissa ++ "e" ++ sign ++ Text.ofInt power

/-- The text of a finite double with the fewest digits that read back. -/
def Binary64.text (number : Binary64) (layout : DecimalLayout) : Text :=
  let sign : Text := if number.isNegative then ['-'] else []
  if number.magnitude.1 = 0 then sign ++ "0.0"
  else
    let (point, exponent) := shortestDigits number
    let digits := Text.ofNat point
    let kept := (digits.reverse.dropWhile (· = '0')).reverse
    sign ++ layout.text kept (exponent + digits.length - 1)

end TypedConfig
