import TypedConfig.Text.Basic

/-!
# Binary floating point

A finite binary number is `significand · 2 ^ exponent`, with at most `precision` bits in the
significand and an exponent between two bounds. `BinaryFormat.round` takes a ratio of natural
numbers to the nearest number of a format, a tie going to the even significand.

`Binary64` holds the bits of a double; `Binary64.ofRatio` and `Binary64.magnitude` go from and to
exact numbers. `Binary64.mul` rounds the exact product; all other arithmetic is that of the machine.
-/

namespace TypedConfig

/-- The precision in bits and the bounds of the exponent of the last bit. -/
structure BinaryFormat where
  precision : Nat
  least : Int
  greatest : Int

/-- Double precision. -/
def BinaryFormat.double : BinaryFormat := ⟨53, -1074, 971⟩

/-- Single precision. -/
def BinaryFormat.single : BinaryFormat := ⟨24, -149, 104⟩

/-- The natural number nearest to a ratio, a tie going to the even neighbour. -/
def roundDiv (numerator denominator : Nat) : Nat :=
  let quotient := numerator / denominator
  let rest := numerator % denominator
  if 2 * rest < denominator then quotient
  else if denominator < 2 * rest then quotient + 1
  else if quotient % 2 = 0 then quotient else quotient + 1

/-- The exponent of the highest bit of a positive ratio. -/
def ratioLog (numerator denominator : Nat) : Int :=
  let guess : Int := (numerator.log2 : Int) - denominator.log2
  if denominator * Nat.pow 2 guess.toNat ≤ numerator * Nat.pow 2 (-guess).toNat then guess
  else guess - 1

/-- The significand and the exponent of the number nearest to a ratio, or nothing when that number
exceeds the format. -/
def BinaryFormat.round (format : BinaryFormat) (numerator denominator : Nat) : Option (Nat × Int) :=
  if numerator = 0 then some (0, format.least)
  else
    let exponent := max (ratioLog numerator denominator - (format.precision - 1)) format.least
    let significand :=
      roundDiv (numerator * Nat.pow 2 (-exponent).toNat) (denominator * Nat.pow 2 exponent.toNat)
    let rounded :=
      if significand = Nat.pow 2 format.precision then (significand / 2, exponent + 1)
      else (significand, exponent)
    if format.greatest < rounded.2 then none else some rounded

/-- The bits of a double. -/
structure Binary64 where
  bits : UInt64
  deriving DecidableEq

namespace Binary64

/-- A double for the machine's arithmetic. -/
def toFloat (number : Binary64) : Float := Float.ofBits number.bits

/-- The double of a result of the machine's arithmetic. -/
def ofFloat (number : Float) : Binary64 := ⟨number.toBits⟩

/-- Whether the sign bit is set. -/
def isNegative (number : Binary64) : Bool := number.bits >>> 63 = 1

/-- The eleven bits of the exponent. -/
def exponentField (number : Binary64) : Nat := ((number.bits >>> 52) &&& 0x7FF).toNat

/-- The fifty-two bits of the fraction. -/
def fractionField (number : Binary64) : Nat := (number.bits &&& 0xFFFFFFFFFFFFF).toNat

/-- Whether a double is neither infinite nor a NaN. -/
def isFinite (number : Binary64) : Bool := number.exponentField != 0x7FF

/-- Whether a double is a NaN. -/
def isNaN (number : Binary64) : Bool := !number.isFinite && number.fractionField != 0

/-- The significand and the exponent of the absolute value of a finite double. -/
def magnitude (number : Binary64) : Nat × Int :=
  if number.exponentField = 0 then (number.fractionField, -1074)
  else (number.fractionField + Nat.pow 2 52, (number.exponentField : Int) - 1075)

/-- The double with a sign and a significand and exponent in range. -/
def ofParts (negative : Bool) (significand : Nat) (exponent : Int) : Binary64 :=
  let sign : UInt64 := if negative then 0x8000000000000000 else 0
  if significand < Nat.pow 2 52 then ⟨sign ||| UInt64.ofNat significand⟩
  else
    ⟨sign ||| (UInt64.ofNat (exponent + 1075).toNat <<< 52)
      ||| UInt64.ofNat (significand - Nat.pow 2 52)⟩

/-- The infinite double of a sign. -/
def infinity (negative : Bool) : Binary64 :=
  ⟨if negative then 0xFFF0000000000000 else 0x7FF0000000000000⟩

/-- The NaN without a payload. -/
def nan : Binary64 := ⟨0x7FF8000000000000⟩

/-- The double nearest to a ratio with a sign; beyond the greatest double it is infinite. -/
def ofRatio (negative : Bool) (numerator denominator : Nat) : Binary64 :=
  match BinaryFormat.double.round numerator denominator with
  | some (significand, exponent) => ofParts negative significand exponent
  | none => infinity negative

/-- The double nearest to an integer. -/
def ofInt (number : Int) : Binary64 := ofRatio (number < 0) number.natAbs 1

/-- The product of two doubles, rounded once; there is none of zero and an infinite double. -/
def mul (left right : Binary64) : Binary64 :=
  let negative := left.isNegative != right.isNegative
  if left.isFinite && right.isFinite then
    let exponent := left.magnitude.2 + right.magnitude.2
    ofRatio negative (left.magnitude.1 * right.magnitude.1 * Nat.pow 2 exponent.toNat)
      (Nat.pow 2 (-exponent).toNat)
  else if left.isNaN || right.isNaN || left.magnitude.1 = 0 || right.magnitude.1 = 0 then nan
  else infinity negative

end Binary64

end TypedConfig
