import TypedConfig.Decimal.Binary

/-!
# Literals of floating point numbers

The grammar is an optional sign, digits with an optional point and at least one digit beside it, and
an optional exponent; the words `inf`, `infinity` and `nan` are read in any case. The number read is
the one nearest to the decimal that is written, in double or in single precision.
-/

namespace TypedConfig

/-- What a literal of a floating point number writes. -/
inductive DecimalLiteral where
  /-- The number `digits · 10 ^ exponent` with a sign. -/
  | finite (negative : Bool) (digits : Nat) (exponent : Int)
  | infinite (negative : Bool)
  | nan

namespace DecimalLiteral

/-- A power of ten that no number of either format reaches, and below whose inverse every number
rounds to zero. -/
def exponentLimit : Int := 400

/-- A sign and what follows it. -/
def takeSign : Text → Bool × Text
  | '-' :: text => (true, text)
  | '+' :: text => (false, text)
  | text => (false, text)

/-- The exponent that a text writes, empty or from its mark on. -/
def exponent? : Text → Option Int
  | [] => some 0
  | mark :: text =>
    if mark = 'e' || mark = 'E' then
      let (negative, digits) := takeSign text
      if Text.isDigits digits then
        let size : Int := Text.toNat 10 digits
        some (if negative then -size else size)
      else none
    else none

/-- The fraction behind a point, and what follows it. -/
def takeFraction : Text → Text × Text
  | '.' :: text => (text.takeWhile Char.isDigit, text.dropWhile Char.isDigit)
  | text => ([], text)

/-- Reads a literal. -/
def ofText? (text : Text) : Option DecimalLiteral :=
  let (negative, body) := takeSign text
  let word := body.lowerAscii
  if word = "inf".toList || word = "infinity".toList then some (infinite negative)
  else if word = "nan".toList then some nan
  else
    let whole := body.takeWhile Char.isDigit
    let (fraction, rest) := takeFraction (body.dropWhile Char.isDigit)
    if whole.isEmpty && fraction.isEmpty then none
    else (exponent? rest).map fun exponent =>
      finite negative (Text.toNat 10 (whole ++ fraction)) (exponent - fraction.length)

/-- The number nearest to the absolute value of a finite literal, in a format. -/
def round (format : BinaryFormat) (digits : Nat) (exponent : Int) : Option (Nat × Int) :=
  let size : Int := (Text.ofNat digits).length
  if digits = 0 || size + exponent < -exponentLimit then some (0, format.least)
  else if exponentLimit < size + exponent then none
  else format.round (digits * Nat.pow 10 exponent.toNat) (Nat.pow 10 (-exponent).toNat)

/-- The double that a literal stands for when it is read in a format. -/
def toBinary64 (format : BinaryFormat) : DecimalLiteral → Binary64
  | infinite negative => Binary64.infinity negative
  | nan => Binary64.nan
  | finite negative digits exponent =>
    match round format digits exponent with
    | none => Binary64.infinity negative
    | some (significand, exponent) =>
      Binary64.ofRatio negative (significand * Nat.pow 2 exponent.toNat)
        (Nat.pow 2 (-exponent).toNat)

end DecimalLiteral

/-- The double that a text writes. -/
def Binary64.ofText? (text : Text) : Option Binary64 :=
  (DecimalLiteral.ofText? text).map (DecimalLiteral.toBinary64 .double)

end TypedConfig
