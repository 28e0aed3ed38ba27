import TypedConfig.Decimal.Literal
import TypedConfig.Toml.Moment
import TypedConfig.Value.Basic

/-!
# Numbers, booleans and moments of a TOML document

These values are single words. Integers have 64 bits and may be written in base two, eight, ten or
sixteen; an underscore may stand between two digits. A moment becomes its text, and so do infinity
and the values that are no number, which a `Value` does not hold.
-/

namespace TypedConfig.Toml

/-- The digits of a number without the underscores between them. -/
def ungrouped? (isDigit : Char → Bool) (text : Text) : Option Text :=
  let groups := text.splitOn '_'
  if groups.all fun group => !group.isEmpty && group.all isDigit then some groups.flatten else none

/-- Digits in base ten, without underscores, that have no needless zero in front. -/
def decimalDigits? (text : Text) : Option Text :=
  (ungrouped? Char.isDigit text).filter fun digits => digits.head? != some '0' || digits.length = 1

/-- The text of a sign, and what follows it. -/
def takeSign : Text → Text × Text
  | '-' :: rest => (['-'], rest)
  | '+' :: rest => (['+'], rest)
  | text => ([], text)

/-- An integer, if it has 64 bits. -/
def integerValue? (number : Int) : Option Value :=
  if -(Nat.pow 2 63 : Int) ≤ number && number < (Nat.pow 2 63 : Int) then some (.ofInt number)
  else none

/-- An integer in another base than ten. -/
def basedInteger? (radix : Nat) (digits : Text) : Option Value :=
  (ungrouped? (fun char => (Text.digit? radix char).isSome) digits).bind fun digits =>
    integerValue? (Text.toNat radix digits)

/-- The value of the word of an integer. -/
def integer? : Text → Option Value
  | '0' :: 'x' :: digits => basedInteger? 16 digits
  | '0' :: 'o' :: digits => basedInteger? 8 digits
  | '0' :: 'b' :: digits => basedInteger? 2 digits
  | word =>
    let (sign, digits) := takeSign word
    (decimalDigits? digits).bind fun digits =>
      let size : Int := Text.toNat 10 digits
      integerValue? (if sign = ['-'] then -size else size)

/-- The text of an exponent with its mark, without underscores; it may be empty. -/
def exponent? : Text → Option Text
  | [] => some []
  | mark :: rest =>
    let (sign, digits) := takeSign rest
    if mark = 'e' || mark = 'E' then
      (ungrouped? Char.isDigit digits).map fun digits => 'e' :: sign ++ digits
    else none

/-- Whether a character is a digit or stands between digits. -/
def isDigitOrMark (char : Char) : Bool := char.isDigit || char = '_'

/-- The text behind the whole part of a floating point number, without underscores. There is a point
with digits behind it, an exponent, or both. -/
def fractionAndExponent? : Text → Option Text
  | [] => none
  | '.' :: rest => do
    let fraction ← ungrouped? Char.isDigit (rest.takeWhile isDigitOrMark)
    let exponent ← exponent? (rest.dropWhile isDigitOrMark)
    pure ('.' :: fraction ++ exponent)
  | rest => exponent? rest

/-- A floating point number that a value holds, or the text of one that it does not hold. -/
def floatValue (number : Binary64) : Value :=
  if number.isFinite then .number (.binary number)
  else if number = Binary64.infinity false then .string "inf"
  else if number = Binary64.infinity true then .string "-inf"
  else .string "NaN"

/-- The value of the word of a floating point number. A number that is too great is refused; one
that is too small is infinite. -/
def float? (word : Text) : Option Value :=
  let (sign, body) := takeSign word
  if body = "inf".toList then some (floatValue (Binary64.infinity (sign = ['-'])))
  else if body = "nan".toList then some (floatValue Binary64.nan)
  else do
    let whole ← decimalDigits? (body.takeWhile isDigitOrMark)
    let rest ← fractionAndExponent? (body.dropWhile isDigitOrMark)
    let number ← Binary64.ofText? (sign ++ whole ++ rest)
    if number = Binary64.infinity false then none else pure (floatValue number)

/-- The value of a word. -/
def ofWord? (word : Text) : Option Value :=
  if word = "true".toList then some (.boolean true)
  else if word = "false".toList then some (.boolean false)
  else match Moment.ofText? word with
    | some moment => some (.string moment.text)
    | none => (integer? word).orElse fun _ => float? word

/-- Whether a character can stand in the word of a value. -/
def isWordChar (char : Char) : Bool :=
  char.isAlphanum || char = '+' || char = '-' || char = '_' || char = '.' || char = ':'

/-- The value of the word at the front of a text, and what follows it. A blank between a date and a
time does not end the word. -/
def scalar? (text : Text) : Option (Value × Text) :=
  let word := text.takeWhile isWordChar
  let rest := text.dropWhile isWordChar
  match isDate word, rest with
  | true, ' ' :: digit :: after =>
    if digit.isDigit then
      let time := (digit :: after).takeWhile isWordChar
      (ofWord? (word ++ ' ' :: time)).map (·, (digit :: after).dropWhile isWordChar)
    else (ofWord? word).map (·, rest)
  | _, _ => (ofWord? word).map (·, rest)

theorem length_of_scalar? {text rest : Text} {value : Value}
    (found : scalar? text = some (value, rest)) : rest.length ≤ text.length := by
  have word : (text.dropWhile isWordChar).length ≤ text.length :=
    (List.dropWhile_sublist _).length_le
  simp only [scalar?] at found
  split at found
  next digit after _ behind =>
    split at found
    next =>
      obtain ⟨_, -, same⟩ := Option.map_eq_some_iff.1 found
      cases same
      have time := (List.dropWhile_sublist isWordChar (l := digit :: after)).length_le
      rw [behind, List.length_cons] at word
      omega
    next =>
      obtain ⟨_, -, same⟩ := Option.map_eq_some_iff.1 found
      cases same
      exact word
  next =>
    obtain ⟨_, -, same⟩ := Option.map_eq_some_iff.1 found
    cases same
    exact word

end TypedConfig.Toml
