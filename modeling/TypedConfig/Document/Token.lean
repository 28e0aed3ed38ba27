import TypedConfig.Value.Basic

/-!
# The tokens of a document

The text of a document is cut into punctuation, words, strings and numbers; blanks between tokens
are space, tab, line feed and carriage return. `tokens?` ends because every token is taken
from the front of the rest.

### Numbers

An integer that fits 64 bits stays an integer. Any other number is a double, computed from the
digits that fit a 64 bit significand and one multiplication or division by a power of ten: digits of
the whole part beyond the significand only raise the exponent, digits of the fraction beyond it are
dropped. A number above the greatest double is refused.
-/

namespace TypedConfig.Document

/-- A token of a document. -/
inductive Token where
  | openArray
  | closeArray
  | openObject
  | closeObject
  | comma
  | colon
  | string (text : Text)
  | scalar (value : Value)

/-! ### Strings -/

/-- One character more in front of a part. -/
def pushChar (char : Char) (parts : Text × Text) : Text × Text := (char :: parts.1, parts.2)

/-- The text up to the closing quote, its escapes untouched, and what follows the quote. -/
def takeQuoted : Text → Option (Text × Text)
  | [] => none
  | '"' :: rest => some ([], rest)
  | '\\' :: char :: rest => (takeQuoted rest).map (pushChar '\\' ∘ pushChar char)
  | char :: rest => (takeQuoted rest).map (pushChar char)

theorem length_of_takeQuoted {text content rest : Text}
    (found : takeQuoted text = some (content, rest)) : rest.length < text.length := by
  fun_induction takeQuoted text generalizing content with
  | case1 => simp at found
  | case2 rest' => simp_all
  | case3 char rest' ih =>
    obtain ⟨⟨inner, outer⟩, taken, same⟩ := Option.map_eq_some_iff.1 found
    obtain ⟨rfl, rfl⟩ := by simpa [pushChar] using same
    have := ih taken
    grind
  | case4 char rest' _ _ ih =>
    obtain ⟨⟨inner, outer⟩, taken, same⟩ := Option.map_eq_some_iff.1 found
    obtain ⟨rfl, rfl⟩ := by simpa [pushChar] using same
    have := ih taken
    grind

/-- The number that four digits in base sixteen write. -/
def hex4? (a b c d : Char) : Option Nat :=
  match Text.digit? 16 a, Text.digit? 16 b, Text.digit? 16 c, Text.digit? 16 d with
  | some a, some b, some c, some d => some (Text.ofDigits 16 [a, b, c, d])
  | _, _, _, _ => none

/-- The character of an escape of one letter. -/
def escaped? : Char → Option Char
  | '"' => some '"'
  | '\\' => some '\\'
  | '/' => some '/'
  | 'b' => some '\x08'
  | 'f' => some '\x0C'
  | 'n' => some '\n'
  | 'r' => some '\r'
  | 't' => some '\t'
  | _ => none

/-- The code units of a quoted text: an escape of four digits stands for one unit, any other
character for its code point. -/
def codeUnits? : Text → Option (List Nat)
  | [] => some []
  | '\\' :: 'u' :: a :: b :: c :: d :: rest => do
    let unit ← hex4? a b c d
    let units ← codeUnits? rest
    pure (unit :: units)
  | '\\' :: letter :: rest => do
    let char ← escaped? letter
    let units ← codeUnits? rest
    pure (char.toNat :: units)
  | char :: rest =>
    if char = '\\' || char.toNat < 0x20 then none
    else (codeUnits? rest).map (char.toNat :: ·)

/-- Whether a code unit is the first of a surrogate pair. -/
def isHighSurrogate (unit : Nat) : Bool := 0xD800 ≤ unit && unit < 0xDC00

/-- Whether a code unit is the second of a surrogate pair. -/
def isLowSurrogate (unit : Nat) : Bool := 0xDC00 ≤ unit && unit < 0xE000

/-- The text of code units, a surrogate pair being one character; a lone surrogate is none. -/
def ofCodeUnits? : List Nat → Option Text
  | [] => some []
  | first :: second :: units =>
    if isHighSurrogate first then
      if isLowSurrogate second then
        (ofCodeUnits? units).map
          (Char.ofNat (0x10000 + (first - 0xD800) * 0x400 + (second - 0xDC00)) :: ·)
      else none
    else if isLowSurrogate first then none
    else (ofCodeUnits? (second :: units)).map (Char.ofNat first :: ·)
  | [unit] =>
    if isHighSurrogate unit || isLowSurrogate unit then none else some [Char.ofNat unit]

/-! ### Numbers -/

/-- The bound of a significand. -/
def significandBound : Nat := Nat.pow 2 64

/-- The double of a significand and a power of ten, or nothing beyond the greatest double. -/
def scaled? (negative : Bool) (significand : Nat) (exponent : Int) : Option Binary64 :=
  let power (exponent : Nat) : Float := (Binary64.ofRatio false (Nat.pow 10 exponent) 1).toFloat
  let start := (Binary64.ofRatio false significand 1).toFloat
  let signed (number : Float) : Binary64 := Binary64.ofFloat (if negative then -number else number)
  let rec lower : Nat → Float → Int → Float
    | 0, number, _ => number
    | steps + 1, number, exponent =>
      if number == 0 then number
      else if exponent < -308 then lower steps (number / power 308) (exponent + 308)
      else number / power (-exponent).toNat
  if significand = 0 then some (signed start)
  else if 308 < exponent then none
  else if 0 ≤ exponent then
    let product := start * power exponent.toNat
    if product.isInf then none else some (signed product)
  else some (signed (lower 4 start exponent))

/-- A run of digits taken into a significand while it stays within its bound: the significand, how
many digits it took, and how many are left over. -/
def accumulate : (significand taken : Nat) → Text → Nat × Nat × Nat
  | significand, taken, [] => (significand, taken, 0)
  | significand, taken, char :: digits =>
    let next := significand * 10 + (char.toNat - '0'.toNat)
    if next < significandBound then accumulate next (taken + 1) digits
    else (significand, taken, digits.length + 1)

/-- The bound of the digits of an exponent. -/
def exponentBound : Nat := Nat.pow 2 31

/-- The double of a significand, a power of ten and the text of a further exponent. -/
def withExponent? (negative : Bool) (significand : Nat) (power : Int) : Text → Option Binary64
  | [] => scaled? negative significand power
  | mark :: text =>
    if mark = 'e' || mark = 'E' then
      let (below, digits) := match text with
        | '-' :: digits => (true, digits)
        | '+' :: digits => (false, digits)
        | digits => (false, digits)
      let size := Text.toNat 10 digits
      if !Text.isDigits digits then none
      else if size < exponentBound then
        scaled? negative significand (if below then power - size else power + size)
      else if significand != 0 && !below then none
      else scaled? negative 0 0
    else none

/-- Reads the number that a whole text writes. -/
def numberOfText? (text : Text) : Option Number :=
  let (negative, body) := match text with
    | '-' :: body => (true, body)
    | body => (false, body)
  let whole := body.takeWhile Char.isDigit
  let rest := body.dropWhile Char.isDigit
  if whole = [] || (whole.head? = some '0' && 1 < whole.length) then none
  else
    let (significand, _, excess) := accumulate 0 0 whole
    match rest with
    | [] =>
      if excess = 0 && !negative then some (.integer significand)
      else if excess = 0 && 0 < significand && significand ≤ Nat.pow 2 63 then
        some (.integer (-significand))
      else (scaled? negative significand excess).map .binary
    | '.' :: rest =>
      let fraction := rest.takeWhile Char.isDigit
      if fraction = [] then none
      else
        let (significand, taken, _) := accumulate significand 0 fraction
        (withExponent? negative significand ((excess : Int) - taken) (rest.dropWhile Char.isDigit)).map
          .binary
    | rest => (withExponent? negative significand excess rest).map .binary

/-! ### Tokens -/

/-- Whether a character separates tokens. -/
def isBlank (char : Char) : Bool := char = ' ' || char = '\t' || char = '\n' || char = '\r'

/-- Whether a character can stand in a number. -/
def isNumberChar (char : Char) : Bool :=
  char.isDigit || char = '-' || char = '+' || char = '.' || char = 'e' || char = 'E'

/-- Whether a character can stand in a word. -/
def isWordChar (char : Char) : Bool := 'a' ≤ char && char ≤ 'z'

/-- The value of a word. -/
def ofWord? (word : Text) : Option Value :=
  if word = "null".toList then some Value.null
  else if word = "true".toList then some (Value.boolean true)
  else if word = "false".toList then some (Value.boolean false)
  else none

/-- The punctuation of a character. -/
def punctuation? : Char → Option Token
  | '[' => some .openArray
  | ']' => some .closeArray
  | '{' => some .openObject
  | '}' => some .closeObject
  | ',' => some .comma
  | ':' => some .colon
  | _ => none

/-- The tokens of a text, or nothing when some part of it is no token. -/
def tokens? (text : Text) : Option (List Token) :=
  match text with
  | [] => some []
  | char :: rest =>
    if isBlank char then tokens? rest
    else match punctuation? char with
    | some token => (tokens? rest).map (token :: ·)
    | none =>
      if char = '"' then
        match found : takeQuoted rest with
        | none => none
        | some (content, after) =>
          have := length_of_takeQuoted found
          match (codeUnits? content).bind ofCodeUnits? with
          | none => none
          | some text => (tokens? after).map (.string text :: ·)
      else if isNumberChar char then
        match numberOfText? (char :: rest.takeWhile isNumberChar) with
        | none => none
        | some number =>
          (tokens? (rest.dropWhile isNumberChar)).map (.scalar (.number number) :: ·)
      else match ofWord? (char :: rest.takeWhile isWordChar) with
      | none => none
      | some value => (tokens? (rest.dropWhile isWordChar)).map (.scalar value :: ·)
termination_by text.length
decreasing_by
  all_goals simp_wf
  all_goals first
    | omega
    | (have number := (List.dropWhile_sublist isNumberChar (l := rest)).length_le
       have word := (List.dropWhile_sublist isWordChar (l := rest)).length_le
       omega)

end TypedConfig.Document
