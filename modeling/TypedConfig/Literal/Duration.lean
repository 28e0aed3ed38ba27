import TypedConfig.Decimal.Literal
import TypedConfig.Error
import TypedConfig.Text.Blank
import TypedConfig.Value.Basic

/-!
# Durations

A duration is a number of nanoseconds, its whole seconds within 64 bits. Its literal is a plain
number of seconds, or components one after the other, each a number and a unit: `1h30m`, `1.5s`,
`250ms`. A component is the product of two doubles, rounded to the nearest nanosecond.
-/

namespace TypedConfig

/-- A span of time. -/
structure Duration where
  nanoseconds : Nat
  deriving DecidableEq

namespace Duration

/-- The nanoseconds of a second. -/
def perSecond : Nat := 1000000000

/-- The first number of nanoseconds whose seconds need more than 64 bits. -/
def bound : Nat := Nat.pow 2 64 * perSecond

/-- The duration of a number of nanoseconds, if it is in range. -/
def ofNanoseconds? (nanoseconds : Nat) : Option Duration :=
  if nanoseconds < bound then some ⟨nanoseconds⟩ else none

/-- The duration of a number of seconds, rounded to the nearest nanosecond, a tie to the even
one. -/
def ofSeconds? (seconds : Binary64) : Option Duration :=
  if seconds.isFinite && (!seconds.isNegative || seconds.magnitude.1 = 0) then
    let (significand, exponent) := seconds.magnitude
    ofNanoseconds?
      (roundDiv (significand * perSecond * Nat.pow 2 exponent.toNat) (Nat.pow 2 (-exponent).toNat))
  else none

/-- The seconds in a unit, as the literal that is multiplied with. -/
def unit? (name : Text) : Option (Nat × Int) :=
  if name = "ns".toList then some (1, -9)
  else if name = "us".toList || name = "µs".toList then some (1, -6)
  else if name = "ms".toList then some (1, -3)
  else if name = "s".toList then some (1, 0)
  else if name = "m".toList then some (60, 0)
  else if name = "h".toList then some (3600, 0)
  else none

/-- Whether a character belongs to the number of a component. -/
def isNumberChar (char : Char) : Bool := char.isDigit || char = '.'

/-- A component: the text of its number and the text of its unit. -/
structure Component where
  number : Text
  unit : Text

/-- The components of a text, cut where a number begins; the last unit is empty when a number
stands at the end. -/
def components (text : Text) : List Component :=
  match text with
  | [] => []
  | char :: rest =>
    let text := char :: rest
    let behind := text.dropWhile isNumberChar
    ⟨text.takeWhile isNumberChar, behind.takeWhile (!isNumberChar ·)⟩
      :: components (behind.dropWhile (!isNumberChar ·))
termination_by text.length
decreasing_by
  cases number : isNumberChar char with
  | true =>
    have first := (List.dropWhile_sublist isNumberChar (l := rest)).length_le
    have second := (List.dropWhile_sublist (!isNumberChar ·)
      (l := rest.dropWhile isNumberChar)).length_le
    simp only [List.dropWhile_cons, number, if_true, List.length_cons]
    omega
  | false =>
    have second := (List.dropWhile_sublist (!isNumberChar ·) (l := rest)).length_le
    simp only [List.dropWhile_cons, number, List.length_cons, Bool.not_false, if_true,
      Bool.false_eq_true, if_false]
    omega

/-- The seconds of a component: its number times its unit, as doubles. -/
def Component.seconds? (component : Component) : Option Binary64 :=
  match Binary64.ofText? component.number, unit? component.unit with
  | some amount, some (digits, exponent) =>
    let scale := DecimalLiteral.toBinary64 .double (.finite false digits exponent)
    some (amount.mul scale)
  | _, _ => none

/-- The sum of components behind a duration; `input` is the text that an error names. -/
def sum (input : Text) : Duration → List Component → Except LiteralError Duration
  | total, [] => .ok total
  | total, component :: rest =>
    match component.seconds? with
    | none => .error (.malformed .duration input)
    | some seconds =>
      match (ofSeconds? seconds).bind fun part =>
          ofNanoseconds? (total.nanoseconds + part.nanoseconds) with
      | none => .error (.outOfRange .duration input)
      | some total => sum input total rest

/-- The duration that a text writes. -/
def read (text : Text) : Except LiteralError Duration :=
  let text := text.trim
  if text = [] then .error (.malformed .duration text)
  else if text.all Char.isDigit then
    match ofNanoseconds? (Text.toNat 10 text * perSecond) with
    | some duration => .ok duration
    | none => .error (.outOfRange .duration text)
  else sum text ⟨0⟩ (components text)

/-- The whole seconds of a duration. -/
def seconds (duration : Duration) : Nat := duration.nanoseconds / perSecond

/-- The nanoseconds beyond the whole seconds. -/
def subsecond (duration : Duration) : Nat := duration.nanoseconds % perSecond

/-- The object of a duration. -/
def document (duration : Duration) : Value :=
  .ofMembers [("secs", .ofInt duration.seconds), ("nanos", .ofInt duration.subsecond)]

end Duration

end TypedConfig
