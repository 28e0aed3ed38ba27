import TypedConfig.Text.Basic

/-!
# Dates and times

A moment is a date, a time of day, or both with or without an offset from universal time. It is
written `1979-05-27T07:32:00.5-07:00`: the letter between date and time may also be a small one or a
blank, a fraction of a second keeps nine digits, and no fraction is written when it is zero.
-/

namespace TypedConfig.Toml

/-- A day of the proleptic Gregorian calendar. -/
structure Date where
  year : Nat
  month : Nat
  day : Nat

/-- A time of day; the second 60 is a leap second. -/
structure Time where
  hour : Nat
  minute : Nat
  second : Nat
  nanosecond : Nat

/-- The distance of a local time from universal time. -/
inductive Offset where
  | universal
  | shifted (negative : Bool) (hours minutes : Nat)

/-- A date, a time, or both. -/
structure Moment where
  date : Option Date
  time : Option Time
  offset : Option Offset

/-! ### Writing -/

/-- A number with zeros in front, at least `width` digits wide. -/
def padded (width number : Nat) : Text :=
  let digits := Text.ofNat number
  List.replicate (width - digits.length) '0' ++ digits

/-- The text of a date. -/
def Date.text (date : Date) : Text :=
  padded 4 date.year ++ "-" ++ padded 2 date.month ++ "-" ++ padded 2 date.day

/-- The text of a time. -/
def Time.text (time : Time) : Text :=
  let fraction := ((padded 9 time.nanosecond).reverse.dropWhile (· = '0')).reverse
  padded 2 time.hour ++ ":" ++ padded 2 time.minute ++ ":" ++ padded 2 time.second
    ++ if fraction = [] then [] else '.' :: fraction

/-- The text of an offset; a distance of zero is positive. -/
def Offset.text : Offset → Text
  | universal => "Z"
  | shifted negative hours minutes =>
    (if negative && (hours != 0 || minutes != 0) then '-' else '+') :: padded 2 hours ++ ":"
      ++ padded 2 minutes

/-- The text of a moment. -/
def Moment.text (moment : Moment) : Text :=
  let time := match moment.date, moment.time with
    | some _, some time => 'T' :: time.text
    | none, some time => time.text
    | _, none => []
  (moment.date.map Date.text).getD [] ++ time ++ (moment.offset.map Offset.text).getD []

/-! ### Reading -/

/-- The number of a given count of digits at the front of a text, and what follows them. -/
def digits? (count : Nat) (text : Text) : Option (Nat × Text) :=
  let digits := text.take count
  if digits.length = count && digits.all Char.isDigit then
    some (Text.toNat 10 digits, text.drop count)
  else none

/-- Two digits whose number lies within bounds, and what follows them. -/
def twoDigits? (least greatest : Nat) (text : Text) : Option (Nat × Text) :=
  (digits? 2 text).filter fun parts => least ≤ parts.1 && parts.1 ≤ greatest

/-- What follows a character at the front of a text. -/
def dropChar? (char : Char) : Text → Option Text
  | first :: rest => if first = char then some rest else none
  | [] => none

/-- Whether a year has a leap day. -/
def isLeapYear (year : Nat) : Bool := year % 4 = 0 && (year % 100 != 0 || year % 400 = 0)

/-- The number of days of a month. -/
def daysInMonth (year month : Nat) : Nat :=
  if month = 2 then (if isLeapYear year then 29 else 28)
  else if [4, 6, 9, 11].contains month then 30
  else 31

/-- A date at the front of a text, and what follows it. -/
def date? (text : Text) : Option (Date × Text) := do
  let (year, rest) ← digits? 4 text
  let (month, rest) ← twoDigits? 1 12 (← dropChar? '-' rest)
  let (day, rest) ← twoDigits? 1 (daysInMonth year month) (← dropChar? '-' rest)
  pure (⟨year, month, day⟩, rest)

/-- The nanoseconds of a fraction of a second and what follows it; digits behind the ninth are
dropped. -/
def fraction? : Text → Option (Nat × Text)
  | '.' :: rest =>
    let digits := rest.takeWhile Char.isDigit
    let kept := digits.take 9
    if digits = [] then none
    else some (Text.toNat 10 kept * Nat.pow 10 (9 - kept.length), rest.dropWhile Char.isDigit)
  | text => some (0, text)

/-- A time at the front of a text, and what follows it. -/
def time? (text : Text) : Option (Time × Text) := do
  let (hour, rest) ← twoDigits? 0 23 text
  let (minute, rest) ← twoDigits? 0 59 (← dropChar? ':' rest)
  let (second, rest) ← twoDigits? 0 60 (← dropChar? ':' rest)
  let (nanosecond, rest) ← fraction? rest
  pure (⟨hour, minute, second, nanosecond⟩, rest)

/-- The offset that a text writes, if it is not empty. -/
def offset? : Text → Option (Option Offset)
  | [] => some none
  | ['Z'] | ['z'] => some (some .universal)
  | sign :: rest => do
    let (hours, rest) ← twoDigits? 0 23 rest
    let (minutes, rest) ← twoDigits? 0 59 (← dropChar? ':' rest)
    if (sign = '+' || sign = '-') && rest = [] then
      pure (some (.shifted (sign = '-') hours minutes))
    else none

/-- Whether a text is a date without a time. -/
def isDate (text : Text) : Bool :=
  match date? text with
  | some (_, rest) => rest.isEmpty
  | none => false

/-- Whether a character can stand between a date and a time. -/
def isDelimiter (char : Char) : Bool := char = 'T' || char = 't' || char = ' '

/-- The moment that a text writes. -/
def Moment.ofText? (text : Text) : Option Moment :=
  match date? text with
  | some (date, []) => some ⟨some date, none, none⟩
  | some (date, delimiter :: rest) =>
    if isDelimiter delimiter then do
      let (time, rest) ← time? rest
      let offset ← offset? rest
      pure ⟨some date, some time, offset⟩
    else none
  | none =>
    match time? text with
    | some (time, []) => some ⟨none, some time, none⟩
    | _ => none

end TypedConfig.Toml
