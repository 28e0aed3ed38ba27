/-!
# Text

A `Text` is a list of characters. Keys, values, tags and messages of this library are texts, so
that every scanner is a recursion on the data; a string literal stands for its list of characters.

* `cut?`, `cutLast?`: a text divided at the first or the last occurrence of a mark.
* `splitOn`: the parts between the occurrences of one character.
* `dropStart?`: what follows a given beginning.
* `ofNat`, `ofInt`, `toNat`: decimal digits written and read.

`append_of_dropStart?`, `append_of_cut?` and `append_of_cutLast?` say that nothing of the text is
lost.
-/

namespace TypedConfig

/-- A text, as its list of characters. -/
abbrev Text := List Char

instance : Coe String Text := ⟨String.toList⟩

namespace Text

/-- Whether the code point of a character is in one of several ranges, which hold both their ends
and ascend. -/
def inRanges : (ranges : List (Nat × Nat)) → (char : Char) → Bool
  | [], _ => false
  | (first, last) :: ranges, char =>
    first ≤ char.toNat && (char.toNat ≤ last || inRanges ranges char)

/-- What follows `start` in a text that begins with it. -/
def dropStart? : (text start : Text) → Option Text
  | text, [] => some text
  | [], _ :: _ => none
  | char :: text, first :: start => if first = char then dropStart? text start else none

/-- Whether a text begins with `start`. -/
def startsWith (text start : Text) : Bool := (dropStart? text start).isSome

/-- The text before and the text after the first occurrence of `mark`. -/
def cut? : (text mark : Text) → Option (Text × Text)
  | [], mark => if mark = [] then some ([], []) else none
  | char :: text, mark =>
    match dropStart? (char :: text) mark with
    | some after => some ([], after)
    | none => (cut? text mark).map fun parts => (char :: parts.1, parts.2)

/-- The text before and the text after the last occurrence of `mark`. -/
def cutLast? : (text mark : Text) → Option (Text × Text)
  | [], mark => if mark = [] then some ([], []) else none
  | char :: text, mark =>
    match cutLast? text mark with
    | some parts => some (char :: parts.1, parts.2)
    | none => (dropStart? (char :: text) mark).map fun after => ([], after)

/-- Whether `mark` occurs in a text. -/
def has (text mark : Text) : Bool := (cut? text mark).isSome

/-- The parts between the occurrences of `separator`; the empty text has one empty part. -/
def splitOn (text : Text) (separator : Char) : List Text :=
  text.foldr (fun char parts =>
    if char = separator then [] :: parts
    else match parts with
      | [] => [[char]]
      | part :: parts => (char :: part) :: parts) [[]]

/-- The texts of a list, one after the other, with `separator` between neighbours. -/
def join (separator : Text) : List Text → Text
  | [] => []
  | [part] => part
  | part :: parts => part ++ separator ++ join separator parts

/-- A text without the characters of a class at both ends. -/
def trimOf (drop : Char → Bool) (text : Text) : Text :=
  ((text.dropWhile drop).reverse.dropWhile drop).reverse

/-- Whether a text is not empty and holds ASCII digits only. -/
def isDigits (text : Text) : Bool := !text.isEmpty && text.all Char.isDigit

/-- The decimal digits of a natural number. -/
def ofNat (number : Nat) : Text := Nat.toDigits 10 number

/-- The decimal digits of an integer, after a minus when it is negative. -/
def ofInt : Int → Text
  | .ofNat number => ofNat number
  | .negSucc number => '-' :: ofNat (number + 1)

/-- The value of a digit of a radix up to 36, letters of both cases counting from ten. -/
def digit? (radix : Nat) (char : Char) : Option Nat :=
  let value :=
    if char.isDigit then some (char.toNat - '0'.toNat)
    else if 'a' ≤ char ∧ char ≤ 'z' then some (char.toNat - 'a'.toNat + 10)
    else if 'A' ≤ char ∧ char ≤ 'Z' then some (char.toNat - 'A'.toNat + 10)
    else none
  value.filter (· < radix)

/-- The number that a list of digits writes, the most significant first. -/
def ofDigits (radix : Nat) (digits : List Nat) : Nat :=
  digits.foldl (fun number digit => number * radix + digit) 0

/-- The number that the digits of a text write; characters that are no digits are passed over. -/
def toNat (radix : Nat) (text : Text) : Nat := ofDigits radix (text.filterMap (digit? radix))

/-- ASCII letters in lower case, all other characters unchanged. -/
def lowerAscii (text : Text) : Text := text.map Char.toLower

/-- ASCII letters in upper case, all other characters unchanged. -/
def upperAscii (text : Text) : Text := text.map Char.toUpper

/-- The number of bytes of a text in UTF-8. -/
def utf8Length (text : Text) : Nat := text.foldr (fun char total => char.utf8Size + total) 0

/-! ### Nothing is lost -/

theorem append_of_dropStart? {text start after : Text}
    (found : dropStart? text start = some after) : text = start ++ after := by
  fun_induction dropStart? text start with
  | case1 text => simpa using found
  | case2 => simp at found
  | case3 text start char ih => simp [ih found]
  | case4 => simp at found

@[simp]
theorem dropStart?_append (start after : Text) :
    dropStart? (start ++ after) start = some after := by
  induction start with
  | nil => cases after <;> rfl
  | cons first start ih => simp [dropStart?, ih]

theorem dropStart?_eq_some_iff {text start after : Text} :
    dropStart? text start = some after ↔ text = start ++ after :=
  ⟨append_of_dropStart?, fun same => same ▸ dropStart?_append start after⟩

theorem append_of_cut? {text mark before after : Text}
    (found : cut? text mark = some (before, after)) : text = before ++ mark ++ after := by
  induction text generalizing before with
  | nil =>
    by_cases empty : mark = [] <;> simp_all [cut?]
  | cons char text ih =>
    rw [cut?] at found
    split at found
    next after' here =>
      obtain ⟨rfl, rfl⟩ := by simpa using found
      simpa using append_of_dropStart? here
    next =>
      obtain ⟨⟨before', after'⟩, later, same⟩ := Option.map_eq_some_iff.1 found
      obtain ⟨rfl, rfl⟩ := by simpa using same
      simp [ih later]

theorem append_of_cutLast? {text mark before after : Text}
    (found : cutLast? text mark = some (before, after)) : text = before ++ mark ++ after := by
  induction text generalizing before with
  | nil =>
    by_cases empty : mark = [] <;> simp_all [cutLast?]
  | cons char text ih =>
    rw [cutLast?] at found
    split at found
    next parts later =>
      obtain ⟨rfl, rfl⟩ := by simpa using found
      simp [ih later]
    next =>
      obtain ⟨after', here, same⟩ := Option.map_eq_some_iff.1 found
      obtain ⟨rfl, rfl⟩ := by simpa using same
      simpa using append_of_dropStart? here

end Text

end TypedConfig
