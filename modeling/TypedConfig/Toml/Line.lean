import TypedConfig.Text.Basic

/-!
# Blanks, comments and line ends of a TOML document

Blanks are spaces and tabs. A line ends with a line feed, alone or behind a carriage return, and a
comment reaches from its mark to the end of the line; control characters other than the tab may stand
in neither comments nor strings.

* `skipBlanks`, `skipLines?`: what follows blanks, or blanks, comments and line ends.
* `endLine?`: what follows the end of a line.
-/

namespace TypedConfig.Toml

/-- Whether a character is a blank within a line. -/
def isBlank (char : Char) : Bool := char = ' ' || char = '\t'

/-- Whether a character may stand for itself in comments and strings. -/
def isPlain (char : Char) : Bool := char = '\t' || (0x20 ≤ char.toNat && char.toNat != 0x7F)

/-- What follows the blanks at the front of a text. -/
def skipBlanks (text : Text) : Text := text.dropWhile isBlank

/-- What follows a line end. -/
def dropBreak? : Text → Option Text
  | '\n' :: rest => some rest
  | '\r' :: '\n' :: rest => some rest
  | _ => none

/-- What follows a comment, the line end excluded; a text without a comment is left as it is. -/
def skipComment : Text → Text
  | '#' :: rest => rest.dropWhile isPlain
  | text => text

/-- What follows the end of a line: blanks, a comment, and a line end or the end of the text. -/
def endLine? (text : Text) : Option Text :=
  match skipComment (skipBlanks text) with
  | [] => some []
  | rest => dropBreak? rest

theorem length_of_dropBreak? {text rest : Text} (found : dropBreak? text = some rest) :
    rest.length < text.length := by
  unfold dropBreak? at found
  split at found
  · obtain rfl := Option.some.inj found
    exact Nat.lt_succ_self _
  · obtain rfl := Option.some.inj found
    exact Nat.lt_of_lt_of_le (Nat.lt_succ_self _) (Nat.le_succ _)
  · exact absurd found (Option.some_ne_none _).symm

theorem length_skipBlanks (text : Text) : (skipBlanks text).length ≤ text.length :=
  (List.dropWhile_sublist _).length_le

/-- Behind blanks and a further character is less. -/
theorem length_of_skipBlanks_eq {char : Char} {text rest : Text}
    (start : skipBlanks text = char :: rest) : rest.length < text.length := by
  have blanks := length_skipBlanks text
  rwa [start, List.length_cons] at blanks

theorem length_skipComment (text : Text) : (skipComment text).length ≤ text.length := by
  unfold skipComment
  split
  · exact Nat.le_succ_of_le (List.dropWhile_sublist _).length_le
  · exact Nat.le_refl _

/-- A line end takes something off, with a comment in front of it or without. -/
theorem length_of_dropBreak?_skipComment {text rest : Text}
    (found : dropBreak? (skipComment text) = some rest) : rest.length < text.length :=
  Nat.lt_of_lt_of_le (length_of_dropBreak? found) (length_skipComment text)

/-- Behind the end of a line is less, unless nothing is left. -/
theorem length_of_endLine? {text rest : Text} (found : endLine? text = some rest) :
    rest = [] ∨ rest.length < text.length := by
  unfold endLine? at found
  split at found
  · exact .inl (Option.some.inj found).symm
  · exact .inr (Nat.lt_of_lt_of_le (length_of_dropBreak?_skipComment found) (length_skipBlanks text))

/-- Behind the end of a line that holds something is less than the line began with. -/
theorem length_of_line {char : Char} {text start rest after : Text}
    (filled : skipBlanks text = char :: start) (inside : rest.length ≤ (char :: start).length)
    (ended : endLine? rest = some after) : after.length < text.length := by
  have blanks := length_of_skipBlanks_eq filled
  rw [List.length_cons] at inside
  rcases length_of_endLine? ended with rfl | shorter
  · exact Nat.zero_lt_of_lt blanks
  · omega

/-- What follows any blanks, comments and line ends. A comment ends with a line end. -/
def skipLines? (text : Text) : Option Text :=
  match start : skipBlanks text with
  | [] => some []
  | char :: rest =>
    if char = '#' || char = '\n' || char = '\r' then
      match found : dropBreak? (skipComment (char :: rest)) with
      | none => none
      | some after =>
        have : after.length < text.length := by
          have line := length_of_dropBreak?_skipComment found
          have blanks := length_of_skipBlanks_eq start
          rw [List.length_cons] at line
          omega
        skipLines? after
    else some (char :: rest)
termination_by text.length

theorem length_of_skipLines? {text rest : Text} (found : skipLines? text = some rest) :
    rest.length ≤ text.length := by
  fun_induction skipLines? text with
  | case1 =>
    cases found
    exact Nat.zero_le _
  | case2 => cases found
  | case3 text char behind start _ after _ shorter ih =>
    exact Nat.le_trans (ih found) (Nat.le_of_lt shorter)
  | case4 text char behind start =>
    cases found
    rw [← start]
    exact length_skipBlanks text

end TypedConfig.Toml
