import Mathlib.Data.List.Induction
import TypedConfig.Expression.Dollar

/-!
# Dollars outside strings

An expression alternates between text outside strings and strings, and may break off inside a
string (`Alternation`). Every text alternates in this way, and replacing its dollars keeps the
alternation: text outside has its dollars named, and strings are copied with their escapes.

* `replaceDollars_outside`, `replaceDollars_content`: text outside strings and the content of a
  string leave the state of the scanner as it was, whatever follows them.
* `replaceDollars_string`: behind a whole string the state is again that in front of it.
* `exists_content`, `exists_alternation`: every text alternates.
* `dollars_named_outside_strings`: the dollars of an expression are named outside its strings only.
-/

namespace TypedConfig.Expression

/-! ### Expressions and their strings -/

/-- A character of a string: one that stands for itself, or one behind a backslash. -/
inductive Symbol where
  | plain (char : Char) (unmarked : char ≠ '"' ∧ char ≠ '\\')
  | escaped (char : Char)

/-- The written form of a character of a string. -/
def Symbol.text : Symbol → Text
  | .plain char _ => [char]
  | .escaped char => ['\\', char]

/-- The written form of the content of a string. -/
def contentText (content : List Symbol) : Text := content.flatMap Symbol.text

/-- A stretch of an expression: text outside strings, or a string. -/
inductive Stretch where
  | outside (text : Text) (unquoted : '"' ∉ text)
  | string (content : List Symbol)

/-- The written form of a stretch. -/
def Stretch.text : Stretch → Text
  | .outside text _ => text
  | .string content => '"' :: (contentText content ++ ['"'])

/-- What stands behind the last stretch of an expression: nothing, or a string that is not closed,
whose last backslash may have nothing left to escape. -/
inductive Ending where
  | complete
  | unclosed (content : List Symbol)
  | unescaped (content : List Symbol)

/-- The written form of an ending. -/
def Ending.text : Ending → Text
  | .complete => []
  | .unclosed content => '"' :: contentText content
  | .unescaped content => '"' :: (contentText content ++ ['\\'])

/-- An expression, as its stretches. -/
structure Alternation where
  stretches : List Stretch
  ending : Ending

/-- The written form of an expression. -/
def Alternation.text (alternation : Alternation) : Text :=
  alternation.stretches.flatMap Stretch.text ++ alternation.ending.text

/-! ### Named dollars -/

/-- A text with the name of the variable in place of its dollars. -/
def nameDollars (text : Text) : Text :=
  text.flatMap fun char => if char = '$' then valueName else [char]

theorem not_mem_nameDollars {text : Text} (unquoted : '"' ∉ text) : '"' ∉ nameDollars text := by
  intro mem
  obtain ⟨char, inside, named⟩ := List.mem_flatMap.1 mem
  by_cases dollar : char = '$'
  · rw [if_pos dollar] at named
    exact absurd named (by decide)
  · rw [if_neg dollar, List.mem_singleton] at named
    exact unquoted (named ▸ inside)

/-- A stretch with its dollars named, unless it is a string. -/
def Stretch.named : Stretch → Stretch
  | .outside text unquoted => .outside (nameDollars text) (not_mem_nameDollars unquoted)
  | .string content => .string content

/-- An expression with its dollars named outside strings. -/
def Alternation.named (alternation : Alternation) : Alternation :=
  ⟨alternation.stretches.map Stretch.named, alternation.ending⟩

/-! ### What is passed -/

theorem contentText_cons (symbol : Symbol) (content : List Symbol) :
    contentText (symbol :: content) = symbol.text ++ contentText content := List.flatMap_cons

/-- Outside strings dollars are named. -/
theorem replaceDollars_outside {text : Text} (unquoted : '"' ∉ text) (rest : Text) :
    replaceDollars false false (text ++ rest)
      = nameDollars text ++ replaceDollars false false rest := by
  induction text with
  | nil => rfl
  | cons char text ih =>
    rw [List.mem_cons, not_or] at unquoted
    have plain : char ≠ '"' := Ne.symm unquoted.1
    rw [List.cons_append, replaceDollars]
    simp [plain, ih unquoted.2, nameDollars]

/-- The content of a string is copied, and does not end the string. -/
theorem replaceDollars_content (content : List Symbol) (rest : Text) :
    replaceDollars true false (contentText content ++ rest)
      = contentText content ++ replaceDollars true false rest := by
  induction content with
  | nil => rfl
  | cons symbol content ih =>
    rw [contentText_cons, List.append_assoc, List.append_assoc, ← ih]
    cases symbol with
    | plain char unmarked => simp [Symbol.text, replaceDollars, unmarked]
    | escaped char => simp [Symbol.text, replaceDollars]

theorem replaceDollars_opening (text : Text) :
    replaceDollars false false ('"' :: text) = '"' :: replaceDollars true false text := rfl

theorem replaceDollars_closing (text : Text) :
    replaceDollars true false ('"' :: text) = '"' :: replaceDollars false false text := rfl

/-- A string is copied, and closed behind its last quote. -/
theorem replaceDollars_string (content : List Symbol) (rest : Text) :
    replaceDollars false false ((Stretch.string content).text ++ rest)
      = (Stretch.string content).text ++ replaceDollars false false rest := by
  have split (behind : Text) :
      (Stretch.string content).text ++ behind = '"' :: (contentText content ++ '"' :: behind) := by
    simp [Stretch.text]
  rw [split, split, replaceDollars_opening, replaceDollars_content, replaceDollars_closing]

theorem replaceDollars_stretch (stretch : Stretch) (rest : Text) :
    replaceDollars false false (stretch.text ++ rest)
      = stretch.named.text ++ replaceDollars false false rest := by
  cases stretch with
  | outside text unquoted => exact replaceDollars_outside unquoted rest
  | string content => exact replaceDollars_string content rest

/-- A string that is not closed is copied to its end. -/
theorem replaceDollars_ending (ending : Ending) :
    replaceDollars false false ending.text = ending.text := by
  cases ending with
  | complete => rfl
  | unclosed content =>
    have copied := replaceDollars_content content []
    simp only [List.append_nil, replaceDollars] at copied
    rw [Ending.text, replaceDollars_opening, copied]
  | unescaped content =>
    rw [Ending.text, replaceDollars_opening, replaceDollars_content]
    rfl

/-! ### Every text alternates -/

/-- From inside a string one comes to its closing quote, to the end of the text, or to a backslash
in front of the end. -/
theorem exists_content (text : Text) :
    ∃ content behind, text = contentText content ++ behind
      ∧ (behind = [] ∨ behind = ['\\'] ∨ ∃ rest, behind = '"' :: rest) := by
  -- an escape takes two characters
  induction text using List.twoStepInduction with
  | nil => exact ⟨[], [], rfl, .inl rfl⟩
  | singleton char =>
    by_cases quote : char = '"'
    · exact ⟨[], [char], rfl, .inr (.inr ⟨[], by rw [quote]⟩)⟩
    · by_cases backslash : char = '\\'
      · exact ⟨[], [char], rfl, .inr (.inl (by rw [backslash]))⟩
      · exact ⟨[.plain char ⟨quote, backslash⟩], [], rfl, .inl rfl⟩
  | cons_cons char next text short long =>
    by_cases quote : char = '"'
    · exact ⟨[], char :: next :: text, rfl, .inr (.inr ⟨next :: text, by rw [quote]⟩)⟩
    · by_cases backslash : char = '\\'
      · obtain ⟨content, behind, rfl, ends⟩ := short
        exact ⟨.escaped next :: content, behind, by rw [backslash]; rfl, ends⟩
      · obtain ⟨content, behind, same, ends⟩ := long next
        exact ⟨.plain char ⟨quote, backslash⟩ :: content, behind, by rw [same]; rfl, ends⟩

/-- **Every text alternates** between text outside strings and strings. -/
theorem exists_alternation (text : Text) :
    ∃ alternation : Alternation, alternation.text = text := by
  induction length : text.length using Nat.strongRecOn generalizing text with
  | ind length ih =>
    subst length
    cases text with
    | nil => exact ⟨⟨[], .complete⟩, rfl⟩
    | cons char text =>
      by_cases quote : char = '"'
      · obtain ⟨content, behind, rfl, ends⟩ := exists_content text
        rcases ends with rfl | rfl | ⟨rest, rfl⟩
        · exact ⟨⟨[], .unclosed content⟩, by simp [Alternation.text, Ending.text, quote]⟩
        · exact ⟨⟨[], .unescaped content⟩, by simp [Alternation.text, Ending.text, quote]⟩
        · have shorter : rest.length < (char :: (contentText content ++ '"' :: rest)).length := by
            simp only [List.length_cons, List.length_append]
            omega
          obtain ⟨⟨stretches, ending⟩, rfl⟩ := ih _ shorter rest rfl
          exact ⟨⟨.string content :: stretches, ending⟩,
            by simp [Alternation.text, Stretch.text, quote]⟩
      · obtain ⟨⟨stretches, ending⟩, rfl⟩ := ih _ (Nat.lt_succ_self _) text rfl
        have unquoted : '"' ∉ [char] := by simpa using Ne.symm quote
        exact ⟨⟨.outside [char] unquoted :: stretches, ending⟩, rfl⟩

/-! ### Whole expressions -/

theorem substituteDollars_text (alternation : Alternation) :
    substituteDollars alternation.text = alternation.named.text := by
  obtain ⟨stretches, ending⟩ := alternation
  show replaceDollars false false (stretches.flatMap Stretch.text ++ ending.text)
    = (stretches.map Stretch.named).flatMap Stretch.text ++ ending.text
  induction stretches with
  | nil => exact replaceDollars_ending ending
  | cons stretch stretches ih =>
    rw [List.flatMap_cons, List.append_assoc, replaceDollars_stretch, ih, List.map_cons,
      List.flatMap_cons, List.append_assoc]

/-- **Dollars are named exactly outside strings.** Replacing the dollars of an expression gives the
same alternation with the dollars of the text outside named, and all strings as they were, closed
ones and one that is not closed at the end. This covers every text. -/
theorem dollars_named_outside_strings :
    (∀ alternation : Alternation, substituteDollars alternation.text = alternation.named.text)
      ∧ ∀ text, ∃ alternation : Alternation, alternation.text = text :=
  ⟨substituteDollars_text, exists_alternation⟩

example : substituteDollars "$ == \"q\\\"$\\\\\"+$" = "value == \"q\\\"$\\\\\"+value".toList := rfl

end TypedConfig.Expression
