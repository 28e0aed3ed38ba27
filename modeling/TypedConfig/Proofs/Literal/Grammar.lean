import Mathlib.Data.Nat.Digits.Lemmas
import Mathlib.Tactic.IntervalCases
import TypedConfig.Proofs.Literal.Integer

/-!
# The grammar of integer literals

Integer literals have a grammar of their own, in which each text that is a literal comes with the
number that it writes. Reading accepts exactly these texts.

* `IsDigit`, `numberOf`, `Writes`: digits of a radix and the numbers that they write.
* `Grouped`: digits of a radix with single underscores in front of some of them.
* `Literal`, `SignedLiteral`: literals and their numbers.
* `magnitude?_of_prefixed`, `magnitude?_of_plain`: reading behind a prefix and without one.
* `magnitude?_eq_some_iff`, `signed?_eq_some_iff`: reading gives the number of a literal, and
  nothing for other texts.
-/

namespace TypedConfig.IntegerLiteral

/-! ### Digits -/

/-- The digits, with letters in lower case. -/
def lowerDigits : Text := "0123456789abcdef"

/-- The digits, with letters in upper case. -/
def upperDigits : Text := "0123456789ABCDEF"

/-- A character is a digit of a radix, in either case. -/
def IsDigit (radix digit : Nat) (char : Char) : Prop :=
  digit < radix ∧ (lowerDigits[digit]? = some char ∨ upperDigits[digit]? = some char)

/-- The code points of digits: figures, and letters of both cases that count from ten. -/
theorem code_of_digit? {radix digit : Nat} {char : Char}
    (found : Text.digit? radix char = some digit) :
    digit < 10 ∧ char.toNat = 48 + digit ∨ 10 ≤ digit ∧ char.toNat = 87 + digit
      ∨ 10 ≤ digit ∧ char.toNat = 55 + digit := by
  rw [Text.digit?, Option.filter_eq_some_iff] at found
  obtain ⟨value, -⟩ := found
  split_ifs at value with figure lower upper
  · have range : 48 ≤ char.toNat ∧ char.toNat ≤ 57 := by
      rwa [Char.isDigit, Bool.and_eq_true, decide_eq_true_eq, decide_eq_true_eq] at figure
    have same : char.toNat - 48 = digit := Option.some.inj value
    omega
  · have range : 97 ≤ char.toNat ∧ char.toNat ≤ 122 := lower
    have same : char.toNat - 97 + 10 = digit := Option.some.inj value
    omega
  · have range : 65 ≤ char.toNat ∧ char.toNat ≤ 90 := upper
    have same : char.toNat - 65 + 10 = digit := Option.some.inj value
    omega

theorem digit?_sixteen_eq_some_iff {digit : Nat} {char : Char} :
    Text.digit? 16 char = some digit
      ↔ lowerDigits[digit]? = some char ∨ upperDigits[digit]? = some char := by
  constructor
  · intro found
    have inside : digit < 16 := by
      rw [Text.digit?, Option.filter_eq_some_iff, decide_eq_true_eq] at found
      exact found.2
    rcases code_of_digit? found with ⟨small, code⟩ | ⟨large, code⟩ | ⟨large, code⟩
    all_goals
      have same := congrArg Char.ofNat code
      rw [Char.ofNat_toNat] at same
      subst same
      clear found code
      interval_cases digit <;> decide
  · rintro (lower | upper)
    · have bound : digit < 16 := (List.getElem?_eq_some_iff.1 lower).1
      interval_cases digit <;> cases lower <;> rfl
    · have bound : digit < 16 := (List.getElem?_eq_some_iff.1 upper).1
      interval_cases digit <;> cases upper <;> rfl

theorem digit?_eq_some_iff {radix digit : Nat} {char : Char} (small : radix ≤ 16) :
    Text.digit? radix char = some digit ↔ IsDigit radix digit char := by
  rw [IsDigit, ← digit?_sixteen_eq_some_iff, Text.digit?, Text.digit?, Option.filter_eq_some_iff,
    Option.filter_eq_some_iff, decide_eq_true_eq, decide_eq_true_eq]
  constructor
  · rintro ⟨value, inside⟩
    exact ⟨inside, value, Nat.lt_of_lt_of_le inside small⟩
  · rintro ⟨inside, value, -⟩
    exact ⟨value, inside⟩

theorem ne_underscore {radix digit : Nat} {char : Char} (isDigit : IsDigit radix digit char) :
    char ≠ '_' := by
  rintro rfl
  have found := digit?_sixteen_eq_some_iff.2 isDigit.2
  cases found

/-! ### Numbers -/

/-- The number that a list of digits writes, the most significant first. -/
def numberOf (radix : Nat) (digits : List Nat) : Nat := Nat.ofDigits radix digits.reverse

theorem ofDigits_eq_numberOf (radix : Nat) (digits : List Nat) :
    Text.ofDigits radix digits = numberOf radix digits := by
  suffices general : ∀ init, digits.foldl (fun number digit => number * radix + digit) init
      = init * radix ^ digits.length + numberOf radix digits by
    simpa [Text.ofDigits] using general 0
  induction digits with
  | nil => simp [numberOf]
  | cons digit digits ih =>
    intro init
    rw [List.foldl_cons, ih, List.length_cons, numberOf, numberOf, Nat.ofDigits_reverse_cons]
    ring

/-- A text writes digits of a radix, one character for each. -/
def Writes (radix : Nat) (digits : List Nat) (text : Text) : Prop :=
  List.Forall₂ (IsDigit radix) digits text

theorem toNat_of_writes {radix : Nat} (small : radix ≤ 16) {digits : List Nat} {text : Text}
    (writes : Writes radix digits text) : Text.toNat radix text = numberOf radix digits := by
  have read : text.filterMap (Text.digit? radix) = digits := by
    induction writes with
    | nil => rfl
    | cons isDigit _ ih =>
      rw [List.filterMap_cons_some ((digit?_eq_some_iff small).2 isDigit), ih]
  rw [Text.toNat, read, ofDigits_eq_numberOf]

theorem exists_writes_iff {radix : Nat} (small : radix ≤ 16) {text : Text} :
    (∃ digits, Writes radix digits text)
      ↔ (text.all fun char => (Text.digit? radix char).isSome) = true := by
  rw [List.all_eq_true]
  induction text with
  | nil => exact iff_of_true ⟨[], .nil⟩ fun char mem => nomatch mem
  | cons char text ih =>
    rw [List.forall_mem_cons, ← ih, Option.isSome_iff_exists]
    constructor
    · rintro ⟨_, writes⟩
      cases writes with
      | cons isDigit writes => exact ⟨⟨_, (digit?_eq_some_iff small).2 isDigit⟩, _, writes⟩
    · rintro ⟨⟨digit, found⟩, digits, writes⟩
      exact ⟨digit :: digits, .cons ((digit?_eq_some_iff small).1 found) writes⟩

/-! ### Separated digits -/

/-- Digits of a radix as they may be written behind a prefix: an underscore may stand in front of
each of them. -/
inductive Grouped (radix : Nat) : (digits : List Nat) → (text : Text) → Prop
  | nil : Grouped radix [] []
  | digit {digit : Nat} {char : Char} {digits : List Nat} {text : Text}
      (isDigit : IsDigit radix digit char) (rest : Grouped radix digits text) :
      Grouped radix (digit :: digits) (char :: text)
  | separated {digit : Nat} {char : Char} {digits : List Nat} {text : Text}
      (isDigit : IsDigit radix digit char) (rest : Grouped radix digits text) :
      Grouped radix (digit :: digits) ('_' :: char :: text)

theorem has_double_cons {char : Char} {text : Text} (plain : char ≠ '_') :
    Text.has (char :: text) ['_', '_'] ↔ Text.has text ['_', '_'] := by
  rw [Text.has_pair_cons]
  simp [plain]

/-- **Separated digits are digits with underscores between them**, none at the end and no two
together. -/
theorem grouped_iff {radix : Nat} {digits : List Nat} {text : Text} :
    Grouped radix digits text ↔ Writes radix digits (text.filter (· != '_'))
      ∧ text.getLast? ≠ some '_' ∧ ¬ text.has ['_', '_'] := by
  constructor
  · intro grouped
    induction grouped with
    | nil => exact ⟨.nil, by simp, by decide⟩
    | @digit digit char digits text isDigit _ ih =>
      obtain ⟨writes, last, single⟩ := ih
      have plain := ne_underscore isDigit
      refine ⟨?_, ?_, by rwa [has_double_cons plain]⟩
      · rw [List.filter_cons_of_pos (by simpa using plain)]
        exact .cons isDigit writes
      · rw [List.getLast?_cons]
        cases found : text.getLast? <;> simp_all
    | @separated digit char digits text isDigit _ ih =>
      obtain ⟨writes, last, single⟩ := ih
      have plain := ne_underscore isDigit
      refine ⟨?_, ?_, ?_⟩
      · rw [List.filter_cons_of_neg (by simp), List.filter_cons_of_pos (by simpa using plain)]
        exact .cons isDigit writes
      · rw [List.getLast?_cons, List.getLast?_cons]
        cases found : text.getLast? <;> simp_all
      · rw [Text.has_pair_cons, has_double_cons plain]
        simp [plain, single]
  · rintro ⟨writes, last, single⟩
    induction text generalizing digits with
    | nil =>
      cases writes
      exact .nil
    | cons char text ih =>
      rw [Text.has_pair_cons, not_or] at single
      have last' : text.getLast? ≠ some '_' := by
        intro same
        rw [List.getLast?_cons, same] at last
        exact last rfl
      by_cases underscore : char = '_'
      · subst underscore
        rw [List.filter_cons_of_neg (by simp)] at writes
        -- an underscore has a digit behind it
        cases ih writes last' single.2 with
        | nil => exact absurd rfl last
        | digit isDigit rest => exact .separated isDigit rest
        | separated => exact absurd ⟨rfl, rfl⟩ single.1
      · rw [List.filter_cons_of_pos (by simpa using underscore)] at writes
        cases writes with
        | cons isDigit writes => exact .digit isDigit (ih writes last' single.2)

/-! ### Literals without a sign -/

/-- The radix that a letter behind a zero names. -/
def radixOf? (mark : Char) : Option Nat :=
  if mark = 'x' ∨ mark = 'X' then some 16
  else if mark = 'o' ∨ mark = 'O' then some 8
  else if mark = 'b' ∨ mark = 'B' then some 2
  else none

/-- A literal without a sign, and the number that it writes. -/
inductive Literal : Text → Nat → Prop
  /-- Decimal digits without a zero in front, or a zero. -/
  | decimal {digits : List Nat} {text : Text} (writes : Writes 10 digits text)
      (nonempty : digits ≠ []) (leading : text.head? ≠ some '0' ∨ text = ['0']) :
      Literal text (numberOf 10 digits)
  /-- Digits of a radix behind a zero and the letter of the radix. -/
  | marked {mark : Char} {radix : Nat} {digits : List Nat} {text : Text}
      (names : radixOf? mark = some radix) (grouped : Grouped radix digits text)
      (nonempty : digits ≠ []) : Literal ('0' :: mark :: text) (numberOf radix digits)
  /-- Octal digits behind a zero. -/
  | octal {digits : List Nat} {text : Text} (grouped : Grouped 8 digits text)
      (nonempty : digits ≠ []) : Literal ('0' :: text) (numberOf 8 digits)

/-- A literal with an optional sign, and the integer that it writes. -/
inductive SignedLiteral : Text → Int → Prop
  | bare {text : Text} {number : Nat} (literal : Literal text number) : SignedLiteral text number
  | plus {text : Text} {number : Nat} (literal : Literal text number) :
      SignedLiteral ('+' :: text) number
  | minus {text : Text} {number : Nat} (literal : Literal text number) :
      SignedLiteral ('-' :: text) (-number)

theorem Writes.ne_nil_iff {radix : Nat} {digits : List Nat} {text : Text}
    (writes : Writes radix digits text) : digits ≠ [] ↔ text.isEmpty = false := by
  cases writes <;> simp

theorem Writes.underscore_not_mem {radix : Nat} {digits : List Nat} {text : Text}
    (writes : Writes radix digits text) : '_' ∉ text := by
  induction writes with
  | nil => exact List.not_mem_nil
  | cons isDigit _ ih => exact List.not_mem_cons_of_ne_of_not_mem (ne_underscore isDigit).symm ih

section

variable {radix number : Nat} {text inner : Text} {hasPrefix : Bool}

/-- The number of a text is that of its digits, without the underscores that separate them. -/
theorem magnitude?_of_body (small : radix ≤ 16) (split : body text = (radix, inner, hasPrefix)) :
    magnitude? text = some number ↔ separates inner hasPrefix
      ∧ ∃ digits, digits ≠ [] ∧ Writes radix digits (inner.filter (· != '_'))
        ∧ numberOf radix digits = number := by
  rw [magnitude?, split]
  simp only
  constructor
  · intro found
    split_ifs at found with accepted
    rw [Bool.and_eq_true, Bool.and_eq_true, Bool.not_eq_true'] at accepted
    obtain ⟨⟨separated, some⟩, readable⟩ := accepted
    obtain ⟨digits, writes⟩ := (exists_writes_iff small).2 readable
    rw [toNat_of_writes small writes] at found
    exact ⟨separated, digits, writes.ne_nil_iff.2 some, writes, Option.some.inj found⟩
  · rintro ⟨separated, digits, some, writes, rfl⟩
    have readable := (exists_writes_iff small).1 ⟨digits, writes⟩
    rw [separated, writes.ne_nil_iff.1 some, readable, toNat_of_writes small writes]
    rfl

/-- Behind a prefix stand separated digits. -/
theorem magnitude?_of_prefixed (small : radix ≤ 16) (split : body text = (radix, inner, true)) :
    magnitude? text = some number
      ↔ ∃ digits, digits ≠ [] ∧ Grouped radix digits inner ∧ numberOf radix digits = number := by
  have separates_iff : separates inner true
      ↔ '_' ∉ inner ∨ inner.getLast? ≠ some '_' ∧ ¬ inner.has ['_', '_'] := by
    simp [separates]
  have apart : '_' ∉ inner → inner.getLast? ≠ some '_' ∧ ¬ inner.has ['_', '_'] := by
    intro absent
    exact ⟨fun same => absent (List.mem_of_getLast? same), Text.not_has_of_not_mem absent⟩
  rw [magnitude?_of_body small split, separates_iff, or_iff_right_of_imp apart]
  simp only [grouped_iff]
  constructor
  · rintro ⟨separated, digits, some, writes, same⟩
    exact ⟨digits, some, ⟨writes, separated⟩, same⟩
  · rintro ⟨digits, some, ⟨writes, separated⟩, same⟩
    exact ⟨separated, digits, some, writes, same⟩

/-- Without a prefix stand digits only. -/
theorem magnitude?_of_plain (small : radix ≤ 16) (split : body text = (radix, inner, false)) :
    magnitude? text = some number
      ↔ ∃ digits, digits ≠ [] ∧ Writes radix digits inner ∧ numberOf radix digits = number := by
  have separates_iff : separates inner false ↔ '_' ∉ inner := by simp [separates]
  have kept (absent : '_' ∉ inner) : inner.filter (· != '_') = inner := by
    refine List.filter_eq_self.2 fun char mem => bne_iff_ne.2 ?_
    rintro rfl
    exact absent mem
  rw [magnitude?_of_body small split, separates_iff]
  constructor
  · rintro ⟨absent, digits, some, writes, same⟩
    exact ⟨digits, some, kept absent ▸ writes, same⟩
  · rintro ⟨digits, some, writes, same⟩
    have absent := writes.underscore_not_mem
    exact ⟨absent, digits, some, (kept absent).symm ▸ writes, same⟩

end

/-- Behind a zero stands a letter with digits of its radix, or octal digits. -/
theorem body_zero_cons (mark : Char) (text : Text) :
    body ('0' :: mark :: text) = match radixOf? mark with
      | some radix => (radix, text, true)
      | none => (8, mark :: text, true) := by
  rw [body, radixOf?]
  simp only [Bool.or_eq_true, decide_eq_true_eq]
  split_ifs <;> rfl

theorem le_sixteen_of_radixOf? {mark : Char} {radix : Nat} (names : radixOf? mark = some radix) :
    radix ≤ 16 := by
  rw [radixOf?] at names
  split_ifs at names <;> cases names <;> decide

/-- No octal digits begin with the letter of a radix. -/
theorem not_grouped_mark {mark : Char} {radix : Nat} (names : radixOf? mark = some radix)
    {digits : List Nat} {text : Text} : ¬ Grouped 8 digits (mark :: text) := by
  have other : Text.digit? 8 mark = none ∧ mark ≠ '_' := by
    rw [radixOf?] at names
    split_ifs at names with hexadecimal octal binary
    · rcases hexadecimal with rfl | rfl <;> decide
    · rcases octal with rfl | rfl <;> decide
    · rcases binary with rfl | rfl <;> decide
  intro grouped
  cases grouped with
  | digit isDigit =>
    have found := (digit?_eq_some_iff (by decide)).2 isDigit
    cases other.1.symm.trans found
  | separated => exact other.2 rfl

/-- A zero with something behind it is no decimal number. -/
theorem not_leading {mark : Char} {text : Text} :
    ¬ (('0' :: mark :: text).head? ≠ some '0' ∨ '0' :: mark :: text = ['0']) := by
  simp

theorem literal_iff_of_plain {text : Text} {number : Nat}
    (leading : text.head? ≠ some '0' ∨ text = ['0']) :
    Literal text number
      ↔ ∃ digits, digits ≠ [] ∧ Writes 10 digits text ∧ numberOf 10 digits = number := by
  constructor
  · intro literal
    cases literal with
    | decimal writes nonempty => exact ⟨_, nonempty, writes, rfl⟩
    | marked => exact absurd leading not_leading
    | octal grouped nonempty =>
      rcases leading with other | same
      · exact absurd rfl other
      · cases same
        cases grouped
        exact absurd rfl nonempty
  · rintro ⟨digits, nonempty, writes, rfl⟩
    exact .decimal writes nonempty leading

theorem literal_iff_of_mark {mark : Char} {radix : Nat} (names : radixOf? mark = some radix)
    {text : Text} {number : Nat} :
    Literal ('0' :: mark :: text) number
      ↔ ∃ digits, digits ≠ [] ∧ Grouped radix digits text ∧ numberOf radix digits = number := by
  constructor
  · intro literal
    cases literal with
    | decimal _ _ leading => exact absurd leading not_leading
    | marked names' grouped nonempty =>
      cases names.symm.trans names'
      exact ⟨_, nonempty, grouped, rfl⟩
    | octal grouped => exact absurd grouped (not_grouped_mark names)
  · rintro ⟨digits, nonempty, grouped, rfl⟩
    exact .marked names grouped nonempty

theorem literal_iff_of_octal {mark : Char} (names : radixOf? mark = none) {text : Text}
    {number : Nat} :
    Literal ('0' :: mark :: text) number
      ↔ ∃ digits, digits ≠ [] ∧ Grouped 8 digits (mark :: text) ∧ numberOf 8 digits = number := by
  constructor
  · intro literal
    cases literal with
    | decimal _ _ leading => exact absurd leading not_leading
    | marked names' => cases names.symm.trans names'
    | octal grouped nonempty => exact ⟨_, nonempty, grouped, rfl⟩
  · rintro ⟨digits, nonempty, grouped, rfl⟩
    exact .octal grouped nonempty

/-- **Reading gives the number of a literal**, and nothing for a text that is no literal. -/
theorem magnitude?_eq_some_iff {text : Text} {number : Nat} :
    magnitude? text = some number ↔ Literal text number := by
  by_cases leading : text.head? ≠ some '0' ∨ text = ['0']
  · have split : body text = (10, text, false) := by
      rcases leading with other | rfl
      · exact body_of_head?_ne_zero other
      · rfl
    rw [literal_iff_of_plain leading, magnitude?_of_plain (by decide) split]
  · rw [not_or, not_not] at leading
    obtain ⟨zero, more⟩ := leading
    obtain ⟨rest, rfl⟩ := List.head?_eq_some_iff.1 zero
    obtain ⟨mark, text, rfl⟩ : ∃ mark text, rest = mark :: text :=
      List.exists_cons_of_ne_nil fun same => more (same ▸ rfl)
    have split := body_zero_cons mark text
    cases names : radixOf? mark with
    | some radix =>
      rw [names] at split
      rw [literal_iff_of_mark names, magnitude?_of_prefixed (le_sixteen_of_radixOf? names) split]
    | none =>
      rw [names] at split
      rw [literal_iff_of_octal names, magnitude?_of_prefixed (by decide) split]

/-! ### Literals with a sign -/

theorem ne_sign_of_isDigit {radix digit : Nat} {char : Char} (isDigit : IsDigit radix digit char) :
    char ≠ '+' ∧ char ≠ '-' := by
  constructor <;> rintro rfl <;> cases digit?_sixteen_eq_some_iff.2 isDigit.2

/-- A literal without a sign has none. -/
theorem Literal.unsigned {text : Text} {number : Nat} (literal : Literal text number) :
    text.head? ≠ some '+' ∧ text.head? ≠ some '-' := by
  cases literal with
  | decimal writes nonempty leading =>
    cases writes with
    | nil => exact absurd rfl nonempty
    | cons isDigit _ => simpa using ne_sign_of_isDigit isDigit
  | marked | octal => simp

theorem takeSign_of_unsigned {text : Text} (plus : text.head? ≠ some '+')
    (minus : text.head? ≠ some '-') : takeSign text = (false, text) := by
  unfold takeSign
  split
  next => exact absurd rfl minus
  next => exact absurd rfl plus
  next => rfl

/-- **Reading with a sign gives the integer of a literal**, and nothing for a text that is no
literal. -/
theorem signed?_eq_some_iff {text : Text} {number : Int} :
    signed? text = some number ↔ SignedLiteral text number := by
  constructor
  · intro found
    by_cases minus : text.head? = some '-'
    · obtain ⟨rest, rfl⟩ := List.head?_eq_some_iff.1 minus
      obtain ⟨magnitude, read, rfl⟩ := Option.map_eq_some_iff.1 found
      exact .minus (magnitude?_eq_some_iff.1 read)
    by_cases plus : text.head? = some '+'
    · obtain ⟨rest, rfl⟩ := List.head?_eq_some_iff.1 plus
      obtain ⟨magnitude, read, rfl⟩ := Option.map_eq_some_iff.1 found
      exact .plus (magnitude?_eq_some_iff.1 read)
    · rw [signed?, takeSign_of_unsigned plus minus] at found
      obtain ⟨magnitude, read, rfl⟩ := Option.map_eq_some_iff.1 found
      exact .bare (magnitude?_eq_some_iff.1 read)
  · intro literal
    cases literal with
    | bare literal =>
      obtain ⟨plus, minus⟩ := literal.unsigned
      rw [signed?, takeSign_of_unsigned plus minus]
      simp [magnitude?_eq_some_iff.2 literal]
    | plus literal => simp [signed?, takeSign, magnitude?_eq_some_iff.2 literal]
    | minus literal => simp [signed?, takeSign, magnitude?_eq_some_iff.2 literal]

end TypedConfig.IntegerLiteral
