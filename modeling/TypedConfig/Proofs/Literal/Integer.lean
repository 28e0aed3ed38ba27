import TypedConfig.Literal.Integer
import TypedConfig.Placeholder
import TypedConfig.Proofs.Key.Tree
import TypedConfig.Proofs.Text.Cut

/-!
# Written integers are read back

The decimal text of an integer has no leading zero, so no prefix is read into it.

* `magnitude?_ofNat`: the text of a natural number writes that number.
* `readSigned_ofInt`, `readUnsigned_ofNat`: the text of an integer is read back at every width that
  the integer fits.
-/

namespace TypedConfig.IntegerLiteral

open Key (isDigit_of_mem_ofNat)

/-! ### Digits -/

theorem digit?_of_isDigit {char : Char} (digit : char.isDigit) :
    Text.digit? 10 char = some (char.toNat - '0'.toNat) := by
  have range : 48 ≤ char.toNat ∧ char.toNat ≤ 57 := by
    rw [Char.isDigit, Bool.and_eq_true, decide_eq_true_eq, decide_eq_true_eq] at digit
    exact digit
  have small : char.toNat - '0'.toNat < 10 := by
    show char.toNat - 48 < 10
    omega
  unfold Text.digit?
  rw [if_pos digit, Option.filter_some, if_pos (by simpa using small)]

theorem toNat_eq_ofDigitChars {text : Text} (digits : ∀ char ∈ text, char.isDigit) :
    Text.toNat 10 text = Nat.ofDigitChars 10 text 0 := by
  suffices general : ∀ init : Nat,
      (text.filterMap (Text.digit? 10)).foldl (fun number digit => number * 10 + digit) init
        = Nat.ofDigitChars 10 text init from general 0
  induction text with
  | nil => exact fun _ => Nat.ofDigitChars_nil.symm
  | cons char text ih =>
    intro init
    have rest := ih fun other mem => digits other (List.mem_cons_of_mem _ mem)
    rw [List.filterMap_cons, digit?_of_isDigit (digits char List.mem_cons_self), List.foldl_cons,
      rest, Nat.ofDigitChars_cons, Nat.mul_comm]

theorem toNat_ofNat (number : Nat) : Text.toNat 10 (Text.ofNat number) = number := by
  rw [toNat_eq_ofDigitChars fun char mem => isDigit_of_mem_ofNat mem]
  exact Nat.ofDigitChars_ten_toDigits

/-- Only zero is written with a zero in front. -/
theorem head?_ofNat_ne_zero {number : Nat} (positive : 0 < number) :
    (Text.ofNat number).head? ≠ some '0' := by
  induction number using Nat.strongRecOn with
  | ind number ih =>
    rw [Text.ofNat]
    by_cases small : number < 10
    · rw [Nat.toDigits_of_lt_base small, List.head?_cons]
      intro same
      exact Nat.ne_of_gt positive (Nat.digitChar_eq_zero.1 (Option.some.inj same))
    · have shorter : number / 10 < number := Nat.div_lt_self positive (by decide)
      have still : 0 < number / 10 := Nat.div_pos (Nat.not_lt.1 small) (by decide)
      rw [Nat.toDigits_of_base_le (by decide) (Nat.not_lt.1 small),
        List.head?_append_of_ne_nil _ Nat.toDigits_ne_nil]
      exact ih _ shorter still

theorem head?_ofNat_ne {number : Nat} {char : Char} (other : ¬ char.isDigit) :
    (Text.ofNat number).head? ≠ some char := by
  intro same
  exact other (isDigit_of_mem_ofNat (List.mem_of_head? same))

/-! ### Reading -/

theorem body_of_head?_ne_zero {text : Text} (other : text.head? ≠ some '0') :
    body text = (10, text, false) := by
  unfold body
  split
  next => exact absurd rfl other
  next => rfl

theorem body_ofNat (number : Nat) : body (Text.ofNat number) = (10, Text.ofNat number, false) := by
  rcases Nat.eq_zero_or_pos number with rfl | positive
  · rfl
  · exact body_of_head?_ne_zero (head?_ofNat_ne_zero positive)

theorem magnitude?_ofNat (number : Nat) : magnitude? (Text.ofNat number) = some number := by
  have digits : ∀ char ∈ Text.ofNat number, char.isDigit := fun char mem => isDigit_of_mem_ofNat mem
  have plain : '_' ∉ Text.ofNat number := fun mem => absurd (digits _ mem) (by decide)
  have kept : (Text.ofNat number).filter (· != '_') = Text.ofNat number := by
    refine List.filter_eq_self.2 fun char mem => bne_iff_ne.2 ?_
    rintro rfl
    exact plain mem
  have together : separates (Text.ofNat number) false := by
    rw [separates, Bool.or_eq_true, Bool.not_eq_true', ← Bool.not_eq_true, List.contains_iff_mem]
    exact .inl plain
  have nonempty : (Text.ofNat number).isEmpty = false :=
    List.isEmpty_eq_false_iff.2 Nat.toDigits_ne_nil
  have readable : ((Text.ofNat number).all fun char => (Text.digit? 10 char).isSome) = true := by
    refine List.all_eq_true.2 fun char mem => ?_
    rw [digit?_of_isDigit (digits char mem)]
    rfl
  unfold magnitude?
  simp only [body_ofNat, kept]
  rw [together, nonempty, readable, if_pos (by rfl), toNat_ofNat]

theorem takeSign_ofNat (number : Nat) :
    takeSign (Text.ofNat number) = (false, Text.ofNat number) := by
  have noMinus : (Text.ofNat number).head? ≠ some '-' := head?_ofNat_ne (by decide)
  have noPlus : (Text.ofNat number).head? ≠ some '+' := head?_ofNat_ne (by decide)
  unfold takeSign
  split
  next text same => exact absurd (same ▸ rfl) noMinus
  next text same => exact absurd (same ▸ rfl) noPlus
  next => rfl

theorem signed?_ofInt (number : Int) : signed? (Text.ofInt number) = some number := by
  cases number with
  | ofNat number =>
    rw [Text.ofInt, signed?, takeSign_ofNat]
    show (magnitude? (Text.ofNat number)).map _ = _
    rw [magnitude?_ofNat]
    rfl
  | negSucc number =>
    rw [Text.ofInt, signed?, takeSign]
    show (magnitude? (Text.ofNat (number + 1))).map _ = _
    rw [magnitude?_ofNat]
    rfl

/-- **The text of an integer is read back** at every signed width that the integer fits. -/
theorem readSigned_ofInt {bits : Nat} {number : Int} (fits : fitsSigned bits number) :
    readSigned bits (Text.ofInt number) = .ok number := by
  unfold readSigned
  simp only [signed?_ofInt]
  exact if_pos fits

/-- **The text of a natural number is read back** at every unsigned width that the number fits. -/
theorem readUnsigned_ofNat {bits number : Nat} (fits : fitsUnsigned bits number) :
    readUnsigned bits (Text.ofNat number) = .ok number := by
  have unsigned :
      ¬ ((Text.ofNat number).head? = some '+' || (Text.ofNat number).head? = some '-') := by
    rw [Bool.or_eq_true, decide_eq_true_eq, decide_eq_true_eq, not_or]
    exact ⟨head?_ofNat_ne (by decide), head?_ofNat_ne (by decide)⟩
  unfold readUnsigned
  rw [if_neg unsigned]
  simp only [magnitude?_ofNat]
  exact if_pos fits

end TypedConfig.IntegerLiteral

namespace TypedConfig.Text

/-- The text of an integer holds no placeholder. -/
theorem not_occursIn_ofInt (number : Int) : ¬ Placeholder.occursIn (ofInt number) := by
  refine not_has_of_not_mem ?_
  cases number with
  | ofNat number => exact fun mem => absurd (Key.isDigit_of_mem_ofNat mem) (by decide)
  | negSucc number =>
    rw [ofInt, List.mem_cons, not_or]
    exact ⟨by decide, fun mem => absurd (Key.isDigit_of_mem_ofNat mem) (by decide)⟩

end TypedConfig.Text
