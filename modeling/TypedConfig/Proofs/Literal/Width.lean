import TypedConfig.Literal.Scalar
import TypedConfig.Proofs.Literal.Grammar

/-!
# Integer literals at a width

Whether a text is a literal does not depend on the width, which decides only whether its number is
in range. The number is exact, however many digits it has; reading it in words of 64 bits, which may
overflow, comes to the same.

* `readSignedWord`, `readUnsignedWord`: reading in words, with bounds that are shifted to the width.
* `readSigned_eq_readSignedWord`, `readUnsigned_eq_readUnsignedWord`: it gives the same at every
  width that a word has.
* `ReadsExactly`: an outcome that is the number of a text, or says why there is none.
* `reads_exactly`: the outcome of reading at a width.
-/

namespace TypedConfig.IntegerLiteral

/-! ### Words -/

/-- The least signed word of 64 bits. -/
def leastWord : Int := -2 ^ 63

/-- The greatest signed word of 64 bits. -/
def greatestWord : Int := 2 ^ 63 - 1

/-- The greatest unsigned word of 64 bits. -/
def greatestMagnitude : Nat := 2 ^ 64 - 1

/-- The signed word with a sign and a magnitude, unless it overflows. -/
def signedWord? (negative : Bool) (magnitude : Nat) : Option Int :=
  let number : Int := if negative then -(magnitude : Int) else magnitude
  if leastWord ≤ number ∧ number ≤ greatestWord then some number else none

/-- The value of a signed literal, read in words: the magnitude is an unsigned word, the signed
word comes from it, and the bounds of the width are those of a word, shifted to the right. -/
def readSignedWord (bits : Nat) (text : Text) : Except LiteralError Int :=
  match magnitude? (takeSign text).2 with
  | none => .error (.malformed .integer text)
  | some magnitude =>
    if magnitude ≤ greatestMagnitude then
      match signedWord? (takeSign text).1 magnitude with
      | none => .error (.outOfRange (.signed bits) text)
      | some number =>
        if leastWord >>> (64 - bits) ≤ number ∧ number ≤ greatestWord >>> (64 - bits) then
          .ok number
        else .error (.outOfRange (.signed bits) text)
    else .error (.outOfRange (.signed bits) text)

/-- The value of an unsigned literal, read in words. -/
def readUnsignedWord (bits : Nat) (text : Text) : Except LiteralError Nat :=
  if text.head? = some '+' || text.head? = some '-' then .error (.malformed .unsigned text)
  else match magnitude? text with
    | none => .error (.malformed .integer text)
    | some magnitude =>
      if magnitude ≤ greatestMagnitude then
        if magnitude ≤ greatestMagnitude >>> (64 - bits) then .ok magnitude
        else .error (.outOfRange (.unsigned bits) text)
      else .error (.outOfRange (.unsigned bits) text)

section

variable {bits : Nat}

theorem fitsSigned_iff {number : Int} :
    fitsSigned bits number ↔ -2 ^ (bits - 1) ≤ number ∧ number ≤ 2 ^ (bits - 1) - 1 := by
  rw [fitsSigned, Bool.and_eq_true, decide_eq_true_eq, decide_eq_true_eq, Nat.pow_eq, Nat.cast_pow,
    Nat.cast_ofNat, Int.le_sub_one_iff]

theorem fitsUnsigned_iff {number : Nat} : fitsUnsigned bits number ↔ number ≤ 2 ^ bits - 1 := by
  rw [fitsUnsigned, decide_eq_true_eq, Nat.pow_eq, Nat.le_sub_one_iff_lt (Nat.two_pow_pos bits)]

variable (word : bits ≤ 64)

include word

theorem greatestMagnitude_shiftRight : greatestMagnitude >>> (64 - bits) = 2 ^ bits - 1 := by
  have some : 0 < 2 ^ (64 - bits) := Nat.two_pow_pos _
  have less : 2 ^ (64 - bits) ≤ 2 ^ 64 := Nat.pow_le_pow_right (by decide) (by omega)
  have product : 2 ^ bits * 2 ^ (64 - bits) = 2 ^ 64 := by
    rw [← pow_add]
    congr 1
    omega
  have split : 2 ^ 64 - 1 = (2 ^ (64 - bits) - 1) + (2 ^ bits - 1) * 2 ^ (64 - bits) := by
    rw [Nat.sub_mul, product]
    omega
  rw [greatestMagnitude, Nat.shiftRight_eq_div_pow, split, Nat.add_mul_div_right _ _ some,
    Nat.div_eq_of_lt (by omega), Nat.zero_add]

/-- **Reading in words loses nothing**: a literal without a sign whose magnitude overflows a word is
out of range at every width. -/
theorem readUnsigned_eq_readUnsignedWord (text : Text) :
    readUnsigned bits text = readUnsignedWord bits text := by
  have bound : 2 ^ bits ≤ 2 ^ 64 := Nat.pow_le_pow_right (by decide) word
  rw [readUnsigned, readUnsignedWord, greatestMagnitude_shiftRight word]
  cases magnitude? text with
  | none => rfl
  | some magnitude =>
    simp only [fitsUnsigned_iff, greatestMagnitude]
    split_ifs <;> first | rfl | omega

variable (positive : 1 ≤ bits)

include positive

/-- A half of the words is divided evenly by what is shifted out of it. -/
theorem halfWord_eq : (2 : Int) ^ 63 = 2 ^ (bits - 1) * 2 ^ (64 - bits) := by
  rw [← pow_add]
  congr 1
  omega

theorem leastWord_shiftRight : leastWord >>> (64 - bits) = -2 ^ (bits - 1) := by
  rw [leastWord, Int.shiftRight_eq_div_pow, halfWord_eq word positive, ← Int.neg_mul,
    Nat.cast_pow, Nat.cast_ofNat]
  exact Int.mul_ediv_cancel _ (by positivity)

theorem greatestWord_shiftRight : greatestWord >>> (64 - bits) = 2 ^ (bits - 1) - 1 := by
  have some : (0 : Int) < 2 ^ (64 - bits) := by positivity
  have split : (2 : Int) ^ 63 - 1
      = (2 ^ (64 - bits) - 1) + (2 ^ (bits - 1) - 1) * 2 ^ (64 - bits) := by
    rw [halfWord_eq word positive]
    ring
  rw [greatestWord, Int.shiftRight_eq_div_pow, split, Nat.cast_pow, Nat.cast_ofNat,
    Int.add_mul_ediv_right _ _ some.ne', Int.ediv_eq_zero_of_lt (by omega) (by omega), zero_add]

/-- **Reading in words loses nothing** for literals with a sign, whether the magnitude overflows a
word or the number with its sign. -/
theorem readSigned_eq_readSignedWord (text : Text) :
    readSigned bits text = readSignedWord bits text := by
  have bound : (2 : Int) ^ (bits - 1) ≤ 2 ^ 63 := pow_le_pow_right₀ (by decide) (by omega)
  have opened : signed? text = (magnitude? (takeSign text).2).map fun (magnitude : Nat) =>
      if (takeSign text).1 then -(magnitude : Int) else magnitude := rfl
  rw [readSigned, readSignedWord, opened, leastWord_shiftRight word positive,
    greatestWord_shiftRight word positive]
  cases magnitude? (takeSign text).2 with
  | none => rfl
  | some magnitude =>
    simp only [Option.map_some, signedWord?]
    generalize same : (if (takeSign text).1 then -(magnitude : Int) else magnitude) = number
    have signed : number = magnitude ∨ number = -magnitude := by
      split_ifs at same <;> simp [← same]
    rw [leastWord, greatestWord, greatestMagnitude]
    by_cases fits : fitsSigned bits number
    · have inside := fitsSigned_iff.1 fits
      rw [if_pos fits, if_pos (by omega), if_pos (by omega)]
      exact (if_pos inside).symm
    · have outside := mt fitsSigned_iff.2 fits
      rw [if_neg fits]
      split_ifs
      · exact (if_neg outside).symm
      · rfl
      · rfl

end

/-! ### Reading at a width -/

/-- The outcome of reading is the number that the text writes, unless it lies out of range or the
text writes none. -/
structure ReadsExactly (outcome : Except LiteralError Value) (range : LiteralRange) (text : Text)
    (writes : Int → Prop) (least greatest : Int) : Prop where
  value (value : Value) : outcome = .ok value
    ↔ ∃ number, writes number ∧ (least ≤ number ∧ number ≤ greatest) ∧ value = Value.ofInt number
  range : outcome = .error (.outOfRange range text)
    ↔ ∃ number, writes number ∧ ¬ (least ≤ number ∧ number ≤ greatest)
  malformed : (∃ kind, outcome = .error (.malformed kind text)) ↔ ∀ number, ¬ writes number

/-- The three outcomes exclude each other, so it is enough to know when each comes about. -/
theorem ReadsExactly.of_cases {outcome : Except LiteralError Value} {range : LiteralRange}
    {text : Text} {writes : Int → Prop} {least greatest : Int}
    (inside : ∀ number, writes number → least ≤ number ∧ number ≤ greatest →
      outcome = .ok (Value.ofInt number))
    (outside : ∀ number, writes number → ¬ (least ≤ number ∧ number ≤ greatest) →
      outcome = .error (.outOfRange range text))
    (none : (∀ number, ¬ writes number) → ∃ kind, outcome = .error (.malformed kind text)) :
    ReadsExactly outcome range text writes least greatest := by
  have cover : (∃ number, writes number ∧ (least ≤ number ∧ number ≤ greatest))
      ∨ (∃ number, writes number ∧ ¬ (least ≤ number ∧ number ≤ greatest))
      ∨ ∀ number, ¬ writes number := by
    by_cases found : ∃ number, writes number
    · obtain ⟨number, written⟩ := found
      by_cases fits : least ≤ number ∧ number ≤ greatest
      · exact .inl ⟨number, written, fits⟩
      · exact .inr (.inl ⟨number, written, fits⟩)
    · exact .inr (.inr (not_exists.1 found))
  refine ⟨fun value => ⟨fun same => ?_, ?_⟩, ⟨fun same => ?_, ?_⟩, ⟨fun same => ?_, none⟩⟩
  · rcases cover with ⟨number, written, fits⟩ | ⟨number, written, misses⟩ | absent
    · have reads := inside number written fits
      exact ⟨number, written, fits, Except.ok.inj (same.symm.trans reads)⟩
    · cases same.symm.trans (outside number written misses)
    · obtain ⟨kind, fails⟩ := none absent
      cases same.symm.trans fails
  · rintro ⟨number, written, fits, rfl⟩
    exact inside number written fits
  · rcases cover with ⟨number, written, fits⟩ | missed | absent
    · cases same.symm.trans (inside number written fits)
    · exact missed
    · obtain ⟨kind, fails⟩ := none absent
      cases same.symm.trans fails
  · rintro ⟨number, written, misses⟩
    exact outside number written misses
  · obtain ⟨kind, same⟩ := same
    intro number written
    by_cases fits : least ≤ number ∧ number ≤ greatest
    · cases same.symm.trans (inside number written fits)
    · cases same.symm.trans (outside number written fits)

/-- A text writes a natural number without a sign. -/
def WritesNatural (text : Text) (number : Int) : Prop :=
  ∃ magnitude : Nat, Literal text magnitude ∧ number = magnitude

theorem signed_readsExactly (bits : Nat) (text : Text) :
    ReadsExactly (Scalar.read (.signed bits) text) (.signed bits) text (SignedLiteral text)
      (-2 ^ (bits - 1)) (2 ^ (bits - 1) - 1) := by
  refine .of_cases ?_ ?_ ?_
  · intro number literal fits
    simp only [Scalar.read, readSigned, signed?_eq_some_iff.2 literal]
    rw [if_pos (fitsSigned_iff.2 fits)]
    rfl
  · intro number literal misses
    simp only [Scalar.read, readSigned, signed?_eq_some_iff.2 literal]
    rw [if_neg fun fits => misses (fitsSigned_iff.1 fits)]
    rfl
  · intro absent
    have unread : signed? text = none :=
      Option.eq_none_iff_forall_ne_some.2 fun number found =>
        absent number (signed?_eq_some_iff.1 found)
    simp only [Scalar.read, readSigned, unread]
    exact ⟨.integer, rfl⟩

theorem unsigned_readsExactly (bits : Nat) (text : Text) :
    ReadsExactly (Scalar.read (.unsigned bits) text) (.unsigned bits) text (WritesNatural text)
      0 (2 ^ bits - 1) := by
  have unsigned {number : Nat} (literal : Literal text number) :
      ¬ (text.head? = some '+' || text.head? = some '-') := by
    simpa using literal.unsigned
  have fits_iff (number : Nat) :
      fitsUnsigned bits number ↔ (0 : Int) ≤ number ∧ (number : Int) ≤ 2 ^ bits - 1 := by
    have greatest : ((2 ^ bits - 1 : Nat) : Int) = 2 ^ bits - 1 := by
      rw [Nat.cast_sub Nat.one_le_two_pow, Nat.cast_pow, Nat.cast_ofNat, Nat.cast_one]
    rw [fitsUnsigned_iff, ← greatest, Nat.cast_le]
    exact (and_iff_right (Int.natCast_nonneg number)).symm
  refine .of_cases ?_ ?_ ?_
  · rintro _ ⟨number, literal, rfl⟩ fits
    rw [Scalar.read, readUnsigned, if_neg (unsigned literal)]
    simp only [magnitude?_eq_some_iff.2 literal]
    rw [if_pos ((fits_iff number).2 fits)]
    rfl
  · rintro _ ⟨number, literal, rfl⟩ misses
    rw [Scalar.read, readUnsigned, if_neg (unsigned literal)]
    simp only [magnitude?_eq_some_iff.2 literal]
    rw [if_neg fun fits => misses ((fits_iff number).1 fits)]
    rfl
  · intro absent
    have unread : magnitude? text = none :=
      Option.eq_none_iff_forall_ne_some.2 fun number found =>
        absent number ⟨number, magnitude?_eq_some_iff.1 found, rfl⟩
    rw [Scalar.read, readUnsigned]
    split_ifs
    · exact ⟨.unsigned, rfl⟩
    · simp only [unread]
      exact ⟨.integer, rfl⟩

/-- **Integer literals are read exactly** at every width of a word. A text is read to the number
that it writes, is out of range when it writes a number that the width does not hold, and is
malformed when it writes none; reading in words of 64 bits comes to the same. -/
theorem reads_exactly {bits : Nat} (positive : 1 ≤ bits) (word : bits ≤ 64) (text : Text) :
    ReadsExactly (Scalar.read (.signed bits) text) (.signed bits) text (SignedLiteral text)
        (-2 ^ (bits - 1)) (2 ^ (bits - 1) - 1)
      ∧ ReadsExactly (Scalar.read (.unsigned bits) text) (.unsigned bits) text
        (WritesNatural text) 0 (2 ^ bits - 1)
      ∧ readSigned bits text = readSignedWord bits text
      ∧ readUnsigned bits text = readUnsignedWord bits text :=
  ⟨signed_readsExactly bits text, unsigned_readsExactly bits text,
    readSigned_eq_readSignedWord word positive text, readUnsigned_eq_readUnsignedWord word text⟩

/-- The least byte is read from its text, a number above the greatest one is out of range, and
doubled underscores are malformed. -/
theorem byte_reads_exactly :
    (1 ≤ 8 ∧ 8 ≤ 64)
      ∧ Scalar.read (.signed 8) "-0x_80" = .ok (Value.ofInt (-128))
      ∧ Scalar.read (.unsigned 8) "0o4_00" = .error (.outOfRange (.unsigned 8) "0o4_00")
      ∧ ∀ number, ¬ SignedLiteral "0b1__0" number := by
  have least : SignedLiteral ['-', '0', 'x', '_', '8', '0'] (-(numberOf 16 [8, 0] : Nat)) :=
    .minus (.marked rfl (.separated ((digit?_eq_some_iff (by decide)).1 rfl)
      (.digit ((digit?_eq_some_iff (by decide)).1 rfl) .nil)) (by decide))
  have large : Literal ['0', 'o', '4', '_', '0', '0'] (numberOf 8 [4, 0, 0]) :=
    .marked rfl (.digit ((digit?_eq_some_iff (by decide)).1 rfl)
      (.separated ((digit?_eq_some_iff (by decide)).1 rfl)
        (.digit ((digit?_eq_some_iff (by decide)).1 rfl) .nil))) (by decide)
  refine ⟨by decide, ?_, ?_, ?_⟩
  · obtain ⟨signed, -⟩ := @reads_exactly 8 (by decide) (by decide) "-0x_80"
    exact (signed.value _).2 ⟨_, least, by decide, rfl⟩
  · obtain ⟨-, unsigned, -⟩ := @reads_exactly 8 (by decide) (by decide) "0o4_00"
    exact unsigned.range.2 ⟨_, ⟨_, large, rfl⟩, by decide⟩
  · obtain ⟨signed, -⟩ := @reads_exactly 8 (by decide) (by decide) "0b1__0"
    exact signed.malformed.1 ⟨.integer, rfl⟩

end TypedConfig.IntegerLiteral
