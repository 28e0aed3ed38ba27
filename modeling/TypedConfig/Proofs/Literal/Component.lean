import Mathlib.Data.List.TakeWhile
import Mathlib.Tactic.MkIffOfInductiveProp
import TypedConfig.Literal.Duration

/-!
# The components of durations

A component is a number, digits with at most one point among them, and the name of a unit
(`Component.IsWritten`). A text is cut into components wherever a number begins, and so it is
written as components exactly when all that it is cut into can be multiplied out.

* `isSome_ofText?_iff`: of digits and points, exactly the numbers are read.
* `isSome_seconds?_iff`: exactly written components are multiplied out.
* `takeComponent_append`, `components_flatMap`: a written component is cut off whatever component
  follows, and so written components are found again.
* `flatMap_components`, `length_takeComponent_lt`: cutting loses nothing, and every cut takes
  something off.
* `writes_iff`: the texts that are written as components.
-/

namespace TypedConfig.Duration

/-! ### Numbers -/

/-- A number: digits, at least one, and at most one point. -/
@[mk_iff isNumber_iff]
structure IsNumber (text : Text) : Prop where
  chars : ∀ char ∈ text, isNumberChar char
  points : text.count '.' ≤ 1
  filled : ∃ char ∈ text, char.isDigit

instance (text : Text) : Decidable (IsNumber text) :=
  decidable_of_iff (text.all isNumberChar ∧ text.count '.' ≤ 1 ∧ text.any Char.isDigit)
    (by simp [isNumber_iff])

theorem isNumberChar_iff {char : Char} : isNumberChar char ↔ char.isDigit ∨ char = '.' := by
  simp [isNumberChar]

/-- The code points of the characters of numbers. -/
theorem code_of_isNumberChar {char : Char} (inside : isNumberChar char) :
    46 ≤ char.toNat ∧ char.toNat ≤ 57 := by
  rcases isNumberChar_iff.1 inside with digit | rfl
  · have range : 48 ≤ char.toNat ∧ char.toNat ≤ 57 := by
      rwa [Char.isDigit, Bool.and_eq_true, decide_eq_true_eq, decide_eq_true_eq] at digit
    omega
  · decide

theorem toLower_of_isNumberChar {char : Char} (inside : isNumberChar char) :
    char.toLower = char := by
  have code := code_of_isNumberChar inside
  have below : ¬ (char.val ≥ 'A'.val ∧ char.val ≤ 'Z'.val) := by
    rintro ⟨upper, -⟩
    have large : 65 ≤ char.toNat := upper
    omega
  exact dif_neg below

section

variable {text : Text} (chars : ∀ char ∈ text, isNumberChar char)

include chars

theorem lowerAscii_of_number : text.lowerAscii = text := by
  have same : text.map Char.toLower = text.map id :=
    List.map_congr_left fun char mem => toLower_of_isNumberChar (chars char mem)
  rw [Text.lowerAscii, same, List.map_id]

theorem takeSign_of_number : DecimalLiteral.takeSign text = (false, text) := by
  unfold DecimalLiteral.takeSign
  split
  next => exact absurd (chars '-' List.mem_cons_self) (by decide)
  next => exact absurd (chars '+' List.mem_cons_self) (by decide)
  next => rfl

theorem ne_of_letter {word : Text} (letter : Char) (mem : letter ∈ word)
    (other : ¬ isNumberChar letter) : text ≠ word := by
  rintro rfl
  exact other (chars letter mem)

/-- No exponent stands behind the digits of a number. -/
theorem isSome_exponent?_iff : (DecimalLiteral.exponent? text).isSome ↔ text = [] := by
  cases text with
  | nil => exact iff_of_true rfl rfl
  | cons mark text =>
    have lower : mark ≠ 'e' := by
      rintro rfl
      exact absurd (chars 'e' List.mem_cons_self) (by decide)
    have upper : mark ≠ 'E' := by
      rintro rfl
      exact absurd (chars 'E' List.mem_cons_self) (by decide)
    simp [DecimalLiteral.exponent?, lower, upper]

/-- A text without a sign, a word and an exponent is read when it has digits and nothing is left
behind its fraction. -/
theorem isSome_ofText?_iff_of_parts {fraction rest : Text}
    (parts : DecimalLiteral.takeFraction (text.dropWhile Char.isDigit) = (fraction, rest))
    (inside : ∀ char ∈ rest, isNumberChar char) :
    (DecimalLiteral.ofText? text).isSome
      ↔ (text.takeWhile Char.isDigit ≠ [] ∨ fraction ≠ []) ∧ rest = [] := by
  have words : ¬ (decide (text = "inf".toList) || decide (text = "infinity".toList)) = true := by
    rw [Bool.or_eq_true, decide_eq_true_eq, decide_eq_true_eq, not_or]
    exact ⟨ne_of_letter chars 'i' (by decide) (by decide),
      ne_of_letter chars 'i' (by decide) (by decide)⟩
  have nan : text ≠ "nan".toList := ne_of_letter chars 'n' (by decide) (by decide)
  rw [DecimalLiteral.ofText?, takeSign_of_number chars]
  simp only [lowerAscii_of_number chars, parts]
  rw [if_neg words, if_neg nan, ← isSome_exponent?_iff inside]
  generalize text.takeWhile Char.isDigit = whole
  by_cases digits : whole = [] ∧ fraction = []
  · simp [digits]
  · have some := not_and_or.1 digits
    simp [digits, some]

end

theorem isDigit_of_not_mem {text : Text} (chars : ∀ char ∈ text, isNumberChar char)
    (none : '.' ∉ text) : ∀ char ∈ text, char.isDigit := by
  intro char mem
  refine (isNumberChar_iff.1 (chars char mem)).resolve_right ?_
  rintro rfl
  exact none mem

theorem not_mem_of_digits {text : Text} (digits : ∀ char ∈ text, char.isDigit) : '.' ∉ text :=
  fun mem => absurd (digits '.' mem) (by decide)

/-- Digits alone are a number unless there are none. -/
theorem isNumber_iff_of_digits {whole : Text} (digits : ∀ char ∈ whole, char.isDigit) :
    IsNumber whole ↔ whole ≠ [] := by
  constructor
  · rintro ⟨-, -, char, mem, -⟩
    exact List.ne_nil_of_mem mem
  · intro filled
    refine ⟨fun char mem => isNumberChar_iff.2 (.inl (digits char mem)), ?_, ?_⟩
    · rw [List.count_eq_zero_of_not_mem (not_mem_of_digits digits)]
      exact Nat.zero_le 1
    · obtain ⟨char, mem⟩ := List.exists_mem_of_ne_nil whole filled
      exact ⟨char, mem, digits char mem⟩

/-- Digits with a point behind them are a number when digits follow, with a digit on either side. -/
theorem isNumber_append_iff {whole more : Text} (digits : ∀ char ∈ whole, char.isDigit)
    (chars : ∀ char ∈ more, isNumberChar char) :
    IsNumber (whole ++ '.' :: more) ↔ (∀ char ∈ more, char.isDigit) ∧ (whole ≠ [] ∨ more ≠ []) := by
  have points : (whole ++ '.' :: more).count '.' = more.count '.' + 1 := by
    rw [List.count_append, List.count_eq_zero_of_not_mem (not_mem_of_digits digits), Nat.zero_add,
      List.count_cons_self]
  constructor
  · intro number
    have none : '.' ∉ more := by
      have single := number.points
      rw [points] at single
      exact List.count_eq_zero.1 (by omega)
    refine ⟨isDigit_of_not_mem chars none, ?_⟩
    obtain ⟨char, mem, digit⟩ := number.filled
    rw [List.mem_append, List.mem_cons] at mem
    rcases mem with mem | rfl | mem
    · exact .inl (List.ne_nil_of_mem mem)
    · cases digit
    · exact .inr (List.ne_nil_of_mem mem)
  · rintro ⟨fraction, filled⟩
    refine ⟨fun char mem => ?_, ?_, ?_⟩
    · rw [List.mem_append, List.mem_cons] at mem
      rcases mem with mem | rfl | mem
      · exact isNumberChar_iff.2 (.inl (digits char mem))
      · rfl
      · exact chars char mem
    · rw [points, List.count_eq_zero_of_not_mem (not_mem_of_digits fraction)]
    · rcases filled with filled | filled
      · obtain ⟨char, mem⟩ := List.exists_mem_of_ne_nil whole filled
        exact ⟨char, List.mem_append_left _ mem, digits char mem⟩
      · obtain ⟨char, mem⟩ := List.exists_mem_of_ne_nil more filled
        exact ⟨char, List.mem_append_right _ (List.mem_cons_of_mem _ mem), fraction char mem⟩

/-- **The numbers that are read** have a digit and at most one point. -/
theorem isSome_ofText?_iff {text : Text} (chars : ∀ char ∈ text, isNumberChar char) :
    (DecimalLiteral.ofText? text).isSome ↔ IsNumber text := by
  by_cases pointed : '.' ∈ text
  · -- the whole part ends at the first point
    obtain ⟨whole, more, rfl, none⟩ := List.eq_append_cons_of_mem pointed
    obtain ⟨front, behind⟩ := List.forall_mem_append.1 chars
    have digits := isDigit_of_not_mem front none
    have inside := (List.forall_mem_cons.1 behind).2
    have spanned : (whole ++ '.' :: more).takeWhile Char.isDigit = whole := by
      rw [List.takeWhile_append_of_pos digits, List.takeWhile_cons_of_neg (by decide),
        List.append_nil]
    have tail : (whole ++ '.' :: more).dropWhile Char.isDigit = '.' :: more := by
      rw [List.dropWhile_append_of_pos digits, List.dropWhile_cons_of_neg (by decide)]
    have parts : DecimalLiteral.takeFraction ((whole ++ '.' :: more).dropWhile Char.isDigit)
        = (more.takeWhile Char.isDigit, more.dropWhile Char.isDigit) := by
      rw [tail]
      rfl
    rw [isSome_ofText?_iff_of_parts chars parts fun char mem =>
        inside char ((List.dropWhile_sublist _).subset mem),
      spanned, isNumber_append_iff digits inside, and_comm, List.dropWhile_eq_nil_iff]
    refine and_congr_right fun fraction => ?_
    rw [List.takeWhile_eq_self_iff.2 fraction]
  · have digits := isDigit_of_not_mem chars pointed
    have parts : DecimalLiteral.takeFraction (text.dropWhile Char.isDigit) = ([], []) := by
      rw [List.dropWhile_eq_nil_iff.2 digits]
      rfl
    rw [isSome_ofText?_iff_of_parts chars parts nofun, List.takeWhile_eq_self_iff.2 digits,
      isNumber_iff_of_digits digits]
    simp

/-! ### Units -/

/-- The names of the units. -/
def units : List Text := ["ns", "us", "µs", "ms", "s", "m", "h"]

theorem isSome_unit?_iff {name : Text} : (unit? name).isSome ↔ name ∈ units := by
  simp only [unit?, units, Bool.or_eq_true, decide_eq_true_eq, List.mem_cons, List.not_mem_nil,
    or_false]
  split_ifs <;> simp only [Option.isSome_some, Option.isSome_none, true_iff] <;> grind

theorem not_isNumberChar_of_unit {unit : Text} (known : unit ∈ units) :
    unit ≠ [] ∧ ∀ char ∈ unit, ¬ isNumberChar char := by
  have all : ∀ unit ∈ units, unit ≠ [] ∧ (unit.all fun char => !isNumberChar char) := by decide
  simpa using all unit known

/-! ### Components -/

/-- The written form of a component. -/
def Component.text (component : Component) : Text := component.number ++ component.unit

/-- A component has a number and the name of a unit. -/
@[mk_iff]
structure Component.IsWritten (component : Component) : Prop where
  number : IsNumber component.number
  unit : component.unit ∈ units

instance (component : Component) : Decidable component.IsWritten :=
  decidable_of_iff (IsNumber component.number ∧ units.contains component.unit)
    (by simp [Component.isWritten_iff])

/-- A text is written as components one after the other, at least one. -/
structure Writes (text : Text) (components : List Component) : Prop where
  filled : components ≠ []
  written : ∀ component ∈ components, component.IsWritten
  joined : text = components.flatMap Component.text

/-- A component is multiplied out when it is written as one. -/
theorem isSome_seconds?_iff {component : Component}
    (chars : ∀ char ∈ component.number, isNumberChar char) :
    component.seconds?.isSome ↔ component.IsWritten := by
  have parts : component.seconds?.isSome
      ↔ (Binary64.ofText? component.number).isSome ∧ (unit? component.unit).isSome := by
    rw [Component.seconds?]
    cases Binary64.ofText? component.number with
    | none => simp
    | some amount => cases unit? component.unit <;> simp
  rw [parts, Binary64.ofText?, Option.isSome_map, isSome_ofText?_iff chars, isSome_unit?_iff]
  exact ⟨fun ⟨number, unit⟩ => ⟨number, unit⟩, fun ⟨number, unit⟩ => ⟨number, unit⟩⟩

/-- The component in front of a text, and what follows it. -/
def takeComponent (text : Text) : Component × Text :=
  let behind := text.dropWhile isNumberChar
  (⟨text.takeWhile isNumberChar, behind.takeWhile (!isNumberChar ·)⟩,
    behind.dropWhile (!isNumberChar ·))

theorem components_eq {text : Text} (filled : text ≠ []) :
    components text = (takeComponent text).1 :: components (takeComponent text).2 := by
  cases text with
  | nil => exact absurd rfl filled
  | cons char text =>
    rw [components]
    rfl

/-- Nothing of the text is lost. -/
theorem text_takeComponent (text : Text) :
    (takeComponent text).1.text ++ (takeComponent text).2 = text := by
  simp [takeComponent, Component.text]

/-- Every component takes something of the text. -/
theorem length_takeComponent_lt {text : Text} (filled : text ≠ []) :
    (takeComponent text).2.length < text.length := by
  have whole := congrArg List.length (text_takeComponent text)
  rw [List.length_append] at whole
  have some : 0 < (takeComponent text).1.text.length := by
    obtain ⟨char, rest, rfl⟩ := List.exists_cons_of_ne_nil filled
    cases number : isNumberChar char with
    | true => simp [takeComponent, Component.text, number]
    | false => simp [takeComponent, Component.text, number]
  omega

theorem flatMap_components (text : Text) : (components text).flatMap Component.text = text := by
  fun_induction components text with
  | case1 => rfl
  | case2 char rest text behind ih =>
    rw [List.flatMap_cons, ih]
    exact text_takeComponent text

theorem isNumberChar_of_mem_components {text : Text} :
    ∀ component ∈ components text, ∀ char ∈ component.number, isNumberChar char := by
  fun_induction components text with
  | case1 => simp
  | case2 char rest text behind ih =>
    exact List.forall_mem_cons.2 ⟨fun char => List.mem_takeWhile_imp, ih⟩

/-- **A written component is cut off** where the number of the next one begins. -/
theorem takeComponent_append {component : Component} (written : component.IsWritten) {rest : Text}
    (next : ∀ char ∈ rest.head?, isNumberChar char) :
    takeComponent (component.text ++ rest) = (component, rest) := by
  obtain ⟨number, unit⟩ := component
  obtain ⟨filled, plain⟩ := not_isNumberChar_of_unit written.unit
  have chars : ∀ char ∈ number, isNumberChar char := written.number.chars
  have others : ∀ char ∈ unit, (!isNumberChar char) = true := by simpa using plain
  -- the number ends at the unit, and the unit at what follows
  have stops : (unit ++ rest).takeWhile isNumberChar = []
      ∧ (unit ++ rest).dropWhile isNumberChar = unit ++ rest := by
    obtain ⟨char, unit, rfl⟩ := List.exists_cons_of_ne_nil filled
    have first := plain char List.mem_cons_self
    exact ⟨List.takeWhile_cons_of_neg first, List.dropWhile_cons_of_neg first⟩
  have ends : rest.takeWhile (!isNumberChar ·) = [] ∧ rest.dropWhile (!isNumberChar ·) = rest := by
    cases rest with
    | nil => exact ⟨rfl, rfl⟩
    | cons char rest => simp [next char rfl]
  have joined : Component.text ⟨number, unit⟩ ++ rest = number ++ (unit ++ rest) :=
    List.append_assoc ..
  rw [takeComponent, joined, List.takeWhile_append_of_pos chars, List.dropWhile_append_of_pos chars,
    stops.1, stops.2, List.takeWhile_append_of_pos others, List.dropWhile_append_of_pos others,
    ends.1, ends.2, List.append_nil, List.append_nil]

theorem Component.IsWritten.text_ne_nil {component : Component} (written : component.IsWritten) :
    component.text ≠ [] :=
  List.append_ne_nil_of_right_ne_nil _ (not_isNumberChar_of_unit written.unit).1

/-- Written components begin with a number. -/
theorem isNumberChar_of_head? {written : List Component}
    (each : ∀ component ∈ written, component.IsWritten) :
    ∀ char ∈ (written.flatMap Component.text).head?, isNumberChar char := by
  cases written with
  | nil => simp
  | cons component written =>
    have number := (each component List.mem_cons_self).number
    obtain ⟨digit, mem, -⟩ := number.filled
    obtain ⟨first, rest, same⟩ := List.exists_cons_of_ne_nil (List.ne_nil_of_mem mem)
    have inside := number.chars first (same ▸ List.mem_cons_self)
    rw [List.flatMap_cons, Component.text, same]
    simpa using inside

/-- **Written components are found again.** -/
theorem components_flatMap {written : List Component}
    (each : ∀ component ∈ written, component.IsWritten) :
    components (written.flatMap Component.text) = written := by
  induction written with
  | nil => rw [List.flatMap_nil, components]
  | cons component written ih =>
    obtain ⟨here, later⟩ := List.forall_mem_cons.1 each
    have filled := List.append_ne_nil_of_left_ne_nil here.text_ne_nil
      (written.flatMap Component.text)
    rw [List.flatMap_cons, components_eq filled, takeComponent_append here
      (isNumberChar_of_head? later), ih later]

/-- A text is written as components when it is cut into written ones. -/
theorem writes_iff {text : Text} {written : List Component} :
    Writes text written
      ↔ text ≠ [] ∧ components text = written
        ∧ ∀ component ∈ components text, component.seconds?.isSome := by
  constructor
  · rintro ⟨filled, each, rfl⟩
    obtain ⟨component, rest, rfl⟩ := List.exists_cons_of_ne_nil filled
    refine ⟨?_, components_flatMap each, ?_⟩
    · have here := (each component List.mem_cons_self).text_ne_nil
      exact List.append_ne_nil_of_left_ne_nil here _
    · rw [components_flatMap each]
      exact fun component mem =>
        (isSome_seconds?_iff (each component mem).number.chars).2 (each component mem)
  · rintro ⟨filled, rfl, read⟩
    refine ⟨?_, fun component mem => ?_, (flatMap_components text).symm⟩
    · rw [components_eq filled]
      exact List.cons_ne_nil _ _
    · exact (isSome_seconds?_iff (isNumberChar_of_mem_components component mem)).1
        (read component mem)

theorem Writes.append {front back : Text} {first second : List Component}
    (writesFront : Writes front first) (writesBack : Writes back second) :
    Writes (front ++ back) (first ++ second) := by
  refine ⟨List.append_ne_nil_of_left_ne_nil writesFront.filled second, ?_, ?_⟩
  · exact List.forall_mem_append.2 ⟨writesFront.written, writesBack.written⟩
  · rw [List.flatMap_append, ← writesFront.joined, ← writesBack.joined]

end TypedConfig.Duration
