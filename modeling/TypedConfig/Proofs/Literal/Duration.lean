import Mathlib.Algebra.GroupWithZero.Nat
import TypedConfig.Proofs.Literal.Component
import TypedConfig.Proofs.Text.Cut

/-!
# Durations are checked sums

A duration that is no plain number of seconds is read as the sum of the durations of its components.
What a component stands for is taken as it is; the sum is checked after each component, but whether
it overflows does not depend on how the components are grouped.

* `total?_append`: the sum of two groups is in range when both sums are and together fit.
* `sum_eq_outcome`: adding up components one after the other gives their sum, or out of range.
* `read_of_writes`, `exists_writes_of_read`: texts of components are read as their sum, and only
  these texts are read.
* `sumRounds_eq`: a loop that takes one component in each round ends within as many rounds as the
  text has characters.
* `reads_checked_sums`: what is read from a text, and from two texts one after the other.
-/

namespace TypedConfig.Duration

/-! ### Sums -/

/-- The duration of a component. -/
def Component.duration? (component : Component) : Option Duration :=
  component.seconds?.bind ofSeconds?

/-- The sum of two durations, if it is in range. -/
def add? (first second : Duration) : Option Duration :=
  ofNanoseconds? (first.nanoseconds + second.nanoseconds)

/-- The sum of durations, if it is in range. -/
def total? (durations : List Duration) : Option Duration :=
  ofNanoseconds? (durations.map Duration.nanoseconds).sum

/-- What reading gives for a duration that is in range, and without one. -/
def outcome (input : Text) : Option Duration → Except LiteralError Duration
  | some duration => .ok duration
  | none => .error (.outOfRange .duration input)

theorem ofNanoseconds?_eq_some_iff {nanoseconds : Nat} {duration : Duration} :
    ofNanoseconds? nanoseconds = some duration
      ↔ nanoseconds < bound ∧ duration.nanoseconds = nanoseconds := by
  obtain ⟨number⟩ := duration
  rw [ofNanoseconds?]
  by_cases fits : nanoseconds < bound
  · simp [fits, eq_comm]
  · simp [fits]

theorem ofNanoseconds?_eq_none_iff {nanoseconds : Nat} :
    ofNanoseconds? nanoseconds = none ↔ bound ≤ nanoseconds := by
  rw [ofNanoseconds?, ← not_lt]
  by_cases fits : nanoseconds < bound
  · simp [fits]
  · simp [fits]

theorem bound_pos : 0 < bound := Nat.mul_pos (Nat.two_pow_pos 64) (by decide)

theorem total?_singleton {total : Duration} (fits : total.nanoseconds < bound) :
    total? [total] = some total := if_pos fits

/-- **Overflow does not depend on grouping.** -/
theorem total?_append (front back : List Duration) :
    total? (front ++ back)
      = (total? front).bind fun first => (total? back).bind fun second => first.add? second := by
  rw [total?, List.map_append, List.sum_append]
  cases first : total? front with
  | none =>
    have beyond := ofNanoseconds?_eq_none_iff.1 first
    rw [Option.bind_none, ofNanoseconds?_eq_none_iff]
    omega
  | some sum =>
    obtain ⟨-, exact⟩ := ofNanoseconds?_eq_some_iff.1 first
    cases second : total? back with
    | none =>
      have beyond := ofNanoseconds?_eq_none_iff.1 second
      rw [Option.bind_some, Option.bind_none, ofNanoseconds?_eq_none_iff]
      omega
    | some other =>
      obtain ⟨-, exact'⟩ := ofNanoseconds?_eq_some_iff.1 second
      rw [Option.bind_some, Option.bind_some, add?, exact, exact']

theorem total?_cons_cons (first second : Duration) (rest : List Duration) :
    total? (first :: second :: rest)
      = (first.add? second).bind fun sum => total? (sum :: rest) := by
  cases added : first.add? second with
  | none =>
    have beyond := ofNanoseconds?_eq_none_iff.1 added
    rw [Option.bind_none, total?, ofNanoseconds?_eq_none_iff, List.map_cons, List.map_cons,
      List.sum_cons, List.sum_cons]
    omega
  | some sum =>
    obtain ⟨-, exact⟩ := ofNanoseconds?_eq_some_iff.1 added
    rw [Option.bind_some, total?, total?, List.map_cons, List.map_cons, List.map_cons,
      List.sum_cons, List.sum_cons, List.sum_cons, exact, Nat.add_assoc]

/-- **Components are added up** to the sum of their durations, which is checked after each. -/
theorem sum_eq_outcome {components : List Component}
    (read : ∀ component ∈ components, component.seconds?.isSome) (input : Text) {total : Duration}
    (fits : total.nanoseconds < bound) :
    sum input total components
      = outcome input ((components.mapM Component.duration?).bind fun durations =>
          total? (total :: durations)) := by
  induction components generalizing total with
  | nil =>
    rw [List.mapM_nil, Option.pure_def, Option.bind_some, total?_singleton fits]
    rfl
  | cons component components ih =>
    obtain ⟨here, later⟩ := List.forall_mem_cons.1 read
    obtain ⟨seconds, found⟩ := Option.isSome_iff_exists.1 here
    have converted : component.duration? = ofSeconds? seconds := by
      rw [Component.duration?, found, Option.bind_some]
    simp only [sum, found, List.mapM_cons, converted, Option.bind_eq_bind, Option.pure_def]
    cases ofSeconds? seconds with
    | none => rfl
    | some part =>
      have checked : ofNanoseconds? (total.nanoseconds + part.nanoseconds) = total.add? part := rfl
      simp only [Option.bind_some, Option.bind_assoc, total?_cons_cons, checked]
      cases added : total.add? part with
      | none =>
        simp only [Option.bind_none]
        cases components.mapM Component.duration? <;> rfl
      | some sum =>
        have within : sum.nanoseconds < bound := by
          obtain ⟨fits, exact⟩ := ofNanoseconds?_eq_some_iff.1 added
          rwa [exact]
        exact ih later within

/-- What is added up without an error has been multiplied out. -/
theorem isSome_of_sum_eq_ok {input : Text} {components : List Component} {total duration : Duration}
    (added : sum input total components = .ok duration) :
    ∀ component ∈ components, component.seconds?.isSome := by
  induction components generalizing total with
  | nil => exact fun _ mem => nomatch mem
  | cons component components ih =>
    rw [sum] at added
    split at added
    next => cases added
    next seconds found =>
      split at added
      next => cases added
      next => exact List.forall_mem_cons.2 ⟨by rw [found]; rfl, ih added⟩

/-! ### Whole texts -/

theorem not_isBlank_of_isNumberChar {char : Char} (inside : isNumberChar char) :
    ¬ Text.isBlank char := by
  have code := code_of_isNumberChar inside
  simp only [Text.isBlank, Text.blankRanges, Text.inRanges, Bool.and_eq_true, Bool.or_eq_true,
    decide_eq_true_eq]
  omega

section

variable {text : Text} {written : List Component}

/-- A text of components has no blanks. -/
theorem Writes.not_isBlank (writes : Writes text written) : ∀ char ∈ text, ¬ Text.isBlank char := by
  have plain : (units.all fun unit => unit.all fun char => !Text.isBlank char) = true := rfl
  intro char mem
  rw [writes.joined] at mem
  obtain ⟨component, inside, mem⟩ := List.mem_flatMap.1 mem
  obtain ⟨number, unit⟩ := writes.written component inside
  rcases List.mem_append.1 mem with mem | mem
  · exact not_isBlank_of_isNumberChar (number.chars char mem)
  · simpa using List.all_eq_true.1 (List.all_eq_true.1 plain component.unit unit) char mem

theorem Writes.trim_eq (writes : Writes text written) : text.trim = text := by
  have plain := writes.not_isBlank
  have whole : Text.trimOf Text.isBlank ([] ++ text ++ []) = text :=
    Text.trimOf_surrounded nofun nofun (fun char mem => plain char (List.mem_of_mem_head? mem))
      fun char mem => plain char (List.mem_of_getLast? mem)
  rwa [List.nil_append, List.append_nil] at whole

/-- A text of components is no plain number of seconds: it ends with a unit. -/
theorem Writes.not_digits (writes : Writes text written) : ¬ text.all Char.isDigit := by
  intro digits
  obtain ⟨component, rest, rfl⟩ := List.exists_cons_of_ne_nil writes.filled
  have here := writes.written component List.mem_cons_self
  obtain ⟨filled, plain⟩ := not_isNumberChar_of_unit here.unit
  obtain ⟨char, mem⟩ := List.exists_mem_of_ne_nil _ filled
  have inside : char ∈ text := by
    rw [writes.joined, List.flatMap_cons, Component.text]
    simp [mem]
  exact plain char mem (isNumberChar_iff.2 (.inl (List.all_eq_true.1 digits char inside)))

/-- Other texts than plain numbers are read component by component. -/
theorem read_eq_sum (filled : text.trim ≠ []) (spelled : ¬ text.trim.all Char.isDigit) :
    read text = sum text.trim ⟨0⟩ (components text.trim) := by
  rw [read, if_neg filled, if_neg spelled]

/-- **A text of components** is read as the sum of their durations. -/
theorem read_of_writes (writes : Writes text.trim written) :
    read text = outcome text.trim ((written.mapM Component.duration?).bind total?) := by
  obtain ⟨filled, cut, read⟩ := writes_iff.1 writes
  have zero (durations : List Duration) : total? (⟨0⟩ :: durations) = total? durations := by
    simp [total?]
  rw [read_eq_sum filled writes.not_digits, sum_eq_outcome read _ bound_pos, cut]
  simp only [zero]

theorem outcome_eq_ok_iff {input : Text} {found : Option Duration} {duration : Duration} :
    outcome input found = .ok duration ↔ found = some duration := by
  cases found <;> simp [outcome]

/-- What is read from a text that is no plain number is written as components. -/
theorem exists_writes_of_read {duration : Duration}
    (spelled : text.trim = [] ∨ ¬ text.trim.all Char.isDigit) (found : read text = .ok duration) :
    ∃ written, Writes text.trim written := by
  have filled : text.trim ≠ [] := by
    intro empty
    rw [read, if_pos empty] at found
    cases found
  rw [read_eq_sum filled (spelled.resolve_left filled)] at found
  exact ⟨_, writes_iff.2 ⟨filled, rfl, isSome_of_sum_eq_ok found⟩⟩

end

/-! ### Rounds -/

/-- Reading in rounds, each of which takes a component from the front of the text and adds it to the
sum. There is no outcome when the rounds do not suffice. -/
def sumRounds (input : Text) :
    (rounds : Nat) → Duration → Text → Option (Except LiteralError Duration)
  | _, total, [] => some (.ok total)
  | 0, _, _ :: _ => none
  | rounds + 1, total, char :: text =>
    match (takeComponent (char :: text)).1.seconds? with
    | none => some (.error (.malformed .duration input))
    | some seconds =>
      match (ofSeconds? seconds).bind total.add? with
      | none => some (.error (.outOfRange .duration input))
      | some total => sumRounds input rounds total (takeComponent (char :: text)).2

/-- **Reading ends**: as many rounds as the text has characters suffice. -/
theorem sumRounds_eq (input : Text) {rounds : Nat} {text : Text} (enough : text.length ≤ rounds)
    (total : Duration) :
    sumRounds input rounds total text = some (sum input total (components text)) := by
  induction rounds generalizing text total with
  | zero =>
    rw [List.length_eq_zero_iff.1 (Nat.le_zero.1 enough), components]
    rfl
  | succ rounds ih =>
    cases text with
    | nil =>
      rw [components]
      rfl
    | cons char text =>
      have filled := List.cons_ne_nil char text
      have shorter : (takeComponent (char :: text)).2.length ≤ rounds := by
        have less := length_takeComponent_lt filled
        omega
      rw [components_eq filled, sumRounds, sum]
      cases (takeComponent (char :: text)).1.seconds? with
      | none => rfl
      | some seconds =>
        have checked : ((ofSeconds? seconds).bind fun part =>
            ofNanoseconds? (total.nanoseconds + part.nanoseconds))
              = (ofSeconds? seconds).bind total.add? := rfl
        simp only [checked]
        cases (ofSeconds? seconds).bind total.add? with
        | none => rfl
        | some total => exact ih shorter total

/-! ### Texts of components -/

/-- A text is read as the sum of its components: exactly when it is written as components that all
have a duration, with their sum in range. A text that is written as components is never malformed,
and reading it component by component ends. -/
structure ReadsComponents (text : Text) : Prop where
  value (duration : Duration) : read text = .ok duration
    ↔ ∃ written durations, Writes text.trim written
      ∧ written.mapM Component.duration? = some durations ∧ total? durations = some duration
  wellFormed : (∃ written, Writes text.trim written) →
    ∀ kind input, read text ≠ .error (.malformed kind input)
  ends : text.trim ≠ [] → ∀ rounds, text.trim.length ≤ rounds →
    sumRounds text.trim rounds ⟨0⟩ text.trim = some (read text)

theorem readsComponents {text : Text} (spelled : text.trim = [] ∨ ¬ text.trim.all Char.isDigit) :
    ReadsComponents text := by
  refine ⟨fun duration => ⟨fun found => ?_, ?_⟩, ?_, fun filled rounds enough => ?_⟩
  · obtain ⟨written, writes⟩ := exists_writes_of_read spelled found
    rw [read_of_writes writes, outcome_eq_ok_iff, Option.bind_eq_some_iff] at found
    obtain ⟨durations, converted, added⟩ := found
    exact ⟨written, durations, writes, converted, added⟩
  · rintro ⟨written, durations, writes, converted, added⟩
    rw [read_of_writes writes, outcome_eq_ok_iff, converted, Option.bind_some, added]
  · rintro ⟨written, writes⟩ kind input
    rw [read_of_writes writes]
    cases (written.mapM Component.duration?).bind total? <;> simp [outcome]
  · rw [read_eq_sum filled (spelled.resolve_left filled)]
    exact sumRounds_eq text.trim enough ⟨0⟩

/-- The components of two texts have the sum of both sums. -/
theorem bind_total?_append (first second : List Component) :
    ((first ++ second).mapM Component.duration?).bind total?
      = ((first.mapM Component.duration?).bind total?).bind fun former =>
        ((second.mapM Component.duration?).bind total?).bind former.add? := by
  rw [List.mapM_append]
  cases first.mapM Component.duration? with
  | none => rfl
  | some durations =>
    cases second.mapM Component.duration? with
    | none => simp
    | some others => exact total?_append durations others

/-- **Texts of components one after the other** are read as the sum of what is read from each. -/
theorem read_append {front back : Text} {first second : List Component}
    (writesFront : Writes front first) (writesBack : Writes back second) :
    read (front ++ back) = match read front, read back with
      | .ok former, .ok latter => outcome (front ++ back) (former.add? latter)
      | _, _ => .error (.outOfRange .duration (front ++ back)) := by
  have whole {text : Text} {written : List Component} (writes : Writes text written) :
      read text = outcome text ((written.mapM Component.duration?).bind total?) := by
    have trimmed := writes.trim_eq
    rw [← trimmed] at writes
    rw [read_of_writes writes, trimmed]
  rw [whole (writesFront.append writesBack), whole writesFront, whole writesBack,
    bind_total?_append]
  cases (first.mapM Component.duration?).bind total? with
  | none => rfl
  | some former => cases (second.mapM Component.duration?).bind total? <;> rfl

/-- **Durations are the checked sums of their components.** A text that is no plain number of
seconds is read exactly when it is written as components that have durations with a sum in range,
and then as this sum. Two texts of components, one after the other, are read as the sum of both, and
are out of range when one of them or the sum is. -/
theorem reads_checked_sums :
    (∀ text : Text, text.trim = [] ∨ ¬ text.trim.all Char.isDigit → ReadsComponents text)
      ∧ ∀ front back first second, Writes front first → Writes back second →
        read (front ++ back) = match read front, read back with
          | .ok former, .ok latter => outcome (front ++ back) (former.add? latter)
          | _, _ => .error (.outOfRange .duration (front ++ back)) :=
  ⟨fun _ => readsComponents, fun _ _ _ _ => read_append⟩

/-- A text of two components between blanks is read as their sum, a number with two points is not
read, and two durations in range are out of range together. -/
theorem reads_checked_sums_hours :
    read " 1h.5µs " = .ok ⟨3600000000500⟩
      ∧ (∀ duration, read "1.5.0s" ≠ .ok duration)
      ∧ read "5000000000000000h" = .ok ⟨18000000000000000000000000000⟩
      ∧ read ("5000000000000000h".toList ++ "5000000000000000h".toList)
        = .error (.outOfRange .duration "5000000000000000h5000000000000000h") := by
  have short : Writes (Text.trim " 1h.5µs ") [⟨"1", "h"⟩, ⟨".5", "µs"⟩] :=
    ⟨by decide, by decide, by decide⟩
  have long : Writes "5000000000000000h" [⟨"5000000000000000", "h"⟩] :=
    ⟨by decide, by decide, by decide⟩
  have pointed : ¬ ∃ written, Writes (Text.trim "1.5.0s") written := by
    rintro ⟨written, writes⟩
    obtain ⟨-, -, read⟩ := writes_iff.1 writes
    rw [components_eq (by decide)] at read
    exact absurd (read _ List.mem_cons_self) (by decide)
  have alone : read "5000000000000000h" = .ok ⟨18000000000000000000000000000⟩ :=
    ((reads_checked_sums.1 "5000000000000000h" (.inr (by decide))).value _).2
      ⟨_, [⟨18000000000000000000000000000⟩], long, by decide +kernel, by decide +kernel⟩
  refine ⟨?_, fun duration found => pointed ?_, alone, ?_⟩
  · exact ((reads_checked_sums.1 " 1h.5µs " (.inr (by decide))).value _).2
      ⟨_, [⟨3600000000000⟩, ⟨500⟩], short, by decide +kernel, by decide +kernel⟩
  · obtain ⟨written, -, writes, -⟩ :=
      ((reads_checked_sums.1 "1.5.0s" (.inr (by decide))).value duration).1 found
    exact ⟨written, writes⟩
  · rw [reads_checked_sums.2 _ _ _ _ long long, alone]
    decide +kernel

end TypedConfig.Duration
