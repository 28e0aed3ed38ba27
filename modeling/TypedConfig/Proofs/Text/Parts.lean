import Mathlib.Data.List.Basic
import TypedConfig.Text.Basic

/-!
# Parts that are joined and divided again

* `splitOn_eq`, `join_eq`: dividing a text at a character and joining texts are functions on lists
  that the library knows.
* `splitOn_map`: a text with other marks in the place of its separators is divided alike.
* `splitOn_join`: parts that are joined with a character which none of them holds are found again.
* `ended`, `splitOn_join_ended`: of a mark between parts of which only the last character divides,
  the rest is found at the ends of the parts.
-/

namespace TypedConfig.Text

variable {parts : List Text} {ending : Text} {separator : Char}

/-! ### Dividing -/

theorem splitOn_ne_nil (text : Text) (separator : Char) : splitOn text separator ≠ [] := by
  cases text with
  | nil => exact List.cons_ne_nil _ _
  | cons char text =>
    rw [splitOn, List.foldr_cons]
    split
    · exact List.cons_ne_nil _ _
    · split <;> exact List.cons_ne_nil _ _

theorem splitOn_cons (char : Char) (text : Text) (separator : Char) :
    splitOn (char :: text) separator
      = if char = separator then [] :: splitOn text separator
        else (splitOn text separator).modifyHead (char :: ·) := by
  have filled := splitOn_ne_nil text separator
  unfold splitOn at filled ⊢
  rw [List.foldr_cons]
  split
  · rfl
  · split
    next none => exact absurd none filled
    next part parts found => rw [found, List.modifyHead_cons]

theorem splitOn_eq (text : Text) (separator : Char) :
    splitOn text separator = List.splitOn separator text := by
  induction text with
  | nil => rfl
  | cons char text ih =>
    rw [splitOn_cons, ih]
    simp only [List.splitOn, List.splitOnP_cons_eq_if_modifyHead, beq_iff_eq]

/-- A text in which the separators are changed to marks, and only these, is divided alike. -/
theorem splitOn_map {change : Char → Char} {text : Text} {separator mark : Char}
    (marks : ∀ char ∈ text, change char = mark ↔ char = separator) :
    splitOn (text.map change) mark = (splitOn text separator).map (List.map change) := by
  induction text with
  | nil => rfl
  | cons char text ih =>
    obtain ⟨here, later⟩ := List.forall_mem_cons.1 marks
    rw [List.map_cons, splitOn_cons, splitOn_cons, ih later]
    simp only [here]
    split
    · rfl
    · obtain ⟨part, parts, found⟩ := List.exists_cons_of_ne_nil (splitOn_ne_nil text separator)
      rw [found]
      rfl

/-! ### Joining -/

theorem join_eq (separator : Text) (parts : List Text) :
    join separator parts = separator.intercalate parts := by
  induction parts with
  | nil => rfl
  | cons part parts ih =>
    cases parts with
    | nil => simp [join]
    | cons next parts => rw [join, ih, List.intercalate_cons_cons]; simp

/-- **Parts are found again** when they are joined with a character that none of them holds. -/
theorem splitOn_join (nonempty : parts ≠ []) (plain : ∀ part ∈ parts, separator ∉ part) :
    splitOn (join [separator] parts) separator = parts := by
  rw [splitOn_eq, join_eq]
  exact List.splitOn_intercalate separator plain nonempty

theorem join_cons (nonempty : parts ≠ []) (separator part : Text) :
    join separator (part :: parts) = part ++ separator ++ join separator parts := by
  obtain ⟨next, parts, rfl⟩ := List.exists_cons_of_ne_nil nonempty
  rw [join]
  exact List.cons_ne_nil next parts

/-! ### Endings -/

/-- All parts but the last with an ending. -/
def ended (ending : Text) : List Text → List Text
  | [] => []
  | [part] => [part]
  | part :: parts => (part ++ ending) :: ended ending parts

theorem ended_cons (nonempty : parts ≠ []) (ending part : Text) :
    ended ending (part :: parts) = (part ++ ending) :: ended ending parts := by
  obtain ⟨next, parts, rfl⟩ := List.exists_cons_of_ne_nil nonempty
  rw [ended]
  exact List.cons_ne_nil next parts

/-- Every part stands in its place, with an ending or without. -/
theorem forall₂_ended (ending : Text) (parts : List Text) :
    List.Forall₂ (fun part found => found = part ∨ found = part ++ ending) parts
      (ended ending parts) := by
  fun_induction ended ending parts with
  | case1 => exact .nil
  | case2 part => exact .cons (.inl rfl) .nil
  | case3 part parts _ ih => exact .cons (.inr rfl) ih

theorem forall_mem_ended {holds : Text → Prop} (each : ∀ part ∈ parts, holds part)
    (kept : ∀ part, holds part → holds (part ++ ending)) :
    ∀ part ∈ ended ending parts, holds part := by
  fun_induction ended ending parts with
  | case1 => exact each
  | case2 => exact each
  | case3 part parts _ ih =>
    obtain ⟨here, later⟩ := List.forall_mem_cons.1 each
    exact List.forall_mem_cons.2 ⟨kept part here, ih later⟩

theorem ended_ne_nil (nonempty : parts ≠ []) (ending : Text) : ended ending parts ≠ [] := by
  obtain ⟨part, parts, rfl⟩ := List.exists_cons_of_ne_nil nonempty
  cases parts <;> exact List.cons_ne_nil _ _

/-- What is joined with a mark is joined with its last character, when the others are put to the
parts in front. -/
theorem join_ended (ending : Text) (separator : Char) (parts : List Text) :
    join (ending ++ [separator]) parts = join [separator] (ended ending parts) := by
  induction parts with
  | nil => rfl
  | cons part parts ih =>
    by_cases last : parts = []
    · rw [last]
      rfl
    · rw [join_cons last, ended_cons last, join_cons (ended_ne_nil last ending), ih]
      simp

/-- **Parts are found again with their endings** when they are joined with a mark of which only the
last character divides. -/
theorem splitOn_join_ended (nonempty : parts ≠ []) (plain : ∀ part ∈ parts, separator ∉ part)
    (unbroken : separator ∉ ending) :
    splitOn (join (ending ++ [separator]) parts) separator = ended ending parts := by
  rw [join_ended]
  refine splitOn_join (ended_ne_nil nonempty ending) (forall_mem_ended plain fun part here => ?_)
  rw [List.mem_append, not_or]
  exact ⟨here, unbroken⟩

end TypedConfig.Text
