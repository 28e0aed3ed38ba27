import Mathlib.Data.List.Basic
import TypedConfig.Key

/-!
# Keys as a tree

Keys are ordered like the nodes of a tree: `Within top key` says that a key is `top` or lies below
it.

* `Within.total`: two keys around one key lie one within the other. This is what makes the order a
  tree, and every separation of subtrees below rests on it.
* `Rivals`: one of two keys lies inside the other, so that only one of them can hold a value.
* `Apart`: neither of two keys is within the other; `Apart.of_within` carries this over to all keys
  below them.
* `apart_child`, `apart_element`: members of different plain names and elements of different indices
  are apart.
-/

namespace TypedConfig.Key

/-- The characters that lead from a container to what is inside it. -/
def Descends (char : Char) : Prop := char = '.' ∨ char = '['

instance : DecidablePred Descends := fun char =>
  inferInstanceAs (Decidable (char = '.' ∨ char = '['))

/-! ### Below -/

theorem suffixBelow?_append {top rest : Text} {char : Char} (descends : Descends char) :
    suffixBelow? top (top ++ char :: rest) = some (char :: rest) := by
  rw [suffixBelow?, Text.dropStart?_append]
  show (if (char = '.' || char = '[') then some (char :: rest) else none) = _
  rw [if_pos (by simpa [Descends] using descends)]

theorem isBelow_iff {top key : Text} :
    isBelow top key ↔ ∃ char rest, Descends char ∧ key = top ++ char :: rest := by
  constructor
  · intro below
    rw [isBelow, suffixBelow?] at below
    split at below
    next char rest found =>
      refine ⟨char, rest, ?_, Text.append_of_dropStart? found⟩
      by_contra other
      rw [if_neg (by simpa [Descends] using other)] at below
      cases below
    next => cases below
  · rintro ⟨char, rest, descends, rfl⟩
    rw [isBelow, suffixBelow?_append descends]
    rfl

theorem length_lt_of_isBelow {top key : Text} (below : isBelow top key) :
    top.length < key.length := by
  obtain ⟨char, rest, _, rfl⟩ := isBelow_iff.1 below
  rw [List.length_append, List.length_cons]
  omega

theorem ne_nil_of_isBelow {top key : Text} (below : isBelow top key) : key ≠ [] := by
  rintro rfl
  exact Nat.not_lt_zero _ (length_lt_of_isBelow below)

theorem isBelow_trans {top middle key : Text} (inner : isBelow top middle)
    (outer : isBelow middle key) : isBelow top key := by
  obtain ⟨char, rest, descends, rfl⟩ := isBelow_iff.1 inner
  obtain ⟨other, more, _, rfl⟩ := isBelow_iff.1 outer
  refine isBelow_iff.2 ⟨char, rest ++ other :: more, descends, ?_⟩
  rw [List.append_assoc, List.cons_append]

/-! ### Within -/

/-- A key is `top` or lies below it. -/
def Within (top key : Text) : Prop := key = top ∨ isBelow top key

instance (top key : Text) : Decidable (Within top key) :=
  inferInstanceAs (Decidable (key = top ∨ isBelow top key))

theorem Within.refl (key : Text) : Within key key := .inl rfl

theorem Within.of_isBelow {top key : Text} (below : isBelow top key) : Within top key := .inr below

theorem Within.trans {top middle key : Text} (inner : Within top middle)
    (outer : Within middle key) : Within top key := by
  rcases inner with rfl | inner
  · exact outer
  · rcases outer with rfl | outer
    · exact .inr inner
    · exact .inr (isBelow_trans inner outer)

theorem isBelow_of_isBelow_of_within {top middle key : Text} (inner : isBelow top middle)
    (outer : Within middle key) : isBelow top key := by
  rcases outer with rfl | outer
  · exact inner
  · exact isBelow_trans inner outer

theorem within_iff_exists_append {top key : Text} :
    Within top key ↔ ∃ rest, (∀ char ∈ rest.head?, Descends char) ∧ key = top ++ rest := by
  constructor
  · rintro (rfl | below)
    · exact ⟨[], by simp, by simp⟩
    · obtain ⟨char, rest, descends, rfl⟩ := isBelow_iff.1 below
      refine ⟨char :: rest, ?_, rfl⟩
      intro first same
      cases same
      exact descends
  · rintro ⟨rest, descends, rfl⟩
    cases rest with
    | nil => exact .inl (List.append_nil top)
    | cons char rest => exact .inr (isBelow_iff.2 ⟨char, rest, descends char rfl, rfl⟩)

/-- **Two keys around one key lie one within the other.** -/
theorem Within.total {first second key : Text} (inFirst : Within first key)
    (inSecond : Within second key) : Within first second ∨ Within second first := by
  obtain ⟨rest, descends, rfl⟩ := within_iff_exists_append.1 inFirst
  obtain ⟨other, descends', same⟩ := within_iff_exists_append.1 inSecond
  rcases List.append_eq_append_iff.1 same with ⟨gap, rfl, rfl⟩ | ⟨gap, rfl, rfl⟩
  · refine .inl (within_iff_exists_append.2 ⟨gap, ?_, rfl⟩)
    intro char mem
    exact descends char (by cases gap <;> simp_all)
  · refine .inr (within_iff_exists_append.2 ⟨gap, ?_, rfl⟩)
    intro char mem
    exact descends' char (by cases gap <;> simp_all)

theorem length_le_of_within {top key : Text} (within : Within top key) :
    top.length ≤ key.length := by
  rcases within with rfl | below
  · exact Nat.le_refl _
  · exact Nat.le_of_lt (length_lt_of_isBelow below)

/-! ### Rivals -/

/-- One of two keys lies inside the other. -/
def Rivals (first second : Text) : Prop := isBelow first second ∨ isBelow second first

instance (first second : Text) : Decidable (Rivals first second) :=
  inferInstanceAs (Decidable (_ ∨ _))

/-! ### Apart -/

/-- Neither of two keys is within the other. -/
structure Apart (first second : Text) : Prop where
  left : ¬ Within first second
  right : ¬ Within second first

theorem Apart.symm {first second : Text} (apart : Apart first second) : Apart second first :=
  ⟨apart.right, apart.left⟩

theorem Apart.not_rivals {first second : Text} (apart : Apart first second) :
    ¬ Rivals first second :=
  not_or.2 ⟨fun below => apart.left (.of_isBelow below),
    fun below => apart.right (.of_isBelow below)⟩

/-- Keys within keys that are apart are apart. -/
theorem Apart.of_within {first second inFirst inSecond : Text} (apart : Apart first second)
    (left : Within first inFirst) (right : Within second inSecond) : Apart inFirst inSecond := by
  constructor
  · intro within
    rcases (left.trans within).total right with inside | inside
    · exact apart.left inside
    · exact apart.right inside
  · intro within
    rcases (right.trans within).total left with inside | inside
    · exact apart.right inside
    · exact apart.left inside

theorem Apart.not_within {first second key : Text} (apart : Apart first second)
    (inFirst : Within first key) : ¬ Within second key := by
  intro inSecond
  rcases inFirst.total inSecond with inside | inside
  · exact apart.left inside
  · exact apart.right inside

/-! ### Members and elements -/

theorem child_eq {key segment : Text} (inside : key ≠ []) :
    child key segment = key ++ '.' :: segment := if_neg inside

theorem isBelow_child {key : Text} (inside : key ≠ []) (segment : Text) :
    isBelow key (child key segment) :=
  isBelow_iff.2 ⟨'.', segment, .inl rfl, child_eq inside⟩

theorem element_eq (key : Text) (index : Nat) :
    element key index = key ++ '[' :: (Text.ofNat index ++ [']']) := List.append_assoc ..

theorem isBelow_element (key : Text) (index : Nat) : isBelow key (element key index) :=
  isBelow_iff.2 ⟨'[', Text.ofNat index ++ [']'], .inr rfl, element_eq key index⟩

theorem not_isMark_of_isName {name : Text} (plain : isName name) :
    ∀ char ∈ name, ¬ isMark char := by
  rw [isName, Bool.and_eq_true, List.all_eq_true] at plain
  intro char mem
  simpa using plain.2 char mem

theorem isMark_of_descends {char : Char} (descends : Descends char) : isMark char := by
  rcases descends with rfl | rfl <;> rfl

theorem ne_nil_of_isName {name : Text} (plain : isName name) : name ≠ [] := by
  rintro rfl
  cases plain

theorem child_append (key segment rest : Text) :
    child key (segment ++ rest) = child key segment ++ rest := by
  rw [child, child]
  split_ifs
  · rfl
  · rw [List.append_assoc, List.cons_append]

theorem child_ne_nil {key name : Text} (inside : name ≠ []) : child key name ≠ [] := by
  rw [child]
  split_ifs
  · exact inside
  · exact List.append_ne_nil_of_right_ne_nil _ (List.cons_ne_nil _ _)

theorem not_within_child {key first second : Text} (plain : isName second)
    (different : first ≠ second) : ¬ Within (child key first) (child key second) := by
  -- all names stand behind the same text
  have behind (name : Text) : child key name = child key [] ++ name := child_append key [] name
  rw [behind first, behind second]
  rintro (same | below)
  · exact different (List.append_cancel_left same).symm
  · obtain ⟨char, rest, descends, same⟩ := isBelow_iff.1 below
    rw [List.append_assoc] at same
    have name : second = first ++ char :: rest := List.append_cancel_left same
    refine not_isMark_of_isName plain char ?_ (isMark_of_descends descends)
    rw [name]
    exact List.mem_append_right _ List.mem_cons_self

/-- Members of different names are apart. -/
theorem apart_child {key first second : Text} (firstPlain : isName first)
    (secondPlain : isName second) (different : first ≠ second) :
    Apart (child key first) (child key second) :=
  ⟨not_within_child secondPlain different, not_within_child firstPlain different.symm⟩

/-- What stands in front of all dots and opening brackets is the first name. -/
theorem firstName_append_of_flat {name rest : Text} (flat : ∀ char ∈ name, ¬ Descends char)
    (descends : ∀ char ∈ rest.head?, Descends char) : firstName (name ++ rest) = name := by
  have kept : ∀ char ∈ name, (char != '.' && char != '[') = true := by
    intro char mem
    simpa [Descends] using flat char mem
  rw [firstName, List.takeWhile_append_of_pos kept]
  cases rest with
  | nil => rw [List.takeWhile_nil, List.append_nil]
  | cons char rest =>
    have stops : (char != '.' && char != '[') = false := by
      rcases descends char rfl with rfl | rfl <;> rfl
    rw [List.takeWhile_cons_of_neg (by simp [stops]), List.append_nil]

/-- The name of a member is read off every key within it. -/
theorem firstName_append {name rest : Text} (plain : isName name)
    (descends : ∀ char ∈ rest.head?, Descends char) : firstName (name ++ rest) = name :=
  have flat : ∀ char ∈ name, ¬ Descends char := fun char mem inside =>
    not_isMark_of_isName plain char mem (isMark_of_descends inside)
  firstName_append_of_flat flat descends

theorem isDigit_of_mem_ofNat {number : Nat} {char : Char} (mem : char ∈ Text.ofNat number) :
    char.isDigit :=
  Nat.isDigit_of_mem_toDigits (by decide) (by decide) mem

theorem ofNat_injective : Function.Injective Text.ofNat := by
  intro first second same
  have digits (number : Nat) : Nat.ofDigitChars 10 (Text.ofNat number) 0 = number :=
    Nat.ofDigitChars_ten_toDigits
  rw [← digits first, ← digits second, same]

theorem not_mem_ofNat (number : Nat) : ']' ∉ Text.ofNat number :=
  fun mem => absurd (isDigit_of_mem_ofNat mem) (by decide)

/-- The key of an element whose index is spelled out. -/
def spelled (key index : Text) : Text := key ++ '[' :: (index ++ [']'])

theorem eq_of_within_spelled {key first second : Text} (unclosed : ']' ∉ second)
    (within : Within (spelled key first) (spelled key second)) : first = second := by
  obtain ⟨rest, -, same⟩ := within_iff_exists_append.1 within
  rw [spelled, spelled, List.append_assoc, List.cons_append] at same
  have indices := (List.cons.inj (List.append_cancel_left same)).2
  rw [List.append_assoc, List.singleton_append] at indices
  exact ((List.append_cons_inj_of_notMem unclosed List.not_mem_nil).1 indices).1.symm

theorem not_within_element {key : Text} {first second : Nat} (different : first ≠ second) :
    ¬ Within (element key first) (element key second) := by
  rw [element_eq, element_eq]
  intro within
  exact different (ofNat_injective (eq_of_within_spelled (not_mem_ofNat second) within))

/-- Elements of different indices are apart. -/
theorem apart_element {key : Text} {first second : Nat} (different : first ≠ second) :
    Apart (element key first) (element key second) :=
  ⟨not_within_element different, not_within_element different.symm⟩

end TypedConfig.Key
