import Mathlib.Data.List.DropRight
import TypedConfig.Proofs.Text.Parts
import TypedConfig.Tag

/-!
# Where marks are found

* `has_cons`: a mark occurs at the front of a text or behind its first character.
* `cut?_append_mark`, `cut?_append_pair`: the first occurrence of a mark, at the front of a text and
  behind a text that does not hold it.
* `cutLast?_append_cons`: the last occurrence of a character, in front of a text without it.
* `has_iff_isInfix`, `isInfix_of_mem_splitOn`, `isInfix_trimOf`: a mark occurs in a text when it is a
  piece of it; dividing and trimming give pieces, and so no new occurrences.
* `trimOf_trimOf`, `trimOf_append_cons`, `trimOf_surrounded`: a trimmed text has nothing left to
  trim; a character that stays divides what is trimmed; what stands around a text is taken away.
* `Tag.ofText?_span_append`: what the braces of a tag enclose is its body, whatever marks it holds.
-/

namespace TypedConfig.Text

theorem has_cons {char : Char} {text mark : Text} :
    has (char :: text) mark ↔ startsWith (char :: text) mark ∨ has text mark := by
  rw [has, cut?, startsWith, has]
  cases dropStart? (char :: text) mark with
  | some after => simp
  | none => simp

theorem startsWith_pair {char first second : Char} {text : Text} :
    startsWith (char :: text) [first, second] ↔ char = first ∧ text.head? = some second := by
  rw [startsWith, dropStart?]
  by_cases here : char = first
  · rw [if_pos here.symm]
    cases text with
    | nil => simp [dropStart?]
    | cons next text => by_cases there : second = next <;> simp [dropStart?, there, here, eq_comm]
  · rw [if_neg (Ne.symm here)]
    simp [here]

theorem has_pair_cons {char first second : Char} {text : Text} :
    has (char :: text) [first, second]
      ↔ (char = first ∧ text.head? = some second) ∨ has text [first, second] := by
  rw [has_cons, startsWith_pair]

/-- A mark does not occur without its first character. -/
theorem not_has_of_not_mem {text : Text} {first : Char} {mark : Text} (absent : first ∉ text) :
    ¬ has text (first :: mark) := by
  intro held
  obtain ⟨⟨before, after⟩, found⟩ := Option.isSome_iff_exists.1 held
  rw [append_of_cut? found, List.mem_append, List.mem_append, not_or, not_or] at absent
  exact absent.1.2 List.mem_cons_self

theorem cut?_append_mark (mark after : Text) : cut? (mark ++ after) mark = some ([], after) := by
  cases same : mark ++ after with
  | nil =>
    obtain ⟨rfl, rfl⟩ := List.append_eq_nil_iff.1 same
    rfl
  | cons char text => rw [cut?, ← same, dropStart?_append]

theorem cut?_cons_of_not_startsWith {char : Char} {text mark : Text}
    (elsewhere : ¬ startsWith (char :: text) mark) :
    cut? (char :: text) mark = (cut? text mark).map fun parts => (char :: parts.1, parts.2) := by
  rw [startsWith, Bool.not_eq_true, Option.isSome_eq_false_iff, Option.isNone_iff_eq_none]
    at elsewhere
  rw [cut?, elsewhere]

theorem cut?_eq_none_iff {text mark : Text} : cut? text mark = none ↔ ¬ has text mark := by
  rw [has, Bool.not_eq_true, Option.isSome_eq_false_iff, Option.isNone_iff_eq_none]

/-- A mark of two different characters is found behind a text that does not hold it: it cannot begin
with the last character of that text. -/
theorem cut?_append_pair {first second : Char} (different : first ≠ second) {front rest : Text}
    (absent : ¬ has front [first, second]) :
    cut? (front ++ first :: second :: rest) [first, second] = some (front, rest) := by
  induction front with
  | nil => exact cut?_append_mark [first, second] rest
  | cons char front ih =>
    rw [has_pair_cons, not_or] at absent
    have elsewhere : ¬ startsWith (char :: (front ++ first :: second :: rest)) [first, second] := by
      rw [startsWith_pair]
      rintro ⟨rfl, next⟩
      cases front with
      | nil => exact different (Option.some.inj next)
      | cons following front => exact absent.1 ⟨rfl, next⟩
    rw [List.cons_append, cut?_cons_of_not_startsWith elsewhere, ih absent.2]
    rfl

theorem cutLast?_nil {mark : Text} (nonempty : mark ≠ []) : cutLast? [] mark = none :=
  if_neg nonempty

/-- A text that does not hold the first character of a mark does not hold the mark. -/
theorem cutLast?_of_not_mem {text mark : Text} {first : Char} (absent : first ∉ text) :
    cutLast? text (first :: mark) = none := by
  rw [Option.eq_none_iff_forall_ne_some]
  rintro ⟨before, after⟩ found
  refine absurd ?_ absent
  rw [append_of_cutLast? found]
  simp

theorem cutLast?_append_cons {front behind : Text} {last : Char} (absent : last ∉ behind) :
    cutLast? (front ++ last :: behind) [last] = some (front, behind) := by
  induction front with
  | nil => simp [cutLast?, cutLast?_of_not_mem absent, dropStart?]
  | cons char front ih => rw [List.cons_append, cutLast?, ih]

/-- A doubled character in front of a text without it is found there, and not one place later. -/
theorem cutLast?_double {behind : Text} {mark : Char} (absent : mark ∉ behind) :
    cutLast? (mark :: mark :: behind) [mark, mark] = some ([], behind) := by
  have later : cutLast? (mark :: behind) [mark, mark] = none := by
    rw [cutLast?, cutLast?_of_not_mem absent]
    cases behind with
    | nil => simp [dropStart?]
    | cons next behind =>
      have different : mark ≠ next := fun same => absent (same ▸ List.mem_cons_self)
      simp [dropStart?, different]
  rw [cutLast?, later]
  simp [dropStart?]

/-! ### Pieces -/

theorem has_iff_isInfix {text mark : Text} : has text mark ↔ mark <:+: text := by
  constructor
  · intro held
    obtain ⟨⟨before, after⟩, found⟩ := Option.isSome_iff_exists.1 held
    exact ⟨before, after, (append_of_cut? found).symm⟩
  · rintro ⟨before, after, rfl⟩
    induction before with
    | nil =>
      rw [has, List.nil_append, cut?_append_mark]
      rfl
    | cons char before ih => exact has_cons.2 (.inr ih)

/-- What stands between separators stands in the text; the part in front of the first one begins
it. -/
theorem isInfix_of_mem_splitOn {text part : Text} {separator : Char}
    (mem : part ∈ text.splitOn separator) : part <:+: text := by
  suffices general : (∃ first rest, text.splitOn separator = first :: rest ∧ first <+: text)
      ∧ ∀ part ∈ text.splitOn separator, part <:+: text from general.2 part mem
  clear mem part
  induction text with
  | nil => exact ⟨⟨[], [], rfl, List.prefix_rfl⟩, by simp [splitOn]⟩
  | cons char text ih =>
    obtain ⟨⟨first, rest, divided, front⟩, pieces⟩ := ih
    rw [splitOn_cons]
    by_cases here : char = separator
    · rw [if_pos here]
      refine ⟨⟨[], _, rfl, List.nil_prefix⟩, fun part mem => ?_⟩
      rcases List.mem_cons.1 mem with rfl | later
      · exact List.nil_infix
      · exact (pieces part later).trans (List.suffix_cons char text).isInfix
    · rw [if_neg here, divided, List.modifyHead_cons]
      refine ⟨⟨_, rest, rfl, List.cons_prefix_cons.2 ⟨rfl, front⟩⟩, fun part mem => ?_⟩
      rcases List.mem_cons.1 mem with rfl | later
      · exact (List.cons_prefix_cons.2 ⟨rfl, front⟩).isInfix
      · refine (pieces part ?_).trans (List.suffix_cons char text).isInfix
        exact divided ▸ List.mem_cons_of_mem first later

theorem isInfix_trimOf (drop : Char → Bool) (text : Text) : trimOf drop text <:+: text := by
  have asDrop : trimOf drop text = (text.dropWhile drop).rdropWhile drop := rfl
  rw [asDrop]
  exact (List.rdropWhile_prefix drop _).isInfix.trans (List.dropWhile_suffix drop).isInfix

/-! ### Trimming -/

section

variable {drop : Char → Bool} {char : Char}

theorem trimOf_eq (drop : Char → Bool) (text : Text) :
    trimOf drop text = (text.dropWhile drop).rdropWhile drop := rfl

/-- What is left of the front when the end is trimmed still starts with a character that stays. -/
theorem dropWhile_trimOf (drop : Char → Bool) (text : Text) :
    (trimOf drop text).dropWhile drop = trimOf drop text := by
  rw [trimOf_eq, List.dropWhile_eq_self_iff]
  intro long
  have same := (List.rdropWhile_prefix drop (l := text.dropWhile drop)).getElem long
  rw [same]
  exact List.dropWhile_get_zero_not drop text _

theorem rdropWhile_trimOf (drop : Char → Bool) (text : Text) :
    (trimOf drop text).rdropWhile drop = trimOf drop text := by
  rw [trimOf_eq, List.rdropWhile_idempotent]

theorem trimOf_trimOf (drop : Char → Bool) (text : Text) :
    trimOf drop (trimOf drop text) = trimOf drop text := by
  rw [trimOf_eq, dropWhile_trimOf, rdropWhile_trimOf]

theorem not_drop_of_mem_head?_trimOf {text : Text} (mem : char ∈ (trimOf drop text).head?) :
    ¬ drop char := by
  obtain ⟨rest, same⟩ := List.head?_eq_some_iff.1 mem
  have kept := dropWhile_trimOf drop text
  rw [same, List.dropWhile_eq_self_iff] at kept
  exact kept (Nat.zero_lt_succ _)

theorem not_drop_of_mem_getLast?_trimOf {text : Text} (mem : char ∈ (trimOf drop text).getLast?) :
    ¬ drop char := by
  obtain ⟨filled, rfl⟩ := List.mem_getLast?_eq_getLast mem
  exact List.rdropWhile_eq_self_iff.1 (rdropWhile_trimOf drop text) filled

/-- Nothing is left of a text in which every character is dropped. -/
theorem trimOf_of_all {text : Text} (all : ∀ char ∈ text, drop char) : trimOf drop text = [] := by
  rw [trimOf_eq, List.dropWhile_eq_nil_iff.2 all]
  rfl

theorem dropWhile_append_cons (kept : ¬ drop char) (front back : Text) :
    (front ++ char :: back).dropWhile drop = front.dropWhile drop ++ char :: back := by
  rw [List.dropWhile_append, List.dropWhile_cons_of_neg kept]
  split
  next none => rw [List.isEmpty_iff.1 none, List.nil_append]
  next => rfl

theorem rdropWhile_append_cons (kept : ¬ drop char) (front back : Text) :
    (front ++ char :: back).rdropWhile drop = front ++ char :: back.rdropWhile drop := by
  rw [List.rdropWhile, List.reverse_append, List.reverse_cons, List.append_assoc,
    List.singleton_append, dropWhile_append_cons kept]
  simp [List.rdropWhile]

theorem rdropWhile_append_of_all {back : Text} (all : ∀ char ∈ back, drop char) (front : Text) :
    (front ++ back).rdropWhile drop = front.rdropWhile drop := by
  rw [List.rdropWhile, List.reverse_append,
    List.dropWhile_append_of_pos fun char mem => all char (List.mem_reverse.1 mem),
    List.rdropWhile]

/-- A character that stays divides what is trimmed at the front from what is trimmed at the end. -/
theorem trimOf_append_cons (kept : ¬ drop char) (front back : Text) :
    trimOf drop (front ++ char :: back)
      = front.dropWhile drop ++ char :: back.rdropWhile drop := by
  rw [trimOf_eq, dropWhile_append_cons kept, rdropWhile_append_cons kept]

theorem trimOf_dropWhile (drop : Char → Bool) (text : Text) :
    trimOf drop (text.dropWhile drop) = trimOf drop text := by
  rw [trimOf_eq, List.dropWhile_idempotent, trimOf_eq]

theorem trimOf_rdropWhile (drop : Char → Bool) (text : Text) :
    trimOf drop (text.rdropWhile drop) = trimOf drop text := by
  by_cases all : ∀ char ∈ text, drop char
  · rw [List.rdropWhile_eq_nil_iff.2 all, trimOf_of_all all]
    rfl
  · push Not at all
    obtain ⟨char, mem, kept⟩ := all
    obtain ⟨front, back, rfl⟩ := List.append_of_mem mem
    rw [rdropWhile_append_cons kept, trimOf_append_cons kept, trimOf_append_cons kept,
      List.rdropWhile_idempotent]

/-- Characters that are dropped leave no trace at the end of a text. -/
theorem trimOf_append_of_all {back : Text} (all : ∀ char ∈ back, drop char) (text : Text) :
    trimOf drop (text ++ back) = trimOf drop text := by
  rw [← trimOf_rdropWhile, rdropWhile_append_of_all all, trimOf_rdropWhile]

/-- **Trimming takes away what is put around a text** that has nothing to trim. -/
theorem trimOf_surrounded {front text back : Text} (before : ∀ char ∈ front, drop char)
    (behind : ∀ char ∈ back, drop char) (first : ∀ char ∈ text.head?, ¬ drop char)
    (last : ∀ char ∈ text.getLast?, ¬ drop char) : trimOf drop (front ++ text ++ back) = text := by
  rw [trimOf_eq, List.append_assoc, List.dropWhile_append_of_pos before]
  cases text with
  | nil => exact trimOf_of_all behind
  | cons char text =>
    rw [List.cons_append, List.dropWhile_cons_of_neg (first char rfl), ← List.cons_append,
      rdropWhile_append_of_all behind, List.rdropWhile_eq_self_iff]
    exact fun filled => last _ (List.getLast?_eq_getLast_of_ne_nil filled)

/-- What trimming takes away. -/
theorem exists_trimOf (drop : Char → Bool) (text : Text) :
    ∃ front back, text = front ++ trimOf drop text ++ back
      ∧ (∀ char ∈ front, drop char) ∧ ∀ char ∈ back, drop char := by
  refine ⟨text.takeWhile drop, (text.dropWhile drop).rtakeWhile drop, ?_,
    fun char => List.mem_takeWhile_imp, fun char => List.mem_rtakeWhile_imp⟩
  rw [trimOf_eq, List.append_assoc, List.rdropWhile_append_rtakeWhile,
    List.takeWhile_append_dropWhile]

end

end TypedConfig.Text

namespace TypedConfig.Tag

/-- **The braces of a tag enclose its body**, whatever marks stand inside; what is behind the closing
brace is read for a splitter alone. -/
theorem ofText?_span_append (body : Text) {behind : Text} (closed : '}' ∉ behind) :
    ofText? (opening ++ body ++ '}' :: behind) = (ofBody? body).bind fun tag =>
      match behind.cutLast? bars with
      | none => .ok tag
      | some (_, name) => tag.withSplitter? name := by
  have notAlone : ((opening ++ body ++ '}' :: behind).cutLast? bars).any
      (fun parts => parts.1.isEmpty) = false := by
    cases found : (opening ++ body ++ '}' :: behind).cutLast? bars with
    | none => rfl
    | some parts =>
      obtain ⟨front, after⟩ := parts
      have same := Text.append_of_cutLast? found
      cases front with
      | nil => cases same
      | cons char front => rfl
  have first : (opening ++ body).cut? opening = some ([], body) := Text.cut?_append_mark _ _
  have last : (opening ++ body ++ '}' :: behind).cutLast? ['}'] = some (opening ++ body, behind) :=
    Text.cutLast?_append_cons closed
  rw [ofText?, notAlone]
  simp only [last, first]
  cases ofBody? body <;> rfl

/-- A text that is one placeholder is read as the tag of its body. -/
theorem ofText?_span (body : Text) : ofText? (opening ++ body ++ ['}']) = ofBody? body := by
  have nothing : Text.cutLast? [] bars = none := Text.cutLast?_nil (by simp [bars])
  rw [ofText?_span_append body List.not_mem_nil, nothing]
  cases ofBody? body <;> rfl

end TypedConfig.Tag
