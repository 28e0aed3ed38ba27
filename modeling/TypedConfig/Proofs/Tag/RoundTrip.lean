import Mathlib.Tactic.SplitIfs
import TypedConfig.Proofs.Except
import TypedConfig.Proofs.Text.Cut

/-!
# Written tags are read back

A tag is written without any escapes, and it is read by four marks: the first `${`, the last `}`,
the first `:=` between them and the last `||` behind them. A fallback may hold all four of them.

* `Regular`: what a key and a splitter must not hold. Nothing is asked of a fallback.
* `Built`: the tags that are read or built from parts; they are regular (`regular_of_built`).
* `ofText?_text`: the written form of a regular tag is read as that tag.
-/

namespace TypedConfig.Tag

/-- The key and the splitter of a tag leave its marks where they are written. -/
structure Regular (tag : Tag) : Prop where
  unassigned : ¬ tag.key.has assignment
  unclosed : '}' ∉ tag.key
  splitter : ∀ name ∈ tag.splitter, name ≠ [] ∧ name.trim = name ∧ '|' ∉ name ∧ '}' ∉ name

/-! ### The tags that come about -/

/-- The tags that are read from a text, and those that are put together from a key, fallbacks and
splitters. -/
inductive Built : Tag → Prop
  | read {text : Text} {tag : Tag} (found : ofText? text = .ok tag) : Built tag
  | key {key : Text} {tag : Tag} (accepted : ofKey? key = .ok tag) : Built tag
  | fallback {tag : Tag} (built : Built tag) (fallback : Text) : Built (tag.withFallback fallback)
  | splitter {tag result : Tag} {name : Text} (built : Built tag)
      (accepted : tag.withSplitter? name = .ok result) : Built result

theorem regular_of_ofKey? {key : Text} {tag : Tag} (accepted : ofKey? key = .ok tag) :
    Regular tag := by
  unfold ofKey? at accepted
  split_ifs at accepted with marked
  cases accepted
  rw [Bool.or_eq_true, not_or, List.contains_iff_mem] at marked
  exact ⟨marked.1, marked.2, by simp⟩

theorem Regular.withFallback {tag : Tag} (regular : Regular tag) (fallback : Text) :
    Regular (tag.withFallback fallback) :=
  ⟨regular.unassigned, regular.unclosed, regular.splitter⟩

theorem Regular.withSplitter? {tag result : Tag} {name : Text} (regular : Regular tag)
    (accepted : tag.withSplitter? name = .ok result) : Regular result := by
  simp only [Tag.withSplitter?] at accepted
  by_cases marked : (name.trim.contains '|' || name.trim.contains '}') = true
  · rw [if_pos marked] at accepted
    cases accepted
  · rw [if_neg marked] at accepted
    cases accepted
    rw [Bool.or_eq_true, not_or, List.contains_iff_mem, List.contains_iff_mem] at marked
    refine ⟨regular.unassigned, regular.unclosed, ?_⟩
    intro kept mem
    by_cases blank : name.trim = []
    · rw [if_pos blank] at mem
      cases mem
    · rw [if_neg blank] at mem
      cases mem
      exact ⟨blank, Text.trimOf_trimOf Text.isBlank name, marked⟩

theorem regular_of_ofBody? {body : Text} {tag : Tag} (read : ofBody? body = .ok tag) :
    Regular tag := by
  unfold ofBody? at read
  split at read
  next key fallback divided =>
    obtain ⟨plain, accepted, rfl⟩ := exists_of_map_eq_ok read
    exact (regular_of_ofKey? accepted).withFallback fallback
  next => exact regular_of_ofKey? read

theorem regular_of_ofText? {text : Text} {tag : Tag} (read : ofText? text = .ok tag) :
    Regular tag := by
  unfold ofText? at read
  simp only [bind, Except.bind, throw, throwThe, MonadExceptOf.throw, pure, Except.pure] at read
  split at read
  next => cases read
  split at read
  next => cases read
  next front behind closing =>
    split at read
    next => cases read
    split at read
    next => cases read
    next before body opens =>
      split at read
      next => cases read
      next plain found =>
        have regular := regular_of_ofBody? found
        split at read
        next =>
          cases read
          exact regular
        next => exact regular.withSplitter? read

theorem regular_of_built {tag : Tag} (built : Built tag) : Regular tag := by
  induction built with
  | read found => exact regular_of_ofText? found
  | key accepted => exact regular_of_ofKey? accepted
  | fallback _ fallback ih => exact ih.withFallback fallback
  | splitter _ accepted ih => exact ih.withSplitter? accepted

/-! ### Reading what is written -/

/-- What is written between the braces of a tag. -/
def body (tag : Tag) : Text :=
  tag.key ++ match tag.fallback with | some fallback => assignment ++ fallback | none => []

/-- What is written behind the closing brace. -/
def ending (tag : Tag) : Text := match tag.splitter with | some name => bars ++ name | none => []

theorem text_eq (tag : Tag) : tag.text = opening ++ tag.body ++ '}' :: tag.ending := by
  unfold text body ending
  cases tag.fallback <;> cases tag.splitter <;> simp

theorem Regular.closed {tag : Tag} (regular : Regular tag) : '}' ∉ tag.ending := by
  unfold ending
  cases named : tag.splitter with
  | none => simp
  | some name =>
    obtain ⟨-, -, -, unclosed⟩ := regular.splitter name named
    simpa [bars] using unclosed

/-- The body gives back the key and the fallback: the assignment mark of the tag is the first one,
since a key that ends in a colon cannot form one with what follows. -/
theorem Regular.ofBody?_body {tag : Tag} (regular : Regular tag) :
    ofBody? tag.body = .ok ⟨tag.key, tag.fallback, none⟩ := by
  have accepted : ofKey? tag.key = .ok ⟨tag.key, none, none⟩ := by
    unfold ofKey?
    rw [if_neg]
    rw [Bool.or_eq_true, not_or, List.contains_iff_mem]
    exact ⟨regular.unassigned, regular.unclosed⟩
  unfold ofBody? body
  cases tag.fallback with
  | none =>
    have whole : (tag.key ++ []).cut? assignment = none := by
      rw [List.append_nil]
      exact Text.cut?_eq_none_iff.2 regular.unassigned
    simp only [whole]
    rw [List.append_nil]
    exact accepted
  | some fallback =>
    have divided : (tag.key ++ (assignment ++ fallback)).cut? assignment
        = some (tag.key, fallback) := Text.cut?_append_pair (by decide) regular.unassigned
    simp only [divided, accepted]
    rfl

theorem Regular.withSplitter?_eq {tag : Tag} (regular : Regular tag) {name : Text}
    (named : tag.splitter = some name) (plain : Tag) :
    plain.withSplitter? name = .ok { plain with splitter := some name } := by
  obtain ⟨nonempty, trimmed, unbarred, unclosed⟩ := regular.splitter name named
  unfold Tag.withSplitter?
  rw [trimmed, if_neg]
  · rw [if_neg nonempty]
  · rw [Bool.or_eq_true, not_or, List.contains_iff_mem, List.contains_iff_mem]
    exact ⟨unbarred, unclosed⟩

theorem ofText?_text_of_regular {tag : Tag} (regular : Regular tag) :
    ofText? tag.text = .ok tag := by
  rw [text_eq, ofText?_span_append tag.body regular.closed, regular.ofBody?_body]
  cases named : tag.splitter with
  | none =>
    have nothing : tag.ending.cutLast? bars = none := by
      unfold ending
      rw [named]
      exact Text.cutLast?_nil (by simp [bars])
    simp only [nothing, Except.bind]
    rw [← named]
  | some name =>
    obtain ⟨-, -, unbarred, -⟩ := regular.splitter name named
    have found : tag.ending.cutLast? bars = some ([], name) := by
      unfold ending
      rw [named]
      exact Text.cutLast?_double unbarred
    simp only [found, Except.bind]
    rw [regular.withSplitter?_eq named, ← named]

/-- **Tags survive being written and read**, whatever stands in the fallback: every tag that was
read from a text or built from accepted parts is what its written form is read as. -/
theorem ofText?_text {tag : Tag} (built : Built tag) : ofText? tag.text = .ok tag :=
  ofText?_text_of_regular (regular_of_built built)

/-- A key with bars and a colon at its end, and a fallback that holds every mark of the notation. -/
def crowdedTag : Tag := ⟨"a||b:", some "\x7d||:=$\x7bx".toList, some "words".toList⟩

theorem ofText?_text_crowdedTag :
    Built crowdedTag
      ∧ crowdedTag.text = "$\x7ba||b::=\x7d||:=$\x7bx\x7d||words"
      ∧ ofText? crowdedTag.text = .ok crowdedTag := by
  have accepted : ofKey? "a||b:" = .ok ⟨"a||b:", none, none⟩ := rfl
  have named : (⟨"a||b:", some "\x7d||:=$\x7bx".toList, none⟩ : Tag).withSplitter? " words\t"
      = .ok crowdedTag := rfl
  have built : Built crowdedTag := ((Built.key accepted).fallback _).splitter named
  exact ⟨built, by decide, ofText?_text built⟩

end TypedConfig.Tag
