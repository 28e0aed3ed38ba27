import Mathlib.Data.List.Forall2
import Mathlib.Data.List.ReduceOption
import TypedConfig.Proofs.Text.Cut
import TypedConfig.Proofs.Text.Parts
import TypedConfig.Resource.Basic

/-!
# Texts of properties, line by line

A line of a text of properties is blank, a comment or a property with blanks around its key and its
value (`WritesLine`); any other line is stray (`IsStray`). What a line holds does not depend on
blanks at its ends, so a text is read alike whichever way its lines end.

* `ofText_append_cons`: the first separator of a line divides it, and both sides are trimmed.
* `exists_writesLine_or_isStray`: every line is written or stray.
* `setLines_append`: lines behind written ones are read into the store of the written properties.
* `ofLines?_join`: a text is read as the lines that it joins.
* `storeAs?_written`: a text of written lines is the store of their properties; of a stray line and
  a property that cannot be stored, the first stops the reading, and a stray line is told by its
  number.
-/

namespace TypedConfig

open Text

/-! ### Written lines -/

/-- Blanks that do not end a line. -/
def IsGap (text : Text) : Prop := ∀ char ∈ text, isBlank char ∧ char ≠ '\n'

instance (text : Text) : Decidable (IsGap text) :=
  decidable_of_iff (text.all fun char => isBlank char && char != '\n') (by simp [IsGap])

/-- A text within a line, without blanks at its ends. -/
@[mk_iff isBare_iff]
structure IsBare (text : Text) : Prop where
  front : ∀ char ∈ text.head?, ¬ isBlank char
  back : ∀ char ∈ text.getLast?, ¬ isBlank char
  unbroken : '\n' ∉ text

instance (text : Text) : Decidable (IsBare text) :=
  decidable_of_iff (!text.head?.any isBlank ∧ !text.getLast?.any isBlank ∧ '\n' ∉ text)
    (by simp [isBare_iff, Option.any_eq_false])

/-- A bare text that is read as a key: it has no separator and begins no comment. -/
@[mk_iff isBareKey_iff]
structure IsBareKey (text : Text) : Prop extends IsBare text where
  plain : ∀ char ∈ text, ¬ isSeparator char
  unmarked : ∀ char ∈ text.head?, ¬ isCommentMark char

instance (text : Text) : Decidable (IsBareKey text) :=
  decidable_of_iff (IsBare text ∧ !text.any isSeparator ∧ !text.head?.any isCommentMark)
    (by simp [isBareKey_iff, Option.any_eq_false])

/-- The lines that hold a property or none. -/
inductive WritesLine : Text → Option (Text × Text) → Prop
  | blank {line : Text} (gap : IsGap line) : WritesLine line none
  | comment {indent rest : Text} {mark : Char} (gap : IsGap indent) (marked : isCommentMark mark)
      (unbroken : '\n' ∉ rest) : WritesLine (indent ++ mark :: rest) none
  | property {indent key before after value behind : Text} {separator : Char}
      (gaps : ∀ gap ∈ [indent, before, after, behind], IsGap gap) (bareKey : IsBareKey key)
      (separates : isSeparator separator) (bareValue : IsBare value) :
      WritesLine (indent ++ key ++ before ++ separator :: (after ++ value ++ behind))
        (some (key, value))

/-- A line that is neither blank nor a comment and has no separator. -/
structure IsStray (line : Text) : Prop where
  filled : ¬ IsGap line
  unmarked : ∀ indent mark rest, line = indent ++ mark :: rest → IsGap indent → ¬ isCommentMark mark
  plain : ∀ char ∈ line, ¬ isSeparator char
  unbroken : '\n' ∉ line

theorem IsGap.blank {text : Text} (gap : IsGap text) : ∀ char ∈ text, isBlank char :=
  fun char mem => (gap char mem).1

theorem IsGap.unbroken {text : Text} (gap : IsGap text) : '\n' ∉ text :=
  fun mem => (gap _ mem).2 rfl

theorem isSeparator_iff {char : Char} : isSeparator char ↔ char = '=' ∨ char = ':' := by
  simp [isSeparator]

theorem isCommentMark_iff {char : Char} : isCommentMark char ↔ char = '#' ∨ char = '!' := by
  simp [isCommentMark]

theorem not_isBlank_of_isSeparator {char : Char} (separates : isSeparator char) :
    ¬ isBlank char := by
  rcases isSeparator_iff.1 separates with rfl | rfl <;> decide

theorem not_isCommentMark_of_isSeparator {char : Char} (separates : isSeparator char) :
    ¬ isCommentMark char := by
  rcases isSeparator_iff.1 separates with rfl | rfl <;> decide

theorem not_isBlank_of_isCommentMark {char : Char} (marked : isCommentMark char) :
    ¬ isBlank char := by
  rcases isCommentMark_iff.1 marked with rfl | rfl <;> decide

theorem WritesLine.unbroken {line : Text} {held : Option (Text × Text)}
    (written : WritesLine line held) : '\n' ∉ line := by
  cases written with
  | blank gap => exact gap.unbroken
  | comment gap marked unbroken =>
    have mark := not_isBlank_of_isCommentMark marked
    rw [List.mem_append, List.mem_cons, not_or, not_or]
    refine ⟨gap.unbroken, ?_, unbroken⟩
    rintro rfl
    exact mark (by decide)
  | property gaps bareKey separates bareValue =>
    have mark := not_isBlank_of_isSeparator separates
    simp only [List.mem_append, List.mem_cons, not_or]
    refine ⟨⟨⟨?_, bareKey.unbroken⟩, ?_⟩, ?_, ⟨?_, bareValue.unbroken⟩, ?_⟩
    case refine_3 =>
      rintro rfl
      exact mark (by decide)
    all_goals exact (gaps _ (by simp)).unbroken

namespace PropertyLine

/-! ### What a line holds -/

/-- The first separator divides what has no blanks at its ends. -/
theorem ofTrimmed_append_cons {front : Text} {separator : Char} (separates : isSeparator separator)
    (plain : ∀ char ∈ front, ¬ isSeparator char)
    (unmarked : ∀ char ∈ front.head?, ¬ isCommentMark char) (back : Text) :
    ofTrimmed (front ++ separator :: back) = .property (trim front) (trim back) := by
  have passed : ∀ char ∈ front, (!isSeparator char) = true := by simpa using plain
  have uncommented : ((front ++ separator :: back).isEmpty
      || (front ++ separator :: back).head?.any isCommentMark) = false := by
    cases front with
    | nil => simpa using not_isCommentMark_of_isSeparator separates
    | cons char front => simpa using unmarked char rfl
  rw [ofTrimmed, uncommented, List.dropWhile_append_of_pos passed,
    List.takeWhile_append_of_pos passed]
  simp [separates]

/-- **The first separator divides a line**, and both sides are trimmed. -/
theorem ofText_append_cons {front : Text} {separator : Char} (separates : isSeparator separator)
    (plain : ∀ char ∈ front, ¬ isSeparator char)
    (unmarked : ∀ char ∈ (front.dropWhile isBlank).head?, ¬ isCommentMark char) (back : Text) :
    ofText (front ++ separator :: back) = .property (trim front) (trim back) := by
  have kept := not_isBlank_of_isSeparator separates
  have inside : ∀ char ∈ front.dropWhile isBlank, ¬ isSeparator char :=
    fun char mem => plain char ((List.dropWhile_sublist _).subset mem)
  rw [ofText, trim, Text.trimOf_append_cons kept, ofTrimmed_append_cons separates inside unmarked,
    trim, Text.trimOf_dropWhile, trim, Text.trimOf_rdropWhile, trim, trim]

/-- What a line holds does not depend on blanks at its end. -/
theorem ofText_append_gap {gap : Text} (blank : ∀ char ∈ gap, isBlank char) (line : Text) :
    ofText (line ++ gap) = ofText line := by
  rw [ofText, trim, Text.trimOf_append_of_all blank, ofText, trim]

/-- What a written line holds. -/
def ofEntry : Option (Text × Text) → PropertyLine
  | none => .skipped
  | some (key, value) => .property key value

theorem ofText_of_comment {indent : Text} {mark : Char} (blank : ∀ char ∈ indent, isBlank char)
    (marked : isCommentMark mark) (rest : Text) : ofText (indent ++ mark :: rest) = .skipped := by
  rw [ofText, trim, Text.trimOf_append_cons (not_isBlank_of_isCommentMark marked),
    List.dropWhile_eq_nil_iff.2 blank, ofTrimmed]
  simp [marked]

/-- A written line holds what it writes. -/
theorem ofText_of_writesLine {line : Text} {held : Option (Text × Text)}
    (written : WritesLine line held) : ofText line = ofEntry held := by
  cases written with
  | blank gap =>
    rw [ofText, trim, Text.trimOf_of_all gap.blank]
    rfl
  | comment gap marked unbroken => exact ofText_of_comment gap.blank marked _
  | @property indent key before after value behind separator gaps bareKey separates bareValue =>
    simp only [List.forall_mem_cons] at gaps
    obtain ⟨gapIndent, gapBefore, gapAfter, gapBehind, -⟩ := gaps
    have unseparated {gap : Text} (blank : IsGap gap) : ∀ char ∈ gap, ¬ isSeparator char :=
      fun char mem separates => not_isBlank_of_isSeparator separates (blank.blank char mem)
    have plain' : ∀ char ∈ indent ++ key ++ before, ¬ isSeparator char := by
      rw [List.forall_mem_append, List.forall_mem_append]
      exact ⟨⟨unseparated gapIndent, bareKey.plain⟩, unseparated gapBefore⟩
    have start : ∀ char ∈ ((indent ++ key ++ before).dropWhile isBlank).head?,
        ¬ isCommentMark char := by
      rw [List.append_assoc, List.dropWhile_append_of_pos gapIndent.blank]
      cases key with
      | nil => simp [List.dropWhile_eq_nil_iff.2 gapBefore.blank]
      | cons char key =>
        rw [List.cons_append, List.dropWhile_cons_of_neg (bareKey.front char rfl)]
        exact bareKey.unmarked
    rw [ofText_append_cons separates plain' start, trim,
      Text.trimOf_surrounded gapIndent.blank gapBefore.blank bareKey.front bareKey.back, trim,
      Text.trimOf_surrounded gapAfter.blank gapBehind.blank bareValue.front bareValue.back]
    rfl

/-- A stray line is malformed. -/
theorem ofText_of_isStray {line : Text} (stray : IsStray line) : ofText line = .malformed := by
  obtain ⟨front, back, whole, blankFront, blankBack⟩ := exists_trimOf isBlank line
  have inside : ∀ char ∈ trim line, char ∈ line :=
    fun char mem => (isInfix_trimOf isBlank line).subset mem
  have gap : IsGap front := fun char mem => by
    refine ⟨blankFront char mem, ?_⟩
    rintro rfl
    exact stray.unbroken (whole ▸ by simp [mem])
  have unmarked : ((trim line).isEmpty || (trim line).head?.any isCommentMark) = false := by
    cases trimmed : trim line with
    | nil =>
      rw [trim] at trimmed
      rw [trimmed, List.append_nil] at whole
      refine absurd (fun char mem => ⟨?_, fun same => stray.unbroken (same ▸ mem)⟩) stray.filled
      rw [whole, List.mem_append] at mem
      exact mem.elim (blankFront char) (blankBack char)
    | cons char rest =>
      rw [trim] at trimmed
      rw [trimmed, List.append_assoc, List.cons_append] at whole
      simpa using stray.unmarked front char _ whole gap
  have plain : (trim line).dropWhile (fun char => !isSeparator char) = [] := by
    rw [List.dropWhile_eq_nil_iff]
    intro char mem
    simpa using stray.plain char (inside char mem)
  rw [ofText, ofTrimmed, unmarked, plain]
  rfl

end PropertyLine

/-- What stands in a line is blanks around a bare text. -/
theorem exists_isBare {text : Text} (unbroken : '\n' ∉ text) :
    ∃ front bare back, text = front ++ bare ++ back ∧ IsGap front ∧ IsBare bare ∧ IsGap back := by
  obtain ⟨front, back, whole, blankFront, blankBack⟩ := exists_trimOf isBlank text
  have inside : ∀ part, part <:+: text → '\n' ∉ part := fun part piece mem =>
    unbroken (piece.subset mem)
  have gap : ∀ part, part <:+: text → (∀ char ∈ part, isBlank char) → IsGap part :=
    fun part piece blank char mem => ⟨blank char mem, fun same => inside part piece (same ▸ mem)⟩
  refine ⟨front, trimOf isBlank text, back, whole, gap front ?_ blankFront, ⟨?_, ?_, ?_⟩,
    gap back ?_ blankBack⟩
  · exact ⟨[], trimOf isBlank text ++ back, by rw [List.nil_append, ← List.append_assoc, ← whole]⟩
  · exact fun char mem => not_drop_of_mem_head?_trimOf mem
  · exact fun char mem => not_drop_of_mem_getLast?_trimOf mem
  · exact inside _ (isInfix_trimOf isBlank text)
  · exact ⟨front ++ trimOf isBlank text, [], by rw [List.append_nil, ← whole]⟩

/-- **Every line is written or stray.** -/
theorem exists_writesLine_or_isStray {line : Text} (unbroken : '\n' ∉ line) :
    (∃ held, WritesLine line held) ∨ IsStray line := by
  by_cases gap : IsGap line
  · exact .inl ⟨none, .blank gap⟩
  by_cases unmarked : ∀ indent mark rest, line = indent ++ mark :: rest → IsGap indent →
      ¬ isCommentMark mark
  · cases divided : line.find? isSeparator with
    | none => exact .inr ⟨gap, unmarked, by simpa using divided, unbroken⟩
    | some separator =>
      obtain ⟨separates, front, back, rfl, plain⟩ := List.find?_eq_some_iff_append.1 divided
      rw [List.mem_append, List.mem_cons, not_or, not_or] at unbroken
      obtain ⟨indent, key, before, rfl, gapIndent, bareKey, gapBefore⟩ := exists_isBare unbroken.1
      obtain ⟨after, value, behind, rfl, gapAfter, bareValue, gapBehind⟩ :=
        exists_isBare unbroken.2.2
      refine .inl ⟨some (key, value), .property (by simp [*]) ⟨bareKey, ?_, ?_⟩ separates bareValue⟩
      · intro char mem
        simpa using plain char (by simp [mem])
      · intro mark first
        obtain ⟨rest, rfl⟩ := List.head?_eq_some_iff.1 first
        exact unmarked indent mark _ (by rw [List.append_assoc, List.append_assoc]; rfl) gapIndent
  · push Not at unmarked
    obtain ⟨indent, mark, rest, rfl, gapIndent, marked⟩ := unmarked
    rw [List.mem_append, List.mem_cons, not_or, not_or] at unbroken
    exact .inl ⟨none, .comment gapIndent marked unbroken.2.2⟩

/-! ### Reading lines into a store -/

/-- **Lines behind written ones** are read into the store of the written properties, unless one of
these cannot be stored. -/
theorem setLines_append {front : List Text} {held : List (Option (Text × Text))}
    (written : List.Forall₂ WritesLine front held) (store : Store) (number : Nat)
    (more : List Text) :
    setLines store number (front ++ more) = match store.setAll held.reduceOption with
      | (store, none) => setLines store (number + front.length) more
      | (_, some error) => .error (.store error) := by
  induction written generalizing store number with
  | nil => rfl
  | @cons line entry front held here _ ih =>
    rw [List.cons_append, setLines, PropertyLine.ofText_of_writesLine here, List.length_cons,
      ← Nat.add_assoc, Nat.add_right_comm]
    cases entry with
    | none => exact ih store (number + 1)
    | some entry =>
      obtain ⟨key, value⟩ := entry
      rw [List.reduceOption_cons_of_some, Store.setAll]
      simp only [PropertyLine.ofEntry]
      cases store.set key value with
      | error error => rfl
      | ok store => exact ih store (number + 1)

/-- Lines that hold the same are read alike. -/
theorem setLines_congr {lines others : List Text}
    (alike : List.Forall₂ (fun line other => PropertyLine.ofText other = PropertyLine.ofText line)
      lines others) (store : Store) (number : Nat) :
    setLines store number others = setLines store number lines := by
  induction alike generalizing store number with
  | nil => rfl
  | cons same _ ih =>
    rw [setLines, setLines, same]
    simp only [ih]

/-- **A text is read as the lines that it joins**, whether their ends hold further blanks or not. -/
theorem ofLines?_join {lines : List Text} {ending : Text} (gap : IsGap ending)
    (unbroken : ∀ line ∈ lines, '\n' ∉ line) :
    Store.ofLines? (join (ending ++ ['\n']) lines) = setLines .empty 1 lines := by
  cases lines with
  | nil => rfl
  | cons line lines =>
    rw [Store.ofLines?, splitOn_join_ended (List.cons_ne_nil _ _) unbroken gap.unbroken]
    refine setLines_congr (List.Forall₂.imp ?_ (forall₂_ended ending _)) .empty 1
    rintro line found (rfl | rfl)
    · rfl
    · exact PropertyLine.ofText_append_gap gap.blank line

/-- **Texts of properties are read line by line.** A text of written lines is read as the list of
their properties. The first line that cannot be used decides the error: a property that cannot be
stored, or a stray line, which is told by its number. -/
theorem storeAs?_written {lines more : List Text} {held : List (Option (Text × Text))}
    {ending : Text} (name : Text) (written : List.Forall₂ WritesLine lines held)
    (ended : ending = ['\n'] ∨ ending = ['\r', '\n']) (unbroken : ∀ line ∈ more, '\n' ∉ line) :
    Resource.storeAs? ⟨name, join ending lines⟩ .properties
        = (Store.ofList? held.reduceOption).mapError (.store name)
      ∧ (∀ error, Store.ofList? held.reduceOption = .error error →
        Resource.storeAs? ⟨name, join ending (lines ++ more)⟩ .properties
          = .error (.store name error))
      ∧ ∀ store stray rest, Store.ofList? held.reduceOption = .ok store → more = stray :: rest →
        IsStray stray → Resource.storeAs? ⟨name, join ending (lines ++ more)⟩ .properties
          = .error (.malformedLine name (lines.length + 1)) := by
  obtain ⟨gap, isGap, rfl⟩ : ∃ gap, IsGap gap ∧ ending = gap ++ ['\n'] := by
    rcases ended with rfl | rfl
    · exact ⟨[], nofun, rfl⟩
    · exact ⟨['\r'], by decide, rfl⟩
  have front : ∀ line ∈ lines, '\n' ∉ line :=
    ((List.forall₂_and_left _ _).1 (written.imp fun _ _ here => ⟨here.unbroken, here⟩)).1
  have read (behind : List Text) (unbroken : ∀ line ∈ behind, '\n' ∉ line) :=
    (ofLines?_join isGap (List.forall_mem_append.2 ⟨front, unbroken⟩)).trans
      (setLines_append written .empty 1 behind)
  refine ⟨?_, fun error failed => ?_, ?_⟩
  · have whole := read [] nofun
    rw [List.append_nil] at whole
    rw [Resource.storeAs?, Store.ofList?]
    simp only [whole]
    obtain ⟨store, none | error⟩ := Store.empty.setAll held.reduceOption <;> rfl
  · rw [Resource.storeAs?]
    simp only [read more unbroken]
    rw [Store.ofList?] at failed
    generalize Store.empty.setAll held.reduceOption = outcome at failed
    obtain ⟨store, none | other⟩ := outcome
    · cases failed
    · cases failed
      rfl
  · rintro store stray rest stored rfl isStray
    rw [Resource.storeAs?]
    simp only [read _ unbroken]
    rw [Store.ofList?] at stored
    generalize Store.empty.setAll held.reduceOption = outcome at stored
    obtain ⟨reached, none | other⟩ := outcome
    · simp only [setLines, PropertyLine.ofText_of_isStray isStray]
      rw [Nat.add_comm]
    · cases stored

/-- A comment, a blank line and properties, written with both separators. -/
def portLines : List Text :=
  ["  # a = b", " \t", " server.port = 8080 ", "url:http://x?a=b", "key\t="]

/-- A property inside another one. -/
def nestedLines : List Text := ["a=1", "! b", "a.b : 2"]

/-- A line that is no property, in front of one that is. -/
def strayLines : List Text := ["stray", "a=1"]

theorem storeAs?_written_portLines :
    Resource.storeAs? ⟨"app", join ['\r', '\n'] portLines⟩ .properties
        = .ok (.ofTable [("key", ""), ("server.port", "8080"), ("url", "http://x?a=b")])
      ∧ Resource.storeAs? ⟨"app", join ['\n'] (portLines ++ strayLines)⟩ .properties
          = .error (.malformedLine "app" 6)
      ∧ Resource.storeAs? ⟨"app", join ['\n'] (nestedLines ++ strayLines)⟩ .properties
          = .error (.store "app" (.conflict "a.b" (.valueAbove "a"))) := by
  have ports : List.Forall₂ WritesLine portLines
      [none, none, some ("server.port", "8080"), some ("url", "http://x?a=b"), some ("key", "")] :=
    .cons (@WritesLine.comment "  " " a = b" '#' (by decide) rfl (by decide))
      (.cons (.blank (by decide))
      (.cons (@WritesLine.property " " "server.port" " " " " "8080" " " '=' (by decide)
        (by decide) rfl (by decide))
      (.cons (@WritesLine.property "" "url" "" "" "http://x?a=b" "" ':' (by decide)
        (by decide) rfl (by decide))
      (.cons (@WritesLine.property "" "key" "\t" "" "" "" '=' (by decide)
        (by decide) rfl (by decide)) .nil))))
  have nested : List.Forall₂ WritesLine nestedLines
      [some ("a", "1"), none, some ("a.b", "2")] :=
    .cons (@WritesLine.property "" "a" "" "" "1" "" '=' (by decide)
        (by decide) rfl (by decide))
      (.cons (@WritesLine.comment "" " b" '!' (by decide) rfl (by decide))
      (.cons (@WritesLine.property "" "a.b" " " " " "2" "" ':' (by decide)
        (by decide) rfl (by decide)) .nil))
  have unbroken : ∀ line ∈ strayLines, '\n' ∉ line := by decide
  have stray : IsStray "stray" := by
    have plain := List.any_eq_false.1 (show "stray".toList.any isSeparator = false by decide)
    have unmarked := List.any_eq_false.1 (show "stray".toList.any isCommentMark = false by decide)
    refine ⟨by decide, fun indent mark rest whole _ => unmarked mark ?_, plain, by decide⟩
    rw [whole]
    simp
  have stored : Store.ofList? [("server.port", "8080"), ("url", "http://x?a=b"), ("key", "")]
      = .ok (.ofTable [("key", ""), ("server.port", "8080"), ("url", "http://x?a=b")]) := rfl
  have refused : Store.ofList? [("a", "1"), ("a.b", "2")]
      = .error (.conflict "a.b" (.valueAbove "a")) := rfl
  refine ⟨?_, ?_, ?_⟩
  · exact (storeAs?_written "app" ports (.inr rfl) unbroken).1.trans
      (congrArg (Except.mapError (ResourceError.store "app")) stored)
  · exact (storeAs?_written "app" ports (.inl rfl) unbroken).2.2 _ _ _ stored rfl stray
  · exact (storeAs?_written "app" nested (.inl rfl) unbroken).2.1 _ refused

end TypedConfig
