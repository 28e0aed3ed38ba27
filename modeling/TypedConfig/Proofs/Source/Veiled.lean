import TypedConfig.Proofs.Placeholder.Nesting
import TypedConfig.Proofs.Source.View

/-!
# Sources that differ at hidden keys

Two sources have the same texts under all keys but some hidden ones, and the other keys are there in
both or in neither. Only a placeholder for a hidden key tells them apart, and only a target at a
hidden key.

* `Mentions`: a text holds a placeholder for a key somewhere, be it inside another one.
* `Veiled`: the two sources, with what the texts that they hold are known to be.
* `Veiled.members?`, `Veiled.overlay`: they list the same members where nothing is hidden, and stay
  veiled when a store is laid over both.
* `Veiled.expand`: texts that do not mention a hidden key have the same values or the same errors, by
  induction on the levels of look-ups.
-/

namespace TypedConfig

/-- The fallback in the body of a tag is a piece of it. -/
theorem Tag.isInfix_of_ofBody? {body fallback : Text} {tag : Tag} (read : ofBody? body = .ok tag)
    (given : fallback ∈ tag.fallback) : fallback <:+: body := by
  rw [ofBody?] at read
  split at read
  next key rest divided =>
    obtain ⟨bare, -, rfl⟩ := exists_of_map_eq_ok read
    cases given
    rw [Text.append_of_cut? divided]
    exact (List.suffix_append _ _).isInfix
  next =>
    rw [ofKey?] at read
    split_ifs at read
    cases read
    cases given

namespace Placeholder

/-! ### Texts that mention a key -/

/-- Somewhere in a text is a placeholder for a key: a piece of the text refers to it. -/
def Mentions (text key : Text) : Prop := ∃ piece, piece <:+: text ∧ Refers piece key

variable {text piece body rest after key : Text}

theorem Mentions.of_isInfix (mentions : Mentions piece key) (inside : piece <:+: text) :
    Mentions text key := by
  obtain ⟨inner, within, refers⟩ := mentions
  exact ⟨inner, within.trans inside, refers⟩

/-- A placeholder of a text is a piece of it. -/
theorem Shows.isInfix (shown : Shows text body) : span body <:+: text := by
  induction shown with
  | @here rest body after closed =>
    rw [append_of_takeBody closed, ← span_append]
    exact (List.prefix_append _ _).isInfix
  | @behind rest inner after body closed _ ih =>
    rw [append_of_takeBody closed, ← span_append]
    exact ih.trans (List.suffix_append _ _).isInfix
  | past _ _ ih => exact ih.trans (List.suffix_cons _ _).isInfix

/-- A text without a placeholder mentions no key. -/
theorem Mentions.has_opening (mentions : Mentions text key) : text.has Tag.opening := by
  obtain ⟨piece, inside, body, -, shown, -⟩ := mentions
  have opens : Tag.opening <:+: span body := ⟨[], body ++ ['}'], by simp [span]⟩
  exact Text.has_iff_isInfix.2 (opens.trans (shown.isInfix.trans inside))

/-- The fallback of a placeholder is a piece of it. -/
theorem isInfix_of_fallback {target : Target} {fallback : Text}
    (read : Target.ofTag? (span body) [] = .ok target) (given : fallback ∈ target.tag.fallback) :
    fallback <:+: span body := by
  rw [Target.ofTag?, Target.applyTag?, span, Tag.ofText?_span] at read
  cases parsed : Tag.ofBody? body with
  | error fault =>
    rw [parsed] at read
    cases read
  | ok tag =>
    rw [parsed] at read
    cases read
    exact (Tag.isInfix_of_ofBody? parsed given).trans ⟨Tag.opening, ['}'], rfl⟩

/-- A text is read alike when its placeholders are answered alike. -/
theorem expandWith_congr {refer other : Text → Except PropertyError Text} {whole : Text}
    (same : ∀ body, Shows text body → refer body = other body) :
    expandWith refer whole text = expandWith other whole text := by
  fun_induction expandWith refer whole text with
  | case1 => rw [expandWith]
  | case2 whole rest unclosed => rw [expandWith_of_unclosed unclosed]
  | case3 whole rest body after closed error answered =>
    rw [expandWith_of_closed closed, ← same body (.here closed), answered]
    rfl
  | case4 whole rest body after closed value answered _ ih =>
    rw [expandWith_of_closed closed, ← same body (.here closed), answered,
      ih fun inner shown => same inner (.behind closed shown)]
    cases expandWith other after after <;> rfl
  | case5 whole char rest still ih =>
    have quiet := not_opens_of still
    rw [expandWith_cons quiet, ih fun inner shown => same inner (.past quiet shown)]

theorem lookUp_congr {first second : Source} {expand other : Text → Except PropertyError Text}
    {target : Target} (text : first.get? target.key = second.get? target.key)
    (present : first.has target.key = second.has target.key)
    (stored : ∀ text, first.get? target.key = some text → expand text = other text)
    (fallback : ∀ text ∈ target.tag.fallback, expand text = other text) :
    lookUp first expand target = lookUp second other target := by
  unfold lookUp
  rw [← text, present]
  cases found : (first.get? target.key).filter fun value => !value.isEmpty with
  | some value => exact stored value (Option.filter_eq_some_iff.1 found).1
  | none =>
    cases given : target.tag.fallback with
    | some value => exact fallback value given
    | none => rfl

end Placeholder

namespace Source

open Placeholder (Mentions)

/-- The texts of a store over a source are those of both. -/
theorem known_overlay {texts : Text → Prop} {top : Store} {base : Source} {key text : Text}
    (above : ∀ text, top.get? key = some text → texts text)
    (below : ∀ text, base.get? key = some text → texts text)
    (found : (overlay top base).get? key = some text) : texts text := by
  rw [get?] at found
  cases here : top.get? key with
  | some value =>
    rw [here] at found
    cases found
    exact above text here
  | none =>
    rw [here] at found
    exact below text found

/-- Two sources hold the same texts, of a known collection, and have the same keys, but for hidden
ones. -/
structure Veiled (hidden texts : Text → Prop) (first second : Source) : Prop where
  get? : ∀ key, ¬ hidden key → first.get? key = second.get? key
  has : ∀ key, ¬ hidden key → first.has key = second.has key
  known : ∀ key text, ¬ hidden key → first.get? key = some text → texts text

namespace Veiled

variable {hidden texts : Text → Prop} {first second : Source} {key : Text} {target : Target}

/-- A key has the same members if nothing within it is hidden. -/
theorem members? (veiled : Veiled hidden texts first second) (inside : key ≠ [])
    (shown : ∀ inner, Key.Within key inner → ¬ hidden inner) :
    first.members? key = second.members? key := by
  refine members?_congr (veiled.get? key (shown key (.refl key))) fun inner => ?_
  rw [mem_keysBelow_iff inside, mem_keysBelow_iff inside]
  refine and_congr_left fun below => ?_
  rw [veiled.get? inner (shown inner (.of_isBelow below))]

/-- Sources stay veiled below a store whose texts are known. -/
theorem overlay (veiled : Veiled hidden texts first second) {top : Store}
    (known : ∀ key text, top.get? key = some text → texts text) :
    Veiled hidden texts (.overlay top first) (.overlay top second) where
  get? key shown := by rw [Source.get?, Source.get?, veiled.get? key shown]
  has key shown := by rw [Source.has, Source.has, veiled.has key shown]
  known key _ shown := known_overlay (known key) fun text => veiled.known key text shown

/-- **Texts that mention no hidden key have the same value**, or the same error, when none of the
known texts mentions one either. -/
theorem expand (veiled : Veiled hidden texts first second)
    (unmentioned : ∀ text, texts text → ∀ key, hidden key → ¬ Mentions text key) (levels : Nat)
    {text : Text} (silent : ∀ key, hidden key → ¬ Mentions text key) :
    Placeholder.expand first levels text = Placeholder.expand second levels text := by
  induction levels generalizing text with
  | zero =>
    rw [Placeholder.expand_eq, Placeholder.expand_eq]
    rfl
  | succ levels ih =>
    rw [Placeholder.expand_eq, Placeholder.expand_eq]
    refine Placeholder.expandWith_congr fun body placed => ?_
    rw [Placeholder.answer, Placeholder.answer]
    cases read : Target.ofTag? (Placeholder.span body) [] with
    | error error => rfl
    | ok target =>
      have shown : ¬ hidden target.key := fun veil =>
        silent _ veil ⟨text, List.infix_rfl, body, target, placed, read, rfl⟩
      refine Placeholder.lookUp_congr (veiled.get? _ shown) (veiled.has _ shown) ?_ ?_
      · exact fun value stored => ih (unmentioned value (veiled.known _ value shown stored))
      · intro fallback given
        refine ih fun key veil mentions => silent key veil (mentions.of_isInfix ?_)
        exact (Placeholder.isInfix_of_fallback read given).trans placed.isInfix

/-- Targets at keys that are not hidden have the same texts. -/
theorem resolve (veiled : Veiled hidden texts first second)
    (unmentioned : ∀ text, texts text → ∀ key, hidden key → ¬ Mentions text key)
    (shown : ¬ hidden target.key)
    (silent : ∀ text ∈ target.tag.fallback, ∀ key, hidden key → ¬ Mentions text key) :
    Placeholder.resolve first target = Placeholder.resolve second target :=
  Placeholder.lookUp_congr (veiled.get? _ shown) (veiled.has _ shown)
    (fun value stored =>
      veiled.expand unmentioned _ (unmentioned value (veiled.known _ value shown stored)))
    fun fallback given => veiled.expand unmentioned _ (silent fallback given)

end Veiled

end Source

end TypedConfig
