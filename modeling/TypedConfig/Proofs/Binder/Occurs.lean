import TypedConfig.Proofs.Binder.Congruence
import TypedConfig.Proofs.Shape.Parts
import TypedConfig.Proofs.Source.Mirror
import TypedConfig.Proofs.Source.Veiled

/-!
# Texts that binding comes across

Binding reads the texts that are stored and the fallbacks in the tags of fields, and it divides such
texts into parts, which it lays over the source. If none of them mentions a hidden key, what is
hidden does not show in what is bound at other places.

* `Occurs`: the texts that binding the elements of a sequence may come across.
* `Occurs.not_mentions`: none of them mentions a key when those that binding is given do not, and no
  splitter of a tag makes a text that does.
* `Placed`, `Veils`: bindings at places of a kind, over sources that differ at hidden keys only.
* `congruence_placed`: at places where nothing is hidden, such sources cannot be told apart if no
  text that binding comes across mentions a hidden key.
-/

namespace TypedConfig.Binder

open Key (Within isBelow element)
open Placeholder (Mentions)
open Source (Veiled)

variable {binder : Binder} {family : Family} {store : Store} {text : Text} {parts : List Text}
  {hidden texts : Text → Prop} {shape item : Shape} {target : Target} {tag : Tag}

/-- A tag of a field of a shape, or of a field further inside. -/
def FieldTag (family : Family) (root : Shape) (tag : Tag) : Prop :=
  ∃ shape type fields, family.Reaches root shape ∧ shape.resolve family = .composite type fields
    ∧ ∃ field ∈ fields, ∃ text, field.binding = .tagged text ∧ Tag.ofText? text = .ok tag

/-- The texts that binding the elements of a sequence may come across: what is stored, the parts, the
fallbacks in the tags of the elements' shape, and the parts into which such a text is divided again,
at commas or by a splitter of such a tag. -/
inductive Occurs (binder : Binder) (family : Family) (store : Store) (item : Shape)
    (parts : List Text) : Text → Prop
  | stored {key text : Text} (found : store.get? key = some text) :
      Occurs binder family store item parts text
  | part {text : Text} (mem : text ∈ parts) : Occurs binder family store item parts text
  | fallback {tag : Tag} {text : Text} (tagged : FieldTag family item tag)
      (given : text ∈ tag.fallback) : Occurs binder family store item parts text
  | comma {text part : Text} (whole : Occurs binder family store item parts text)
      (mem : part ∈ (text.splitOn ',').map Text.trim) : Occurs binder family store item parts part
  | split {tag : Tag} {name text part : Text} {splitter : Splitter} {more : List Text}
      (whole : Occurs binder family store item parts text) (tagged : FieldTag family item tag)
      (given : tag.splitter = some name)
      (found : binder.registry.splitters.get? name = some splitter)
      (divided : splitter text = .ok more) (mem : part ∈ more) :
      Occurs binder family store item parts part

/-- The tags of the fields of all shapes that a shape may lead to. -/
def fieldTags (family : Family) (root : Shape) : List Tag :=
  (family.scope root).flatMap fun shape =>
    match shape.resolve family with
    | .composite _ fields => fields.filterMap fun field =>
      match field.binding with
      | .tagged text => (Tag.ofText? text).toOption
      | _ => none
    | _ => []

theorem FieldTag.mem_fieldTags (tagged : FieldTag family item tag) :
    tag ∈ fieldTags family item := by
  obtain ⟨shape, type, fields, reached, resolved, field, mem, text, binding, read⟩ := tagged
  refine List.mem_flatMap.2 ⟨shape, reached.mem_scope, ?_⟩
  simp only [resolved]
  refine List.mem_filterMap.2 ⟨field, mem, ?_⟩
  simp only [binding, read]
  rfl

/-- The texts that binding the elements of a sequence is given, before it divides any of them, have
a property: what is stored, the parts, and the fallbacks in the tags of the elements' shape. -/
structure GivenTexts (family : Family) (store : Store) (item : Shape) (parts : List Text)
    (holds : Text → Prop) : Prop where
  stored : ∀ key text, store.get? key = some text → holds text
  part : ∀ part ∈ parts, holds part
  fallback : ∀ tag, FieldTag family item tag → ∀ text ∈ tag.fallback, holds text

/-- **Only a splitter can make a placeholder.** If no given text mentions a key, and no splitter of
a tag gives a part that does for a text that does not, then the key is never mentioned. -/
theorem Occurs.not_mentions {key : Text} (occurs : Occurs binder family store item parts text)
    (given : GivenTexts family store item parts fun text => ¬ Mentions text key)
    (splits : ∀ tag name splitter, FieldTag family item tag → tag.splitter = some name →
      binder.registry.splitters.get? name = some splitter → ∀ text more, ¬ Mentions text key →
      splitter text = .ok more → ∀ part ∈ more, ¬ Mentions part key) :
    ¬ Mentions text key := by
  induction occurs with
  | stored found => exact given.stored _ _ found
  | part mem => exact given.part _ mem
  | fallback tagged fallback => exact given.fallback _ tagged _ fallback
  | comma _ mem ih =>
    -- between commas stand pieces of the text
    obtain ⟨piece, between, rfl⟩ := List.mem_map.1 mem
    have inside := (Text.isInfix_trimOf Text.isBlank piece).trans
      (Text.isInfix_of_mem_splitOn between)
    exact fun mentions => ih (mentions.of_isInfix inside)
  | split _ tagged named found divided mem ih =>
    exact splits _ _ _ tagged named found _ _ ih divided _ mem

/-- A tag brings in texts of a collection only: its fallback, and the parts into which it divides
such texts. -/
structure Brings (binder : Binder) (texts : Text → Prop) (tag : Tag) : Prop where
  fallback : ∀ text ∈ tag.fallback, texts text
  split : ∀ name splitter, tag.splitter = some name →
    binder.registry.splitters.get? name = some splitter → ∀ text more, texts text →
    splitter text = .ok more → ∀ part ∈ more, texts part

theorem brings_empty : Brings binder texts Tag.empty where
  fallback _ given := by cases given
  split _ _ given := by cases given

/-- The parts of a known text are known. -/
theorem Brings.sequenceParts (brings : Brings binder texts target.tag)
    (commas : ∀ text, texts text → ∀ part ∈ (text.splitOn ',').map Text.trim, texts part)
    (known : texts text) (divided : binder.sequenceParts target text = .ok parts) :
    ∀ part ∈ parts, texts part := by
  unfold Binder.sequenceParts at divided
  split at divided
  next =>
    cases divided
    exact commas text known
  next name given =>
    split at divided
    next => cases divided
    next splitter found =>
      cases outcome : splitter text with
      | error cause =>
        rw [outcome] at divided
        cases divided
      | ok more =>
        rw [outcome] at divided
        cases divided
        exact brings.split name splitter given found text _ known outcome

/-- The text of a sequence is known. -/
theorem known_of_sequenceText {source : Source}
    (known : ∀ text, source.get? target.key = some text → texts text)
    (brings : Brings binder texts target.tag)
    (read : binder.sequenceText source item target = .ok text) (filled : text ≠ []) :
    texts text := by
  unfold sequenceText at read
  split at read
  next =>
    cases read
    cases found : source.get? target.key with
    | none =>
      rw [found] at filled
      exact absurd rfl filled
    | some value => exact known value found
  next =>
    split at read
    next => cases read
    next fallback given =>
      split_ifs at read
      · cases read
        exact absurd rfl filled
      · cases read
        exact brings.fallback _ given

/-! ### Places where nothing is hidden -/

/-- Binding a shape of the elements, over related sources, at a place of a kind. -/
structure Placed (binder : Binder) (family : Family) (item : Shape) (place texts : Text → Prop)
    (related : Source → Source → Prop) (first second : Source) (shape : Shape) (target : Target) :
    Prop where
  reached : family.Reaches item shape
  related : related first second
  placed : place target.key
  brings : Brings binder texts target.tag

/-- Related sources differ at hidden keys only, and stay related below a store whose texts are known.
The places of a kind are not hidden, and what is inside such a place is one of them. -/
structure Veils (hidden place texts : Text → Prop) (related : Source → Source → Prop) : Prop where
  veiled {first second : Source} : related first second → Veiled hidden texts first second
  overlay {first second : Source} {top : Store} : related first second →
    (∀ key text, top.get? key = some text → texts text) →
    related (.overlay top first) (.overlay top second)
  nonempty {key : Text} : place key → key ≠ []
  shown {key : Text} : place key → ¬ hidden key
  within {key inner : Text} : place key → Within key inner → place inner

theorem within_joinKeys {outer : Text} (nonempty : outer ≠ []) (inner : Text) :
    Within outer (Target.joinKeys outer inner) := by
  unfold Target.joinKeys
  rw [if_neg nonempty]
  split
  · exact .refl outer
  · exact .of_isBelow (Key.isBelow_iff.2 ⟨'.', inner, .inl rfl, rfl⟩)

section

variable {place : Text → Prop} {related : Source → Source → Prop} {first second : Source}

theorem Placed.descend (veils : Veils hidden place texts related)
    (placed : Placed binder family item place texts related first second shape target)
    {view other : Source} {part : Shape} {inner : Target} (reached : family.Reaches item part)
    (here : related view other) (further : isBelow target.key inner.key)
    (untagged : inner.tag = Tag.empty) :
    Placed binder family item place texts related view other part inner where
  reached := reached
  related := here
  placed := veils.within placed.placed (.of_isBelow further)
  brings := untagged ▸ brings_empty

/-- **Where nothing is hidden, sources that differ at hidden keys cannot be told apart** by binding,
if no text that it comes across mentions a hidden key. -/
theorem congruence_placed (veils : Veils hidden place texts related)
    (unmentioned : ∀ text, texts text → ∀ key, hidden key → ¬ Mentions text key)
    (commas : ∀ text, texts text → ∀ part ∈ (text.splitOn ',').map Text.trim, texts part)
    (tags : ∀ tag, FieldTag family item tag → Brings binder texts tag) :
    Congruence binder family (Placed binder family item place texts related) where
  resolve placed := (veils.veiled placed.related).resolve unmentioned (veils.shown placed.placed)
    fun text given => unmentioned text (placed.brings.fallback text given)
  has placed := (veils.veiled placed.related).has _ (veils.shown placed.placed)
  members? placed _ := (veils.veiled placed.related).members? (veils.nonempty placed.placed)
    fun _ within => veils.shown (veils.within placed.placed within)
  member {first second shape target type member} placed resolved name := by
    obtain ⟨key, tag⟩ := binder.elementTarget_place target (target.child name)
    exact placed.descend veils (placed.reached.mapping resolved) placed.related
      (key ▸ Key.isBelow_child (veils.nonempty placed.placed) name) tag
  elements {first second shape target type element} placed resolved := by
    have reached := placed.reached.sequence resolved
    have veiled := veils.veiled placed.related
    have inside (index : Nat) : Within target.key (Key.element target.key index) :=
      .of_isBelow (Key.isBelow_element target.key index)
    have shown (index : Nat) := veils.shown (veils.within placed.placed (inside index))
    have found := @elementsFound binder _ _ _ _ placed.related
      (veiled.get? _ (veils.shown placed.placed)) (veiled.has _ (veils.shown placed.placed))
      (veiled.has _ (shown 0)) (element.resolve family)
      fun text parts top read filled divided written => by
        have known := known_of_sequenceText
          (fun text => veiled.known _ text (veils.shown placed.placed)) placed.brings read filled
        refine veils.overlay placed.related fun other value held => ?_
        obtain ⟨index, mem, -⟩ := (get?_of_ofList?_partEntries written).1 held
        exact placed.brings.sequenceParts commas known divided value (List.mem_of_getElem? mem)
    refine found.mono fun {view other} related index =>
      ⟨(veils.veiled related).has _ (shown index), ?_⟩
    obtain ⟨key, tag⟩ := binder.elementTarget_place target (target.element index)
    exact placed.descend veils reached related (key ▸ Key.isBelow_element target.key index) tag
  inner placed resolved :=
    ⟨placed.reached.optional resolved, placed.related, placed.placed, placed.brings⟩
  nested placed resolved field mem :=
    placed.descend veils (placed.reached.field resolved mem) placed.related
      (Key.isBelow_child (veils.nonempty placed.placed) field.name) rfl
  tagged {first second shape target type fields} placed resolved field mem text child binding
      applied := by
    rw [Target.applyTag?] at applied
    split at applied
    next tag read =>
      cases applied
      have brings := tags tag ⟨shape, type, fields, placed.reached, resolved, field, mem, text,
        binding, read⟩
      exact ⟨placed.reached.field resolved mem, placed.related,
        veils.within placed.placed (within_joinKeys (veils.nonempty placed.placed) _),
        brings.fallback, brings.split⟩
    next => cases applied
  embedded placed resolved field mem :=
    ⟨placed.reached.field resolved mem, placed.related, placed.placed, brings_empty⟩

end

end TypedConfig.Binder
