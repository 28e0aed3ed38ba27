import TypedConfig.Proofs.Binder.Basic
import TypedConfig.Proofs.Shape.Parts
import TypedConfig.Proofs.Source.Mirror
import TypedConfig.Proofs.Text.Cut

/-!
# Binding is local

Binding at two places that look alike gives the same value, or errors of the same category and path.
What stands elsewhere in the sources is never looked at, and the keys of the places do not matter.

* `bindLeaf_agree`, `elementSource_agree`, `bindSequence_agree`, `bindMapping_agree`,
  `bindOptional_agree`, `bindFields_agree`: one lemma for each kind of shape, given that binding the
  parts agrees at places inside.
* `bindAt_agree`: all levels together, by induction on the depth.
-/

namespace TypedConfig.Binder

open Outcome (Agree)
open Source (Mirrored)

variable {binder : Binder} {family : Family} {first second : Source} {left right path : Text}
  {tag : Tag} {rules : List Rule}

/-! ### Rules -/

theorem checkRule_agree (value : Value) (rule : Rule) :
    Agree Eq (.ofExcept (binder.checkRule ⟨left, path, tag, rules⟩ value rule))
      (.ofExcept (binder.checkRule ⟨right, path, tag, rules⟩ value rule)) := by
  unfold checkRule
  cases binder.registry.validators.get? rule.name with
  | none => exact .failed ⟨rfl, rfl⟩
  | some validator =>
    dsimp only
    cases validator rule.content value with
    | ok accepted =>
      cases accepted with
      | true => exact .done rfl
      | false => exact .failed ⟨rfl, rfl⟩
    | error cause => exact .failed ⟨rfl, rfl⟩

theorem checkRules_agree (value : Value) (checked : List Rule) :
    Agree Eq (.ofExcept (binder.checkRules ⟨left, path, tag, rules⟩ value checked))
      (.ofExcept (binder.checkRules ⟨right, path, tag, rules⟩ value checked)) := by
  induction checked with
  | nil => exact .done rfl
  | cons rule checked ih =>
    have here : Agree Eq (.ofExcept (binder.checkRule ⟨left, path, tag, rules⟩ value rule))
      (.ofExcept (binder.checkRule ⟨right, path, tag, rules⟩ value rule)) :=
      checkRule_agree value rule
    unfold checkRules
    rcases here.exists_of_ofExcept with ⟨_, _, passed, passed', -⟩ | ⟨_, _, failed, failed', same⟩
    · rw [passed, passed']
      exact ih
    · rw [failed, failed']
      exact .failed same

theorem validated_agree (value : Value) :
    Agree Eq (.ofExcept (binder.validated ⟨left, path, tag, rules⟩ value))
      (.ofExcept (binder.validated ⟨right, path, tag, rules⟩ value)) := by
  have checked : Agree Eq (.ofExcept (binder.checkRules ⟨left, path, tag, rules⟩ value rules))
      (.ofExcept (binder.checkRules ⟨right, path, tag, rules⟩ value rules)) :=
    checkRules_agree value rules
  unfold validated
  rcases checked.exists_of_ofExcept with ⟨_, _, passed, passed', -⟩ | ⟨_, _, failed, failed', same⟩
  · rw [passed, passed']
    exact .done rfl
  · rw [failed, failed']
    exact .failed same

theorem finished_agree (value : Value) :
    Agree Eq (.ofExcept (binder.finished ⟨left, path, tag, rules⟩ value))
      (.ofExcept (binder.finished ⟨right, path, tag, rules⟩ value)) := by
  unfold finished
  by_cases checks : binder.check.checksContainer
  · rw [if_pos checks, if_pos checks]
    exact validated_agree value
  · rw [if_neg checks, if_neg checks]
    exact .done rfl

/-! ### Leaves -/

/-- The fallback of a tag holds no placeholder. -/
def LiteralFallback (tag : Tag) : Prop := ∀ text ∈ tag.fallback, ¬ Placeholder.occursIn text

theorem resolve_agree (mirrored : Mirrored first second left right)
    (literal : LiteralFallback tag) :
    Agree Eq (.ofExcept (Placeholder.resolve first ⟨left, path, tag, rules⟩))
      (.ofExcept (Placeholder.resolve second ⟨right, path, tag, rules⟩)) := by
  unfold Placeholder.resolve Placeholder.lookUp
  dsimp only
  rw [mirrored.get?, mirrored.has]
  cases found : (second.get? right).filter fun value => !value.isEmpty with
  | some text =>
    obtain ⟨stored, -⟩ := Option.filter_eq_some_iff.1 found
    have plain := mirrored.literal_of_get? (mirrored.get?.trans stored)
    dsimp only
    rw [Placeholder.expand_of_not_has _ _ plain, Placeholder.expand_of_not_has _ _ plain]
    exact .done rfl
  | none =>
    cases given : tag.fallback with
    | some text =>
      have plain := literal text given
      dsimp only
      rw [Placeholder.expand_of_not_has _ _ plain, Placeholder.expand_of_not_has _ _ plain]
      exact .done rfl
    | none =>
      by_cases present : second.has right
      · dsimp only
        rw [if_pos present, if_pos present]
        exact .done rfl
      · dsimp only
        rw [if_neg present, if_neg present]
        exact .failed ⟨rfl, rfl⟩

theorem bindLeaf_agree (mirrored : Mirrored first second left right)
    (literal : LiteralFallback tag) (shape : Shape) :
    Agree Eq (.ofExcept (binder.bindLeaf first shape ⟨left, path, tag, rules⟩))
      (.ofExcept (binder.bindLeaf second shape ⟨right, path, tag, rules⟩)) := by
  have resolved : Agree Eq (.ofExcept (Placeholder.resolve first ⟨left, path, tag, rules⟩))
      (.ofExcept (Placeholder.resolve second ⟨right, path, tag, rules⟩)) :=
    resolve_agree mirrored literal
  unfold bindLeaf
  rcases resolved.exists_of_ofExcept with
    ⟨text, _, read, read', rfl⟩ | ⟨_, _, failed, failed', same⟩
  · rw [read, read']
    cases binder.conversion? shape with
    | none => exact .failed ⟨rfl, rfl⟩
    | some convert =>
      cases converted : convert text with
      | error cause =>
        simp only [converted]
        exact .failed ⟨rfl, rfl⟩
      | ok value =>
        simp only [converted]
        exact validated_agree value
  · rw [failed, failed']
    exact .failed (same.atPath path)

/-! ### Sequences -/

/-- The splitters of a binder give no part with a placeholder. -/
def SplitsLiterally (binder : Binder) : Prop :=
  ∀ name splitter, binder.registry.splitters.get? name = some splitter →
    ∀ text parts, splitter text = .ok parts → ∀ part ∈ parts, ¬ Placeholder.occursIn part

theorem sequenceText_agree (mirrored : Mirrored first second left right)
    (literal : LiteralFallback tag) (element : Shape) :
    Agree (fun text other => text = other ∧ ¬ Placeholder.occursIn text)
      (.ofExcept (binder.sequenceText first element ⟨left, path, tag, rules⟩))
      (.ofExcept (binder.sequenceText second element ⟨right, path, tag, rules⟩)) := by
  have nothing : ¬ Placeholder.occursIn [] := by decide
  unfold sequenceText
  rw [mirrored.has, mirrored.get?]
  by_cases present : second.has right
  · rw [if_pos present, if_pos present]
    refine .done ⟨rfl, ?_⟩
    show ¬ Placeholder.occursIn ((second.get? right).getD [])
    cases stored : second.get? right with
    | none => exact nothing
    | some text => exact mirrored.literal_of_get? (mirrored.get?.trans stored)
  · rw [if_neg present, if_neg present]
    cases given : tag.fallback with
    | none => exact .failed ⟨rfl, rfl⟩
    | some text =>
      by_cases empty : text = []
      · simp only [if_pos empty]
        exact .done ⟨rfl, nothing⟩
      · simp only [if_neg empty]
        by_cases simple : (element.isScalar
            || (binder.registry.converters.get? element.typeName).isSome) = true
        · rw [if_pos simple, if_pos simple]
          exact .done ⟨rfl, literal text given⟩
        · rw [if_neg simple, if_neg simple]
          exact .failed ⟨rfl, rfl⟩

theorem sequenceParts_agree (splits : binder.SplitsLiterally) {text : Text}
    (plain : ¬ Placeholder.occursIn text) :
    Agree (fun parts others => parts = others ∧ ∀ part ∈ parts, ¬ Placeholder.occursIn part)
      (.ofExcept (binder.sequenceParts ⟨left, path, tag, rules⟩ text))
      (.ofExcept (binder.sequenceParts ⟨right, path, tag, rules⟩ text)) := by
  unfold sequenceParts
  cases tag.splitter with
  | none =>
    refine .done ⟨rfl, fun part mem => ?_⟩
    obtain ⟨piece, between, rfl⟩ := List.mem_map.1 mem
    have inside := (Text.isInfix_trimOf Text.isBlank piece).trans
      (Text.isInfix_of_mem_splitOn between)
    intro held
    exact plain (Text.has_iff_isInfix.2 ((Text.has_iff_isInfix.1 held).trans inside))
  | some name =>
    cases found : binder.registry.splitters.get? name with
    | none => simp only [found]; exact .failed ⟨rfl, rfl⟩
    | some splitter =>
      simp only [found]
      cases divided : splitter text with
      | error cause => exact .failed ⟨rfl, rfl⟩
      | ok parts => exact .done ⟨rfl, splits name splitter found text parts divided⟩

theorem elementSource_agree (splits : binder.SplitsLiterally)
    (mirrored : Mirrored first second left right) (literal : LiteralFallback tag)
    (element : Shape) :
    Agree (Option.Rel fun view other => Mirrored view other left right)
      (.ofExcept (binder.elementSource first element ⟨left, path, tag, rules⟩))
      (.ofExcept (binder.elementSource second element ⟨right, path, tag, rules⟩)) := by
  have read : Agree (fun text other => text = other ∧ ¬ Placeholder.occursIn text)
      (.ofExcept (binder.sequenceText first element ⟨left, path, tag, rules⟩))
      (.ofExcept (binder.sequenceText second element ⟨right, path, tag, rules⟩)) :=
    sequenceText_agree mirrored literal element
  unfold elementSource
  dsimp only
  rw [(mirrored.element 0).has]
  by_cases present : second.has (Key.element right 0)
  · rw [if_pos present, if_pos present]
    exact .done (.some mirrored)
  rw [if_neg present, if_neg present]
  rcases read.exists_of_ofExcept with
    ⟨text, _, here, here', rfl, plain⟩ | ⟨_, _, failed, failed', same⟩
  · rw [here, here']
    by_cases empty : text = []
    · simp only [if_pos empty]
      exact .done .none
    simp only [if_neg empty]
    have divided : Agree
        (fun parts others => parts = others ∧ ∀ part ∈ parts, ¬ Placeholder.occursIn part)
        (.ofExcept (binder.sequenceParts ⟨left, path, tag, rules⟩ text))
        (.ofExcept (binder.sequenceParts ⟨right, path, tag, rules⟩ text)) :=
      sequenceParts_agree splits plain
    rcases divided.exists_of_ofExcept with
      ⟨parts, _, given, given', rfl, literals⟩ | ⟨_, _, failed, failed', same⟩
    · rw [given, given']
      rcases (mirrored.overlay literals).exists_of_ofExcept with
        ⟨top, other, written, written', matched⟩ | ⟨_, _, failed, failed', same⟩
      · simp only [written, written']
        exact .done (.some matched)
      · simp only [failed, failed']
        exact .failed (same.atPath path)
    · rw [failed, failed']
      exact .failed same
  · rw [failed, failed']
    exact .failed same

/-! ### Containers -/

/-- Binding a part agrees at all places that look alike, whatever the path and the rules are. -/
def AgreesInside (bind other : BindPart) (shape : Shape) : Prop :=
  ∀ ⦃first second : Source⦄ ⦃left right : Text⦄ (path : Text) (tag : Tag) (rules : List Rule),
    Mirrored first second left right → LiteralFallback tag →
      Agree Eq (bind first shape ⟨left, path, tag, rules⟩)
        (other second shape ⟨right, path, tag, rules⟩)

theorem literalFallback_empty : LiteralFallback Tag.empty := by
  intro text given
  cases given

variable {bind other : BindPart}

theorem bindSequence_agree (splits : binder.SplitsLiterally)
    (mirrored : Mirrored first second left right) (literal : LiteralFallback tag) {element : Shape}
    (inside : AgreesInside bind other element) :
    Agree Eq (binder.bindSequence bind family first element ⟨left, path, tag, rules⟩)
      (binder.bindSequence other family second element ⟨right, path, tag, rules⟩) := by
  unfold bindSequence
  refine (elementSource_agree splits mirrored literal _).bind fun view view' alike => ?_
  cases alike with
  | none => exact finished_agree _
  | some matched =>
    rename_i view view'
    have indices : indices view left = indices view' right :=
      indices_congr fun index => (matched.element index).has
    show Agree Eq ((Binder.indices view left).mapM _ >>= _)
      ((Binder.indices view' right).mapM _ >>= _)
    rw [indices]
    refine (Agree.mapM fun index _ => ?_).bind fun items items' same => ?_
    · unfold elementTarget
      split
      · exact inside _ _ _ (matched.element index) literalFallback_empty
      · exact inside _ _ _ (matched.element index) literalFallback_empty
    · subst same
      exact finished_agree _

theorem memberNames_agree (mirrored : Mirrored first second left right) :
    Agree Eq (.ofExcept (memberNames first ⟨left, path, tag, rules⟩))
      (.ofExcept (memberNames second ⟨right, path, tag, rules⟩)) := by
  unfold memberNames
  dsimp only
  by_cases given : tag.fallback.any (· != []) = true
  · rw [if_pos given, if_pos given]
    exact .failed ⟨rfl, rfl⟩
  · rw [if_neg given, if_neg given]
    rcases mirrored.members? with ⟨names, listed, listed'⟩ | ⟨conflict, conflict'⟩
    · rw [listed, listed']
      exact .done rfl
    · rw [conflict, conflict']
      exact .failed ⟨rfl, rfl⟩

theorem bindMapping_agree (mirrored : Mirrored first second left right) {member : Shape}
    (inside : AgreesInside bind other member) :
    Agree Eq (binder.bindMapping bind first member ⟨left, path, tag, rules⟩)
      (binder.bindMapping other second member ⟨right, path, tag, rules⟩) := by
  unfold bindMapping
  refine (memberNames_agree mirrored).bind fun names others same => ?_
  subst same
  refine (Agree.mapM fun name _ => ?_).bind fun members others same => ?_
  · have here : Agree Eq
        (bind first member (binder.elementTarget ⟨left, path, tag, rules⟩
          (Target.child ⟨left, path, tag, rules⟩ name)))
        (other second member (binder.elementTarget ⟨right, path, tag, rules⟩
          (Target.child ⟨right, path, tag, rules⟩ name))) := by
      unfold elementTarget
      split
      · exact inside _ _ _ (mirrored.child name) literalFallback_empty
      · exact inside _ _ _ (mirrored.child name) literalFallback_empty
    refine here.bind fun value value' same => ?_
    subst same
    exact .done rfl
  · subst same
    exact finished_agree _

theorem bindOptional_agree (mirrored : Mirrored first second left right)
    (literal : LiteralFallback tag) {inner : Shape} (inside : AgreesInside bind other inner) :
    Agree Eq (bindOptional bind first inner ⟨left, path, tag, rules⟩)
      (bindOptional other second inner ⟨right, path, tag, rules⟩) := by
  have here := inside path tag rules mirrored literal
  unfold bindOptional
  generalize bind first inner ⟨left, path, tag, rules⟩ = outcome at here ⊢
  generalize other second inner ⟨right, path, tag, rules⟩ = outcome' at here ⊢
  cases here with
  | done same => exact .done same
  | exhausted => exact .exhausted
  | @failed error error' same =>
    dsimp only
    rw [mirrored.has, same.isNotExist]
    split
    · exact .done rfl
    · exact .failed same

/-! ### Composites -/

/-- The fallback of the tag of a field holds no placeholder. -/
def LiteralField (field : Field Shape) : Prop :=
  ∀ text tag, field.binding = .tagged text → Tag.ofText? text = .ok tag → LiteralFallback tag

/-- Binding embedded fields agrees at all places that look alike. -/
def AgreesEmbedded (embed other : Source → List (Field Shape) → Target → Outcome Value)
    (fields : List (Field Shape)) : Prop :=
  ∀ ⦃first second : Source⦄ ⦃left right : Text⦄ (path : Text) (tag : Tag) (rules : List Rule),
    Mirrored first second left right →
      Agree Eq (embed first fields ⟨left, path, tag, rules⟩)
        (other second fields ⟨right, path, tag, rules⟩)

/-- A tag of a field leads to places that look alike. -/
theorem exists_inward_joinKeys (mirrored : Mirrored first second left right) (inner : Text) :
    ∃ rest, Key.Inward rest ∧ Target.joinKeys left inner = left ++ rest
      ∧ Target.joinKeys right inner = right ++ rest := by
  unfold Target.joinKeys
  rw [if_neg mirrored.insideLeft, if_neg mirrored.insideRight]
  by_cases here : inner = []
  · exact ⟨[], Key.inward_nil, by simp [here], by simp [here]⟩
  · exact ⟨'.' :: inner, Key.inward_cons.2 (.inl rfl), by simp [here], by simp [here]⟩

variable {embed embed' : Source → List (Field Shape) → Target → Outcome Value}

theorem bindField_agree (mirrored : Mirrored first second left right) {field : Field Shape}
    (literal : LiteralField field) (inside : AgreesInside bind other field.shape)
    (embedded : ∀ type fields, field.shape.resolve family = .composite type fields →
      AgreesEmbedded embed embed' fields) :
    Agree Eq (bindField bind embed family first ⟨left, path, tag, rules⟩ field)
      (bindField other embed' family second ⟨right, path, tag, rules⟩ field) := by
  unfold bindField
  cases binding : field.binding with
  | tagged text =>
    dsimp only
    unfold Target.applyTag?
    cases read : Tag.ofText? text with
    | error fault => exact .failed (PropertyError.SameFault.atPath ⟨rfl, rfl⟩ _)
    | ok named =>
      obtain ⟨rest, inward, inLeft, inRight⟩ :=
        exists_inward_joinKeys mirrored (Target.effectiveKey named.key)
      have place := mirrored.descend inward
      rw [← inLeft, ← inRight] at place
      exact inside _ _ _ place (literal text named binding read)
  | embedded =>
    dsimp only
    cases resolved : field.shape.resolve family with
    | composite type fields => exact embedded type fields resolved _ _ _ mirrored
    | scalar | custom | sequence | mapping | optional | named => exact .failed ⟨rfl, rfl⟩
  | nested => exact inside _ _ _ (mirrored.child field.name) literalFallback_empty

theorem bindFields_agree (mirrored : Mirrored first second left right)
    {fields : List (Field Shape)} (literal : ∀ field ∈ fields, LiteralField field)
    (inside : ∀ field ∈ fields, AgreesInside bind other field.shape)
    (embedded : ∀ field ∈ fields, ∀ type inner, field.shape.resolve family = .composite type inner →
      AgreesEmbedded embed embed' inner) :
    Agree Eq (bindFields bind embed family first fields ⟨left, path, tag, rules⟩)
      (bindFields other embed' family second fields ⟨right, path, tag, rules⟩) := by
  unfold bindFields
  dsimp only
  by_cases given : tag.fallback.any (· != []) = true
  · rw [if_pos given, if_pos given]
    exact .failed ⟨rfl, rfl⟩
  rw [if_neg given, if_neg given]
  refine (Agree.mapM fun field mem => ?_).bind fun members others same => ?_
  · have here : Agree Eq (bindField bind embed family first ⟨left, path, tag, rules⟩ field)
        (bindField other embed' family second ⟨right, path, tag, rules⟩ field) :=
      bindField_agree mirrored (literal field mem) (inside field mem) (embedded field mem)
    refine here.bind fun value value' same => ?_
    subst same
    exact .done rfl
  · subst same
    exact .done rfl

/-! ### Every level -/

/-- The fallbacks in the tags of the shapes that a shape leads to hold no placeholder. -/
def LiteralTags (family : Family) (root : Shape) : Prop :=
  ∀ shape, family.Reaches root shape →
    ∀ type fields, shape.resolve family = .composite type fields →
    ∀ field ∈ fields, LiteralField field

/-- **Binding agrees at places that look alike, to every depth.** The induction on the depth goes
over shapes and embedded fields together; each kind of shape has its lemma above. -/
theorem bindAt_agree (splits : binder.SplitsLiterally) {root : Shape}
    (literal : LiteralTags family root) (depth : Nat) :
    (∀ shape, family.Reaches root shape →
      AgreesInside (binder.bindAt family depth) (binder.bindAt family depth) shape)
    ∧ ∀ shape, family.Reaches root shape → ∀ type fields,
      shape.resolve family = .composite type fields →
        AgreesEmbedded (binder.bindCompositeAt family depth) (binder.bindCompositeAt family depth)
          fields := by
  induction depth with
  | zero => exact ⟨fun _ _ _ _ _ _ _ _ _ _ _ => .exhausted,
      fun _ _ _ _ _ _ _ _ _ _ _ _ _ => .exhausted⟩
  | succ depth ih =>
    obtain ⟨parts, embedded⟩ := ih
    constructor
    · intro shape reached first second left right path tag rules mirrored plain
      rw [bindAt, bindAt]
      cases resolved : shape.resolve family with
      | mapping type member =>
        exact bindMapping_agree mirrored (parts member (reached.mapping resolved))
      | sequence type element =>
        exact bindSequence_agree splits mirrored plain (parts element (reached.sequence resolved))
      | optional type inner =>
        exact bindOptional_agree mirrored plain (parts inner (reached.optional resolved))
      | composite type fields =>
        dsimp only
        split
        · exact bindLeaf_agree mirrored plain _
        · exact embedded shape reached type fields resolved path tag rules mirrored
      | scalar | custom | named => exact bindLeaf_agree mirrored plain _
    · intro shape reached type fields resolved first second left right path tag rules mirrored
      rw [bindCompositeAt, bindCompositeAt]
      exact bindFields_agree mirrored (literal shape reached type fields resolved)
        (fun field mem => parts _ (reached.field resolved mem))
        fun field mem => embedded _ (reached.field resolved mem)

end TypedConfig.Binder
