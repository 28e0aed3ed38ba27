import Mathlib
import TypedConfig.Proofs.Binder.Depth
import TypedConfig.Proofs.Binder.Local
import TypedConfig.Proofs.Binder.Occurs

/-!
# Binding can be relocated

What is configured below one key can be moved below another, in another store, and is bound there in
the same way.

* `guarded`: the binder whose splitters refuse to give parts with placeholders. Where that makes no
  difference to a binding, no splitter gives such a part in it.
* `SplitsLiterally.splitsQuietly`: it makes none when no splitter gives such a part for any text.
* `bind_relocated`: the law for stores, well-formed keys and all shapes.
-/

namespace TypedConfig.Binder

open Outcome (Agree)
open Source (Mirrored)

/-- A splitter that refuses to give parts with placeholders. -/
def guardedSplitter (refusal : Cause) (splitter : Splitter) : Splitter := fun text =>
  match splitter text with
  | .ok parts => if parts.any Placeholder.occursIn then .error refusal else .ok parts
  | .error cause => .error cause

/-- The binder whose splitters refuse to give parts with placeholders. -/
def guarded (binder : Binder) (refusal : Cause) : Binder :=
  { binder with registry := { binder.registry with
      splitters := binder.registry.splitters.map fun entry =>
        (entry.1, guardedSplitter refusal entry.2) } }

theorem splitsLiterally_guarded (binder : Binder) (refusal : Cause) :
    (binder.guarded refusal).SplitsLiterally := by
  intro name splitter found text parts divided part mem
  have mapped : (Table.get? name binder.registry.splitters).map (guardedSplitter refusal)
      = some splitter := (Table.get?_map _ _ _).symm.trans found
  obtain ⟨original, -, rfl⟩ := Option.map_eq_some_iff.1 mapped
  unfold guardedSplitter at divided
  split at divided
  next given _ =>
    split at divided
    next => cases divided
    next none =>
      cases divided
      exact fun held => none (List.any_eq_true.2 ⟨part, mem, held⟩)
  next => cases divided

/-- While a shape is bound, no splitter gives a part with a placeholder: to refuse such parts would
change nothing, whatever the refusal says. -/
def SplitsQuietly (binder : Binder) (family : Family) (source : Source) (shape : Shape)
    (target : Target) : Prop :=
  ∀ refusal depth, (binder.guarded refusal).bindAt family depth source shape target
    = binder.bindAt family depth source shape target

section

variable {binder : Binder} {family : Family}

/-- A splitter that gives no part with a placeholder has nothing to refuse. -/
theorem guardedSplitter_eq {splitter : Splitter}
    (literal : ∀ text parts, splitter text = .ok parts →
      ∀ part ∈ parts, ¬ Placeholder.occursIn part)
    (refusal : Cause) : guardedSplitter refusal splitter = splitter := by
  funext text
  unfold guardedSplitter
  split
  next parts divided =>
    have none : ¬ parts.any Placeholder.occursIn := by
      intro held
      obtain ⟨part, mem, opened⟩ := List.any_eq_true.1 held
      exact literal text parts divided part mem opened
    rw [if_neg none, divided]
  next cause refused => rw [refused]

theorem sequenceParts_guarded (splits : binder.SplitsLiterally) (refusal : Cause) (target : Target)
    (text : Text) :
    (binder.guarded refusal).sequenceParts target text = binder.sequenceParts target text := by
  unfold sequenceParts
  cases target.tag.splitter with
  | none => rfl
  | some name =>
    have mapped : (binder.guarded refusal).registry.splitters.get? name
        = (binder.registry.splitters.get? name).map (guardedSplitter refusal) :=
      Table.get?_map _ _ _
    simp only [mapped]
    cases found : binder.registry.splitters.get? name with
    | none => rfl
    | some splitter =>
      simp only [Option.map_some, guardedSplitter_eq (splits name splitter found)]

theorem validated_guarded (binder : Binder) (refusal : Cause) :
    (binder.guarded refusal).validated = binder.validated := by
  have checked (target : Target) (value : Value) (rules : List Rule) :
      (binder.guarded refusal).checkRules target value rules
        = binder.checkRules target value rules := by
    induction rules with
    | nil => rfl
    | cons rule rules ih =>
      rw [checkRules, checkRules, ih]
      rfl
  funext target value
  rw [validated, validated, checked]

theorem finished_guarded (binder : Binder) (refusal : Cause) :
    (binder.guarded refusal).finished = binder.finished := by
  funext target value
  rw [finished, finished, validated_guarded]
  rfl

theorem bindLeaf_guarded (binder : Binder) (refusal : Cause) :
    (binder.guarded refusal).bindLeaf = binder.bindLeaf := by
  funext source shape target
  rw [bindLeaf, bindLeaf, validated_guarded]
  rfl

/-- Nothing but the parts of texts comes from splitters. -/
theorem bindAt_guarded (splits : binder.SplitsLiterally) (refusal : Cause) (depth : Nat) :
    (binder.guarded refusal).bindAt family depth = binder.bindAt family depth
      ∧ (binder.guarded refusal).bindCompositeAt family depth
        = binder.bindCompositeAt family depth := by
  have elements : (binder.guarded refusal).elementSource = binder.elementSource := by
    funext source element target
    simp only [elementSource, sequenceParts_guarded splits]
    rfl
  have sequences : (binder.guarded refusal).bindSequence = binder.bindSequence := by
    funext bind family source element target
    rw [bindSequence, bindSequence, elements, finished_guarded]
    rfl
  have mappings : (binder.guarded refusal).bindMapping = binder.bindMapping := by
    funext bind source member target
    rw [bindMapping, bindMapping, finished_guarded]
    rfl
  induction depth with
  | zero => exact ⟨rfl, rfl⟩
  | succ depth ih =>
    constructor
    · funext source shape target
      rw [bindAt, bindAt, ih.1, ih.2, sequences, mappings, bindLeaf_guarded]
      rfl
    · funext source fields target
      rw [bindCompositeAt, bindCompositeAt, ih.1, ih.2]

/-- **Splitters that never give a placeholder never give one in a binding.** -/
theorem SplitsLiterally.splitsQuietly (splits : binder.SplitsLiterally) (source : Source)
    (shape : Shape) (target : Target) : binder.SplitsQuietly family source shape target := by
  intro refusal depth
  rw [(bindAt_guarded splits refusal depth).1]

end

/-- **Binding is local and can be relocated.** Two stores hold the same texts behind two well-formed
keys, and none of these texts, of the fallbacks in tags and of the parts that splitters give holds a
placeholder. Then a shape is bound at both keys to the same value, or fails with errors of the same
category and path, or takes more depth than it is given: at every depth, and so also in the answers
of the binder, where the depth that it allows itself is enough. -/
theorem bind_relocated (binder : Binder) (family : Family) (shape : Shape) {first second : Store}
    {left right : Text} (leftFormed : Key.WellFormed left) (rightFormed : Key.WellFormed right)
    (same : ∀ rest, Key.Inward rest → first.get? (left ++ rest) = second.get? (right ++ rest))
    (literal : ∀ rest, Key.Inward rest →
      ∀ text ∈ first.get? (left ++ rest), ¬ Placeholder.occursIn text)
    (path : Text) (tag : Tag) (rules : List Rule) (fallback : LiteralFallback tag)
    (tags : LiteralTags family shape)
    (parts : binder.SplitsQuietly family first shape ⟨left, path, tag, rules⟩)
    (others : binder.SplitsQuietly family second shape ⟨right, path, tag, rules⟩) :
    (∀ depth, Agree Eq (binder.bindAt family depth first shape ⟨left, path, tag, rules⟩)
        (binder.bindAt family depth second shape ⟨right, path, tag, rules⟩))
      ∧ (binder.Ends family first shape ⟨left, path, tag, rules⟩ →
          binder.Ends family second shape ⟨right, path, tag, rules⟩ →
          Agree Eq (.ofExcept (binder.bind family first shape ⟨left, path, tag, rules⟩))
            (.ofExcept (binder.bind family second shape ⟨right, path, tag, rules⟩))) := by
  have mirrored : Mirrored first second left right :=
    ⟨Key.ne_nil_of_wellFormed leftFormed, Key.ne_nil_of_wellFormed rightFormed, same, literal,
      fun rest inward => Key.wellFormed_append_iff leftFormed rightFormed inward⟩
  have each (depth : Nat) :
      Agree Eq (binder.bindAt family depth first shape ⟨left, path, tag, rules⟩)
        (binder.bindAt family depth second shape ⟨right, path, tag, rules⟩) := by
    have splits := splitsLiterally_guarded binder (.reported [])
    rw [← parts (.reported []) depth, ← others (.reported []) depth]
    exact (bindAt_agree splits tags depth).1 shape .root path tag rules mirrored fallback
  refine ⟨each, fun ends ends' => ?_⟩
  obtain ⟨depth, settled⟩ := bind_settles ends
  obtain ⟨depth', settled'⟩ := bind_settles ends'
  have here := each (max depth depth')
  rwa [settled _ (Nat.le_max_left _ _), settled' _ (Nat.le_max_right _ _)] at here

/-! ### A note at two places -/

/-- A splitter into single characters, none of which is a placeholder. -/
def splitCharacters : Splitter := fun text => .ok (text.map fun char => [char])

/-- A binder with that splitter. -/
def characterBinder : Binder := ⟨⟨[], [("chars", splitCharacters)], []⟩, .both⟩

theorem splitsLiterally_characterBinder : characterBinder.SplitsLiterally := by
  intro name splitter found text parts divided part mem held
  obtain ⟨-, rfl⟩ := Prod.mk.inj (List.mem_singleton.1 (Table.mem_of_get? found))
  cases divided
  obtain ⟨char, -, rfl⟩ := List.mem_map.1 mem
  exact absurd (Text.has_pair_cons.1 held) (by simp [Text.has, Text.cut?])

/-- A composite with a fallback, a text to divide and a mapping. -/
def noteShape : Shape :=
  .composite "Note"
    [⟨"title", .tagged "$\x7bhead:=none\x7d", .scalar "String" .string, []⟩,
      ⟨"marks", .tagged "$\x7bmarks\x7d||chars", .sequence "Vec" (.scalar "String" .string), []⟩,
      ⟨"sizes", .nested, .mapping "Map" (.scalar "u8" (.unsigned 8)), []⟩]

theorem literalTags_noteShape : LiteralTags [] noteShape := by
  intro shape reached type fields resolved field mem text tag tagged read
  have listed : tag
      ∈ [⟨"head", some ("none" : Text), none⟩, ⟨"marks", none, some ("chars" : Text)⟩] :=
    FieldTag.mem_fieldTags
      ⟨shape, type, fields, reached, resolved, field, mem, text, tagged, read⟩
  simp only [List.mem_cons, List.not_mem_nil, or_false] at listed
  rcases listed with rfl | rfl
  · rintro text ⟨⟩
    decide
  · nofun

/-- The properties of a note at a key. -/
def noteEntries (key : Text) : List (Text × Text) :=
  [(key ++ (".marks" : Text), "xy"), (key ++ (".sizes.x" : Text), "3")]

/-- A note at `a.b`, among keys that only look like it and hold placeholders. -/
def crowdedEntries : List (Text × Text) :=
  ("a-b", "$\x7bnowhere\x7d") :: ("a.bc", "$\x7bnowhere\x7d") :: noteEntries "a.b"

theorem mem_noteEntries {key rest text : Text} :
    (key ++ rest, text) ∈ noteEntries key
      ↔ rest = (".marks" : Text) ∧ text = ("xy" : Text)
        ∨ rest = (".sizes.x" : Text) ∧ text = ("3" : Text) := by
  simp only [noteEntries, List.mem_cons, Prod.mk.injEq, List.append_cancel_left_eq,
    List.not_mem_nil, or_false]

theorem mem_crowdedEntries {rest text : Text} (inward : Key.Inward rest) :
    (("a.b" : Text) ++ rest, text) ∈ crowdedEntries
      ↔ (("a.b" : Text) ++ rest, text) ∈ noteEntries "a.b" := by
  have dash : ("a.b" : Text) ++ rest ≠ ("a-b" : Text) := by
    intro same
    exact absurd (congrArg (fun text => (text.take 2).getLast?) same) (by simp)
  have longer : ("a.b" : Text) ++ rest ≠ ("a.bc" : Text) := by
    intro same
    have divided : ("a.bc" : Text) = ("a.b" : Text) ++ ['c'] := by decide
    rw [List.append_cancel_left (same.trans divided)] at inward
    exact absurd (Key.inward_cons.1 inward) (by decide)
  simp only [crowdedEntries, List.mem_cons, Prod.mk.injEq, dash, longer, false_and, false_or]

/-- The note among other keys. -/
def crowdedStore : Store := .ofTable crowdedEntries

/-- The note alone, at another key. -/
def lonelyStore : Store := .ofTable (noteEntries "z[0]")

theorem get?_crowdedStore {rest : Text} (inward : Key.Inward rest) :
    crowdedStore.get? (("a.b" : Text) ++ rest) = lonelyStore.get? (("z[0]" : Text) ++ rest) := by
  refine Option.ext fun text => ?_
  rw [crowdedStore, lonelyStore, Store.get?_ofTable (by decide), Store.get?_ofTable (by decide),
    mem_crowdedEntries inward, mem_noteEntries, mem_noteEntries]

theorem literal_crowdedStore {rest text : Text} (inward : Key.Inward rest)
    (found : crowdedStore.get? (("a.b" : Text) ++ rest) = some text) :
    ¬ Placeholder.occursIn text := by
  rw [crowdedStore, Store.get?_ofTable (by decide), mem_crowdedEntries inward, mem_noteEntries]
    at found
  rcases found with ⟨-, rfl⟩ | ⟨-, rfl⟩ <;> decide

/-- The target of a note. -/
def noteTarget (key : Text) : Target := ⟨key, "note", Tag.empty, []⟩

/-- The value of the note. -/
def noteValue : Value :=
  .object [("marks", .array [.string "x", .string "y"]), ("sizes", .object [("x", .ofInt 3)]),
    ("title", .string "none")]

theorem bind_relocated_note :
    (∀ depth, Agree Eq
        (characterBinder.bindAt [] depth crowdedStore noteShape (noteTarget "a.b"))
        (characterBinder.bindAt [] depth lonelyStore noteShape (noteTarget "z[0]")))
      ∧ characterBinder.bind [] crowdedStore noteShape (noteTarget "a.b") = .ok noteValue
      ∧ Agree Eq (.ofExcept (characterBinder.bind [] crowdedStore noteShape (noteTarget "a.b")))
        (.ofExcept (characterBinder.bind [] lonelyStore noteShape (noteTarget "z[0]"))) := by
  have relocated := bind_relocated characterBinder [] noteShape
    (Key.exists_containers?_iff.1 ⟨_, rfl⟩) (Key.exists_containers?_iff.1 ⟨_, rfl⟩)
    (fun _ => get?_crowdedStore) (fun _ inward _ => literal_crowdedStore inward) "note" Tag.empty []
    literalFallback_empty literalTags_noteShape
    (splitsLiterally_characterBinder.splitsQuietly _ _ _)
    (splitsLiterally_characterBinder.splitsQuietly _ _ _)
  have here : characterBinder.bindAt [] (depthBound [] crowdedStore noteShape (noteTarget "a.b"))
      crowdedStore noteShape (noteTarget "a.b") = .done noteValue := by cbv
  have there : characterBinder.bindAt [] (depthBound [] lonelyStore noteShape (noteTarget "z[0]"))
      lonelyStore noteShape (noteTarget "z[0]") = .done noteValue := by cbv
  refine ⟨relocated.1, ?_, relocated.2 ?_ ?_⟩
  · unfold Binder.bind
    rw [here]
  · intro used
    cases here.symm.trans used
  · intro used
    cases there.symm.trans used

end TypedConfig.Binder
