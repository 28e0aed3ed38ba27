import Mathlib.Data.List.Nodup
import Mathlib.Logic.Relation
import TypedConfig.Proofs.Binder.Absent
import TypedConfig.Proofs.Binder.Depth
import TypedConfig.Proofs.Shape.Parts

/-!
# Recursive shapes that end

A store is finite, so binding leaves it after finitely many steps down. Without such steps it goes
on in two ways only: where nothing is configured it unfolds optional values and fields, and where a
text is divided it goes on with the parts.

* `Unfolds`, `Divides`: the two ways.
* `endsIn_of_acyclic`: a way that never comes back to a shape is no longer than the number of shapes
  that may come up.
* `Suffices`: a depth is enough for a binding; `suffices_sequence`, `suffices_mapping`,
  `suffices_optional` and `suffices_composite` reduce this to the parts.
-/

namespace TypedConfig.Binder

variable {binder : Binder} {family : Family} {source : Source} {shape root : Shape}
  {target : Target} {key path : Text} {rules : List Rule}

/-! ### Steps without progress -/

/-- Where nothing is configured, binding a shape goes on with another: the content of an optional
value, or a field without a field in front of it that must be configured. -/
inductive Unfolds (binder : Binder) (family : Family) : Shape → Shape → Prop
  | optional {shape inner : Shape} {type : Text}
      (resolved : shape.resolve family = .optional type inner) : Unfolds binder family shape inner
  | field {shape : Shape} {type : Text} {front back : List (Field Shape)} {field : Field Shape}
      (resolved : shape.resolve family = .composite type (front ++ field :: back))
      (builtin : binder.registry.converters.get? type = none)
      (free : ∀ earlier ∈ front, ¬ binder.Demands family earlier.shape) :
      Unfolds binder family shape field.shape

/-- Where there is a text, binding a shape goes on with another for the text or its parts. -/
inductive Divides (family : Family) : Shape → Shape → Prop
  | optional {shape inner : Shape} {type : Text}
      (resolved : shape.resolve family = .optional type inner) : Divides family shape inner
  | sequence {shape element : Shape} {type : Text}
      (resolved : shape.resolve family = .sequence type element) : Divides family shape element

/-- The first field is reached whatever the others are. -/
theorem Unfolds.first {type : Text} {first : Field Shape} {fields : List (Field Shape)}
    (resolved : shape.resolve family = .composite type (first :: fields))
    (builtin : binder.registry.converters.get? type = none) :
    binder.Unfolds family shape first.shape :=
  @Unfolds.field binder family shape type [] fields first resolved builtin (by simp)

theorem Unfolds.mem_inner {next : Shape} (step : binder.Unfolds family shape next) :
    next ∈ (shape.resolve family).inner := by
  cases step with
  | optional resolved =>
    rw [resolved]
    exact List.mem_singleton_self _
  | field resolved =>
    rw [resolved]
    exact List.mem_map_of_mem (by simp)

theorem Divides.mem_inner {next : Shape} (step : Divides family shape next) :
    next ∈ (shape.resolve family).inner := by
  cases step with
  | optional resolved | sequence resolved =>
    rw [resolved]
    exact List.mem_singleton_self _

/-- Every way from a shape comes through fewer shapes than some number, or just as many. -/
def EndsIn (step : Shape → Shape → Prop) : Nat → Shape → Prop
  | 0, _ => False
  | count + 1, shape => ∀ next, step shape next → EndsIn step count next

/-- **A way that never comes back to a shape** comes through every shape at most once, so there are
no more shapes on it than may come up at all. -/
theorem endsIn_of_acyclic {step : Shape → Shape → Prop}
    (inner : ∀ {shape next}, step shape next → next ∈ (shape.resolve family).inner)
    (acyclic : ∀ shape, family.Reaches root shape → ¬ Relation.TransGen step shape shape)
    (reached : family.Reaches root shape) : EndsIn step (family.scope root).length shape := by
  -- The shapes that the way came through before are kept in a list without repetition.
  suffices further : ∀ count (visited : List Shape) {shape : Shape}, visited.Nodup →
      (∀ earlier ∈ visited, earlier ∈ family.scope root ∧ Relation.TransGen step earlier shape) →
      family.Reaches root shape → (family.scope root).length ≤ count + visited.length →
      EndsIn step count shape from
    further _ [] List.nodup_nil (fun earlier mem => by cases mem) reached (Nat.le_refl _)
  intro count
  induction count with
  | zero =>
    intro visited shape nodup before reached few
    have new : shape ∉ visited := fun mem => acyclic shape reached (before shape mem).2
    have longer : (shape :: visited).Nodup := List.nodup_cons.2 ⟨new, nodup⟩
    have bounded : (shape :: visited).length ≤ (family.scope root).length := by
      refine longer.length_le_of_subset fun earlier mem => ?_
      rcases List.mem_cons.1 mem with rfl | mem
      · exact reached.mem_scope
      · exact (before earlier mem).1
    rw [List.length_cons] at bounded
    omega
  | succ count ih =>
    intro visited shape nodup before reached few next taken
    have new : shape ∉ visited := fun mem => acyclic shape reached (before shape mem).2
    refine ih (shape :: visited) (List.nodup_cons.2 ⟨new, nodup⟩) (fun earlier mem => ?_)
      (reached.step (inner taken)) (by rw [List.length_cons]; omega)
    rcases List.mem_cons.1 mem with rfl | mem
    · exact ⟨reached.mem_scope, .single taken⟩
    · exact ⟨(before earlier mem).1, (before earlier mem).2.tail taken⟩

/-- Steps that make a rank fall never come back. -/
theorem acyclic_of_rank {step : Shape → Shape → Prop}
    (inner : ∀ {shape next}, step shape next → next ∈ (shape.resolve family).inner)
    (rank : Shape → Nat)
    (falls : ∀ {shape next}, family.Reaches root shape → step shape next → rank next < rank shape)
    (reached : family.Reaches root shape) : ¬ Relation.TransGen step shape shape := by
  intro cycle
  suffices lower : ∀ {next}, Relation.TransGen step shape next →
      family.Reaches root next ∧ rank next < rank shape from
    absurd (lower cycle).2 (Nat.lt_irrefl _)
  intro next path
  induction path with
  | single taken => exact ⟨reached.step (inner taken), falls reached taken⟩
  | tail _ taken ih => exact ⟨ih.1.step (inner taken), Nat.lt_trans (falls ih.1 taken) ih.2⟩

/-! ### Enough depth -/

/-- A depth is enough to bind a shape at a target. -/
def Suffices (binder : Binder) (family : Family) (depth : Nat) (source : Source) (shape : Shape)
    (target : Target) : Prop :=
  binder.bindAt family depth source shape target ≠ .exhausted

theorem Suffices.of_le {depth more : Nat}
    (enough : binder.Suffices family depth source shape target) (deeper : depth ≤ more) :
    binder.Suffices family more source shape target := by
  rcases bindAt_refines deeper source shape target with used | same
  · exact absurd used enough
  · unfold Suffices
    rwa [same]

theorem ofExcept_ne_exhausted {Result : Type} (result : Except PropertyError Result) :
    Outcome.ofExcept result ≠ .exhausted := by
  cases result <;> simp

theorem bind_ne_exhausted {Result Next : Type} {outcome : Outcome Result}
    {next : Result → Outcome Next} (first : outcome ≠ .exhausted)
    (rest : ∀ result, next result ≠ .exhausted) : outcome >>= next ≠ .exhausted := by
  cases outcome with
  | done result => exact rest result
  | failed error => simp
  | exhausted => exact absurd rfl first

/-! ### Kinds of shapes -/

/-- The shapes that are bound from one text, whatever is registered. -/
def IsLeaf : Shape → Prop
  | .scalar _ _ | .custom _ | .named _ => True
  | .sequence _ _ | .mapping _ _ | .optional _ _ | .composite _ _ => False

theorem suffices_leaf (leaf : IsLeaf (shape.resolve family)) (depth : Nat) :
    binder.Suffices family (depth + 1) source shape target := by
  unfold Suffices
  rw [bindAt]
  cases resolved : shape.resolve family with
  | scalar | custom | named => exact ofExcept_ne_exhausted _
  | sequence | mapping | optional | composite =>
    rw [resolved] at leaf
    exact leaf.elim

theorem suffices_optional {type : Text} {inner : Shape} {depth : Nat}
    (resolved : shape.resolve family = .optional type inner)
    (enough : binder.Suffices family depth source inner target) :
    binder.Suffices family (depth + 1) source shape target := by
  unfold Suffices
  rw [bindAt_optional resolved, bindOptional]
  cases bound : binder.bindAt family depth source inner target with
  | exhausted => exact absurd bound enough
  | done value => simp
  | failed error =>
    dsimp only
    split <;> simp

theorem suffices_sequence {type : Text} {element : Shape} {depth : Nat}
    (resolved : shape.resolve family = .sequence type element)
    (each : ∀ view, binder.elementSource source (element.resolve family) target = .ok (some view) →
      ∀ index, binder.Suffices family depth view element
        (binder.elementTarget target (target.element index))) :
    binder.Suffices family (depth + 1) source shape target := by
  unfold Suffices
  rw [bindAt_sequence resolved, bindSequence]
  cases found : binder.elementSource source (element.resolve family) target with
  | error error => simp
  | ok view? =>
    cases view? with
    | none => exact ofExcept_ne_exhausted _
    | some view =>
      rw [Outcome.ofExcept_ok, Outcome.done_bind]
      dsimp only
      refine bind_ne_exhausted (Outcome.mapM_ne_exhausted ?_) fun items => ofExcept_ne_exhausted _
      intro front index back same _
      exact each view found index

theorem suffices_mapping {type : Text} {member : Shape} {depth : Nat}
    (resolved : shape.resolve family = .mapping type member)
    (each : ∀ names, memberNames source target = .ok names → ∀ name ∈ names,
      binder.Suffices family depth source member
        (binder.elementTarget target (target.child name))) :
    binder.Suffices family (depth + 1) source shape target := by
  unfold Suffices
  rw [bindAt_mapping resolved, bindMapping]
  cases found : memberNames source target with
  | error error => simp
  | ok names =>
    rw [Outcome.ofExcept_ok, Outcome.done_bind]
    refine bind_ne_exhausted (Outcome.mapM_ne_exhausted ?_) fun members => ofExcept_ne_exhausted _
    intro front name back same _
    exact bind_ne_exhausted (each names found name (same ▸ by simp)) fun value => by simp

/-- The target of an element may have rules, but no tag. -/
theorem exists_elementTarget_eq (binder : Binder) (parent : Target) (inner place : Text) :
    ∃ checked, binder.elementTarget parent (Target.new inner place)
      = ⟨inner, place, Tag.empty, checked⟩ := by
  unfold elementTarget
  split
  · exact ⟨parent.rules, rfl⟩
  · exact ⟨[], rfl⟩

/-- The target of a nested field. -/
def nestedTarget (target : Target) (field : Field Shape) : Target :=
  (target.child field.name).withRules field.rules

/-- A depth is enough for a composite with nested fields when it is for each field that is reached:
the fields in front of it have been bound then. -/
theorem suffices_composite {type : Text} {fields : List (Field Shape)} {depth : Nat}
    (resolved : shape.resolve family = .composite type fields)
    (nested : ∀ field ∈ fields, field.binding = .nested)
    (each : binder.registry.converters.get? type = none → ∀ front field back,
      fields = front ++ field :: back →
      (∀ earlier ∈ front, ∃ value,
        binder.bindAt family depth source earlier.shape (nestedTarget target earlier)
          = .done value) →
      binder.Suffices family depth source field.shape (nestedTarget target field)) :
    binder.Suffices family (depth + 2) source shape target := by
  unfold Suffices
  cases builtin : binder.registry.converters.get? type with
  | some converter =>
    rw [bindAt, resolved]
    dsimp only
    rw [builtin]
    exact ofExcept_ne_exhausted _
  | none =>
    rw [bindAt_composite resolved builtin, bindFields]
    split
    · simp
    refine bind_ne_exhausted (Outcome.mapM_ne_exhausted ?_) fun members => by simp
    intro front field back same reached
    refine bind_ne_exhausted ?_ fun value => by simp
    rw [bindField_nested (nested field (same ▸ by simp))]
    refine each builtin front field back same fun earlier before => ?_
    obtain ⟨member, done⟩ := reached earlier before
    obtain ⟨value, bound, -⟩ := Outcome.exists_of_bind_eq_done done
    rw [bindField_nested (nested earlier (same ▸ by simp [before]))] at bound
    exact ⟨value, bound⟩

end TypedConfig.Binder
