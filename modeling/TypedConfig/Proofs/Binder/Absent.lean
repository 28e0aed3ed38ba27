import TypedConfig.Proofs.Binder.Basic

/-!
# Where nothing is configured

What binding does at a key that a source does not have, when the target has no fallback.

* `bindLeaf_absent`, `elementSource_absent`, `memberNames_absent`: leaves and sequences do not
  exist there, and a mapping has no members.
* `Demands`: the shapes that cannot be bound there: those that read their own key, and the
  composites with a field that cannot be bound.
-/

namespace TypedConfig

variable {source : Source} {key : Text}

namespace Source

theorem get?_eq_none (absent : ¬ source.has key) : source.get? key = none := by
  induction source with
  | plain store =>
    rw [has, Store.has, Bool.or_eq_true, not_or] at absent
    exact Option.not_isSome_iff_eq_none.1 absent.1
  | overlay top base ih =>
    rw [has, Store.has, Bool.or_eq_true, Bool.or_eq_true, not_or, not_or] at absent
    rw [get?, Option.not_isSome_iff_eq_none.1 absent.1.1]
    exact ih absent.2

/-- Nothing is there inside a place that is not there. -/
theorem not_has_append (inside : key ≠ []) (absent : ¬ source.has key) {rest : Text}
    (inward : Key.Inward rest) : ¬ source.has (key ++ rest) := by
  rw [has_iff (List.append_ne_nil_of_left_ne_nil inside rest)]
  rintro ⟨more, further, found⟩
  refine absent ((has_iff inside).2 ⟨rest ++ more, inward.append further, ?_⟩)
  rwa [← List.append_assoc]

theorem not_has_child (inside : key ≠ []) (absent : ¬ source.has key) (name : Text) :
    ¬ source.has (Key.child key name) := by
  rw [Key.child_eq inside]
  exact not_has_append inside absent (Key.inward_cons.2 (.inl rfl))

theorem not_has_element (inside : key ≠ []) (absent : ¬ source.has key) (index : Nat) :
    ¬ source.has (Key.element key index) := by
  rw [Key.element_eq]
  exact not_has_append inside absent (Key.inward_cons.2 (.inr rfl))

end Source

namespace Binder

variable {binder : Binder} {family : Family} {path : Text} {rules : List Rule}

/-- A leaf without a text does not exist. -/
theorem bindLeaf_absent (absent : ¬ source.has key) (shape : Shape) :
    binder.bindLeaf source shape ⟨key, path, Tag.empty, rules⟩ = .error (.notExist key path) := by
  have missing : source.has key = false := Bool.eq_false_iff.2 absent
  unfold bindLeaf Placeholder.resolve Placeholder.lookUp
  dsimp only
  rw [Source.get?_eq_none absent, missing]
  show Except.error (PropertyError.atPath path (.notExist key path)) = _
  cases path <;> rfl

theorem elementSource_absent (inside : key ≠ []) (absent : ¬ source.has key) (shape : Shape) :
    binder.elementSource source shape ⟨key, path, Tag.empty, rules⟩
      = .error (.notExist key path) := by
  unfold elementSource sequenceText
  dsimp only
  rw [if_neg (Source.not_has_element inside absent 0), if_neg absent]
  rfl

/-- A mapping that is not configured has no members. -/
theorem memberNames_absent (inside : key ≠ []) (absent : ¬ source.has key) :
    memberNames source ⟨key, path, Tag.empty, rules⟩ = .ok [] := by
  obtain ⟨names, listed, -, complete⟩ :=
    Source.exists_members? inside (Source.get?_eq_none absent)
  have none : names = [] := by
    refine List.eq_nil_iff_forall_not_mem.2 fun name mem => ?_
    obtain ⟨more, found, -⟩ := (complete name).1 mem
    have inward : Key.Inward ('.' :: more) := Key.inward_cons.2 (.inl rfl)
    rw [Source.get?_eq_none (Source.not_has_append inside absent inward)] at found
    cases found
  unfold memberNames
  dsimp only
  rw [listed, none]
  rfl

/-! ### Shapes that must be configured -/

/-- The shapes that are bound from a text or from elements at their own key. -/
def ReadsKey (binder : Binder) (family : Family) (shape : Shape) : Prop :=
  match shape.resolve family with
  | .scalar _ _ | .custom _ | .sequence _ _ | .named _ => True
  | .composite type _ => (binder.registry.converters.get? type).isSome
  | .mapping _ _ | .optional _ _ => False

/-- The shapes that cannot be bound where nothing is configured. -/
inductive Demands (binder : Binder) (family : Family) : Shape → Prop
  | own {shape : Shape} (reads : binder.ReadsKey family shape) : Demands binder family shape
  | field {shape : Shape} {type : Text} {fields : List (Field Shape)} {field : Field Shape}
      (resolved : shape.resolve family = .composite type fields)
      (builtin : binder.registry.converters.get? type = none) (mem : field ∈ fields)
      (nested : field.binding = .nested) (demands : Demands binder family field.shape) :
      Demands binder family shape

theorem bindAt_absent_of_readsKey {shape : Shape} (reads : binder.ReadsKey family shape)
    (inside : key ≠ []) (absent : ¬ source.has key) (depth : Nat) :
    binder.bindAt family (depth + 1) source shape ⟨key, path, Tag.empty, rules⟩
      = .failed (.notExist key path) := by
  unfold ReadsKey at reads
  rw [bindAt]
  cases resolved : shape.resolve family with
  | scalar | custom | named => exact congrArg Outcome.ofExcept (bindLeaf_absent absent _)
  | sequence type element =>
    dsimp only
    rw [bindSequence, elementSource_absent inside absent]
    rfl
  | composite type fields =>
    rw [resolved] at reads
    dsimp only
    rw [if_pos reads, bindLeaf_absent absent]
    rfl
  | mapping | optional =>
    rw [resolved] at reads
    exact reads.elim

theorem bindField_nested {bind : BindPart}
    {embed : Source → List (Field Shape) → Target → Outcome Value} {field : Field Shape}
    (nested : field.binding = .nested) (target : Target) :
    bindField bind embed family source target field
      = bind source field.shape ((target.child field.name).withRules field.rules) := by
  unfold bindField
  rw [nested]

/-- A composite is bound when its fields are. -/
theorem exists_of_bindAt_composite {shape : Shape} {type : Text} {fields : List (Field Shape)}
    {target : Target} {depth : Nat} {value : Value}
    (resolved : shape.resolve family = .composite type fields)
    (builtin : binder.registry.converters.get? type = none)
    (bound : binder.bindAt family depth source shape target = .done value) :
    ∃ below, ∀ field ∈ fields, ∃ result,
      bindField (binder.bindAt family below) (binder.bindCompositeAt family below) family source
        target field = .done result := by
  rcases depth with _ | _ | below
  · cases bound
  · rw [bindAt, resolved] at bound
    dsimp only at bound
    rw [builtin] at bound
    cases bound
  · rw [bindAt_composite resolved builtin, bindFields] at bound
    split at bound
    next => cases bound
    next =>
      obtain ⟨members, listed, -⟩ := Outcome.exists_of_bind_eq_done bound
      refine ⟨below, fun field mem => ?_⟩
      obtain ⟨member, here⟩ := Outcome.exists_of_mapM_eq_done listed field mem
      obtain ⟨result, done, -⟩ := Outcome.exists_of_bind_eq_done here
      exact ⟨result, done⟩

/-- **A shape that must be configured is not bound where nothing is.** -/
theorem Demands.ne_done {shape : Shape} (demands : Demands binder family shape) :
    ∀ {key path : Text} {rules : List Rule} {depth : Nat} {value : Value}, key ≠ [] →
      ¬ source.has key →
        binder.bindAt family depth source shape ⟨key, path, Tag.empty, rules⟩ ≠ .done value := by
  induction demands with
  | own reads =>
    intro key path rules depth value inside absent bound
    cases depth with
    | zero => cases bound
    | succ depth =>
      rw [bindAt_absent_of_readsKey reads inside absent] at bound
      cases bound
  | @field shape type fields field resolved builtin mem nested demands ih =>
    intro key path rules depth value inside absent bound
    obtain ⟨below, each⟩ := exists_of_bindAt_composite resolved builtin bound
    obtain ⟨result, done⟩ := each field mem
    rw [bindField_nested nested] at done
    exact ih (Key.ne_nil_of_isBelow (Key.isBelow_child inside field.name))
      (Source.not_has_child inside absent field.name) done

end Binder

end TypedConfig
