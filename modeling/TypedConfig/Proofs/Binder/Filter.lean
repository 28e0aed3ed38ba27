import Mathlib
import TypedConfig.Proofs.Binder.Rules

/-!
# Rules as a filter

A binding with rules gives the value of the same binding without them, if the rules accept it where
the binder checks them, and nothing otherwise.

* `Meets`: what the rules of a target require of a bound value, down to its scalars.
* `Fieldless`: the shapes without composites, in which only scalars are optional.
* `bindOptional_filters`: an absent value is absent with and without rules.
* `rules_filter`: every shape without fields, by induction on the depth.
* `Heeds`: the shapes whose values the rules of a target see.
* `rules_reach_elements`: the rules of a container see its elements of such a shape; a composite that
  is bound field by field they do not see.
-/

namespace TypedConfig.Binder

variable {binder : Binder} {family : Family} {source : Source} {shape element : Shape}
  {target : Target} {value : Value} {rules : List Rule} {depth : Nat}

/-! ### What rules require of a bound value -/

/-- What the rules of a target require of the value that a shape has there. A value that is read
from one text must be accepted, and null for an absent value is not asked about. Of a container the
binder may check the whole, its elements, or both; the elements are asked as their shape is. -/
inductive Meets (binder : Binder) (family : Family) (rules : List Rule) : Shape → Value → Prop
  | single {shape : Shape} {value : Value} (reads : binder.ReadsText (shape.resolve family))
      (accepted : binder.Accepts rules value) : Meets binder family rules shape value
  | absent {shape inner : Shape} {type : Text}
      (resolved : shape.resolve family = .optional type inner) :
      Meets binder family rules shape .null
  | present {shape inner : Shape} {type : Text} {value : Value}
      (resolved : shape.resolve family = .optional type inner)
      (here : Meets binder family rules inner value) : Meets binder family rules shape value
  | container {shape element : Shape} {value : Value}
      (resolved : (shape.resolve family).element? = some element)
      (each : binder.check.checksElements →
        ∀ item ∈ value.elements, Meets binder family rules element item)
      (whole : binder.check.checksContainer → binder.Accepts rules value) :
      Meets binder family rules shape value

theorem meets_iff_accepts (reads : binder.ReadsText (shape.resolve family)) :
    Meets binder family rules shape value ↔ binder.Accepts rules value := by
  refine ⟨fun meets => ?_, .single reads⟩
  cases meets with
  | single _ accepted => exact accepted
  | absent resolved | present resolved =>
    rw [resolved] at reads
    exact reads.elim
  | container resolved => exact absurd resolved (by simp [reads.element?_eq_none])

theorem meets_container_iff (container : (shape.resolve family).element? = some element) :
    Meets binder family rules shape value
      ↔ (∀ item ∈ value.elements,
          binder.check.checksElements → Meets binder family rules element item)
        ∧ (binder.check.checksContainer → binder.Accepts rules value) := by
  constructor
  · intro meets
    cases meets with
    | single reads => exact absurd container (by simp [reads.element?_eq_none])
    | absent resolved | present resolved =>
      rw [resolved] at container
      cases container
    | container other each whole =>
      cases container.symm.trans other
      exact ⟨fun item mem checked => each checked item mem, whole⟩
  · rintro ⟨each, whole⟩
    exact .container container (fun checked item mem => each item mem checked) whole

/-- What is optional and there is asked about as what is not optional. -/
theorem meets_optional_iff {type : Text} {inner : Shape}
    (resolved : shape.resolve family = .optional type inner)
    (reads : binder.ReadsText (inner.resolve family)) (present : value ≠ .null) :
    Meets binder family rules shape value ↔ binder.Accepts rules value := by
  rw [← meets_iff_accepts reads]
  refine ⟨fun meets => ?_, .present resolved⟩
  cases meets with
  | single other =>
    rw [resolved] at other
    exact other.elim
  | absent => exact absurd rfl present
  | present other here =>
    cases resolved.symm.trans other
    exact here
  | container other =>
    rw [resolved] at other
    cases other

/-! ### Optional values -/

/-- No converter gives null. -/
def NullFree (registry : Registry) : Prop :=
  ∀ type convert text, registry.converters.get? type = some convert → convert text ≠ .ok .null

theorem nullFree_standard : NullFree Registry.standard := by
  intro type convert text found
  obtain ⟨-, rfl⟩ := Prod.mk.inj (List.mem_singleton.1 (Table.mem_of_get? found))
  rw [Registry.convertDuration]
  split
  · simp [Duration.document, Value.ofMembers]
  · simp

/-- What is read from a text is not null. -/
theorem ne_null_of_bindLeaf (nullFree : NullFree binder.registry)
    (bound : binder.bindLeaf source shape target = .ok value) : value ≠ .null := by
  rintro rfl
  rcases cases_of_bindLeaf_eq_ok bound with
    ⟨convert, text, registered, converted⟩ | ⟨-, type, kind, text, -, read⟩
  · exact nullFree _ convert text registered converted
  · have admitted := Scalar.admits_of_read read
    cases kind <;> exact admitted

theorem bindOptional_filters (nullFree : NullFree binder.registry) {type : Text} {inner : Shape}
    (resolved : shape.resolve family = .optional type inner)
    (reads : binder.ReadsText (inner.resolve family)) :
    bindOptional (binder.bindAt family depth) source inner target = .done value
      ↔ bindOptional (binder.bindAt family depth) source inner (target.withRules []) = .done value
        ∧ Meets binder family target.rules shape value := by
  unfold bindOptional
  cases depth with
  | zero => exact iff_of_false (fun same => by cases same) (fun both => by cases both.1)
  | succ depth =>
    rw [bindAt_of_readsText reads, bindAt_of_readsText reads, bindLeaf_eq_bind]
    cases plain : binder.bindLeaf source (inner.resolve family) (target.withRules []) with
    | error error =>
      show (if (error.isNotExist && !source.has target.key) = true then Outcome.done .null
          else .failed error) = .done value
        ↔ (if (error.isNotExist && !source.has target.key) = true then Outcome.done .null
          else .failed error) = .done value ∧ _
      split
      · rw [Outcome.done.injEq]
        refine (and_iff_left_of_imp ?_).symm
        rintro rfl
        exact .absent resolved
      · simp
    | ok bound =>
      have given : Meets binder family target.rules shape bound
          ↔ binder.Accepts target.rules bound :=
        meets_optional_iff resolved reads (ne_null_of_bindLeaf nullFree plain)
      have last : (Except.ok bound >>= binder.validated target) = binder.validated target bound := rfl
      rw [last]
      cases checked : binder.validated target bound with
      | ok result =>
        obtain ⟨rfl, accepted⟩ := validated_eq_ok_iff.1 checked
        show Outcome.done result = .done value ↔ Outcome.done result = .done value ∧ _
        rw [Outcome.done.injEq]
        refine (and_iff_left_of_imp ?_).symm
        rintro rfl
        exact given.2 accepted
      | error error =>
        show (if (error.isNotExist && !source.has target.key) = true then Outcome.done .null
            else .failed error) = .done value ↔ Outcome.done bound = .done value ∧ _
        rw [if_neg (by simp [not_isNotExist_of_validated checked])]
        refine iff_of_false (fun same => by cases same) ?_
        rintro ⟨same, meets⟩
        obtain rfl := Outcome.done.inj same
        cases checked.symm.trans (validated_eq_ok_iff.2 ⟨rfl, given.1 meets⟩)

/-! ### Shapes without fields -/

/-- Binding a shape never comes to a composite that is bound field by field, and only what is read
from one text is optional. -/
def Fieldless (binder : Binder) (family : Family) (root : Shape) : Prop :=
  ∀ shape, family.Reaches root shape → match shape.resolve family with
    | .sequence _ _ | .mapping _ _ => True
    | .optional _ inner => binder.ReadsText (inner.resolve family)
    | other => binder.ReadsText other

theorem bindAt_leaf_filters (reads : binder.ReadsText (shape.resolve family)) :
    binder.bindAt family (depth + 1) source shape target = .done value
      ↔ binder.bindAt family (depth + 1) source shape (target.withRules []) = .done value
        ∧ Meets binder family target.rules shape value := by
  rw [bindAt_of_readsText reads, bindAt_of_readsText reads, Outcome.ofExcept_eq_done_iff,
    Outcome.ofExcept_eq_done_iff, bindLeaf_eq_ok_iff, meets_iff_accepts reads]

/-- An element has the rules of its container, if the binder checks elements, and else none. -/
theorem filtersPart_of_meets {bind : BindPart}
    (parts : ∀ view child item, bind view element child = .done item
      ↔ bind view element (child.withRules []) = .done item
        ∧ Meets binder family child.rules element item) (target : Target) :
    FiltersPart binder bind element target fun item =>
      binder.check.checksElements → Meets binder family target.rules element item := by
  intro view child item
  unfold elementTarget
  by_cases checked : binder.check.checksElements
  · rw [if_pos checked, if_pos checked, parts]
    simp [checked, Target.withRules]
  · rw [if_neg checked, if_neg checked]
    simp [checked]

/-- To every depth, the rules of a target only test the value. -/
theorem bindAt_filters (nullFree : NullFree binder.registry) {root : Shape}
    (fieldless : Fieldless binder family root) (reached : family.Reaches root shape) :
    binder.bindAt family depth source shape target = .done value
      ↔ binder.bindAt family depth source shape (target.withRules []) = .done value
        ∧ Meets binder family target.rules shape value := by
  induction depth generalizing source shape target value with
  | zero => exact iff_of_false (fun same => by cases same) (fun both => by cases both.1)
  | succ depth ih =>
    have container {element : Shape} (resolved : (shape.resolve family).element? = some element)
        (inside : family.Reaches root element) :
        binder.bindAt family (depth + 1) source shape target = .done value
          ↔ binder.bindAt family (depth + 1) source shape (target.withRules []) = .done value
            ∧ Meets binder family target.rules shape value := by
      have part : FiltersPart binder (binder.bindAt family depth) element target fun item =>
          binder.check.checksElements → Meets binder family target.rules element item :=
        filtersPart_of_meets (fun view child item => ih inside) target
      rw [bindAt_container_filters resolved part, meets_container_iff resolved]
    have kind := fieldless shape reached
    cases resolved : shape.resolve family with
    | scalar | custom | named => exact bindAt_leaf_filters (resolved ▸ trivial)
    | composite type fields =>
      rw [resolved] at kind
      exact bindAt_leaf_filters (resolved ▸ kind)
    | sequence type element => exact container (resolved ▸ rfl) (reached.sequence resolved)
    | mapping type member => exact container (resolved ▸ rfl) (reached.mapping resolved)
    | optional type inner =>
      rw [resolved] at kind
      rw [bindAt_optional resolved, bindAt_optional resolved,
        bindOptional_filters nullFree resolved kind]

theorem bind_eq_ok_iff :
    binder.bind family source shape target = .ok value
      ↔ binder.bindAt family (depthBound family source shape target) source shape target
        = .done value := by
  unfold Binder.bind
  cases binder.bindAt family (depthBound family source shape target) source shape target <;> simp

/-- **Rules are a filter on the bound value.** For every shape that is made of scalars, optional
scalars, sequences and mappings, however they are nested, a binding with rules gives a value exactly
when the binding without them gives it and the value meets what the rules require: as a whole, in
its elements, or both, as the binder checks containers. No converter may give null, which stands for
what is absent. -/
theorem rules_filter (binder : Binder) (family : Family) (source : Source) (shape : Shape)
    (target : Target) (nullFree : NullFree binder.registry)
    (fieldless : Fieldless binder family shape) :
    (∀ depth value, binder.bindAt family depth source shape target = .done value
        ↔ binder.bindAt family depth source shape (target.withRules []) = .done value
          ∧ Meets binder family target.rules shape value)
      ∧ ∀ value, binder.bind family source shape target = .ok value
        ↔ binder.bind family source shape (target.withRules []) = .ok value
          ∧ Meets binder family target.rules shape value := by
  have every : ∀ depth value, binder.bindAt family depth source shape target = .done value
      ↔ binder.bindAt family depth source shape (target.withRules []) = .done value
        ∧ Meets binder family target.rules shape value :=
    fun depth value => bindAt_filters nullFree fieldless .root
  refine ⟨every, fun value => ?_⟩
  rw [bind_eq_ok_iff, bind_eq_ok_iff]
  exact every _ value

/-- Lists of small numbers by name. -/
def gradesShape : Shape :=
  .mapping "Map" (.sequence "Vec" (.optional "Option" (.scalar "u8" (.unsigned 8))))

/-- A list of two numbers in one text. -/
def gradesStore : Store := .ofTable [("marks.law", "3, 4")]

/-- Accepts the values of at most the size that the rule is. -/
def validateSize : Validator := fun rule value => .ok (value.size ≤ Text.toNat 10 rule)

/-- The binder that checks the sizes of containers and of their elements. -/
def sizeBinder : Binder := ⟨{ Registry.standard with validators := [("size", validateSize)] }, .both⟩

/-- The place of the lists. -/
def gradesTarget : Target := (Target.new "marks" []).withRules [⟨"size", "4"⟩]

/-- The value of the lists. -/
def gradesValue : Value := .object [("law", .array [.ofInt 3, .ofInt 4])]

theorem fieldless_grades (binder : Binder) :
    Fieldless binder [] gradesShape := by
  intro shape reached
  have listed : shape ∈ gradesShape.parts := by
    simpa [Family.scope, Family.parts] using reached.mem_scope
  simp only [gradesShape, Shape.parts, List.mem_cons, List.not_mem_nil, or_false] at listed
  rcases listed with rfl | rfl | rfl | rfl <;> trivial

theorem meets_grades : Meets sizeBinder [] gradesTarget.rules gradesShape gradesValue := by
  have accepted {value : Value} (small : value.size ≤ 4) :
      sizeBinder.Accepts gradesTarget.rules value := by
    intro rule mem
    obtain rfl : rule = ⟨"size", "4"⟩ := List.mem_singleton.1 mem
    exact ⟨validateSize, rfl, congrArg Except.ok (decide_eq_true small)⟩
  refine .container rfl (fun _ => ?_) fun _ => accepted (by decide)
  show ∀ list ∈ [Value.array [.ofInt 3, .ofInt 4]], _
  rw [List.forall_mem_singleton]
  refine .container rfl (fun _ => ?_) fun _ => accepted (by decide)
  show ∀ item ∈ [Value.ofInt 3, .ofInt 4], _
  rw [List.forall_mem_cons, List.forall_mem_singleton]
  exact ⟨.present rfl (.single trivial (accepted (by decide))),
    .present rfl (.single trivial (accepted (by decide)))⟩

theorem rules_filter_grades :
    NullFree sizeBinder.registry ∧ Fieldless sizeBinder [] gradesShape
      ∧ Meets sizeBinder [] gradesTarget.rules gradesShape gradesValue
      ∧ sizeBinder.bind [] gradesStore gradesShape gradesTarget = .ok gradesValue := by
  have nullFree : NullFree sizeBinder.registry := nullFree_standard
  have fieldless : Fieldless sizeBinder [] gradesShape := fieldless_grades sizeBinder
  have plain : sizeBinder.bind [] gradesStore gradesShape (gradesTarget.withRules [])
      = .ok gradesValue := by cbv
  exact ⟨nullFree, fieldless, meets_grades, ((rules_filter sizeBinder [] gradesStore gradesShape
    gradesTarget nullFree fieldless).2 gradesValue).2 ⟨plain, meets_grades⟩⟩

/-! ### Elements that rules see -/

/-- The shapes whose values the rules of their target see: what is read from one text, and optional
values of such a shape. -/
inductive Heeds (binder : Binder) (family : Family) : Shape → Prop
  | single {shape : Shape} (reads : binder.ReadsText (shape.resolve family)) :
      Heeds binder family shape
  | optional {shape inner : Shape} {type : Text}
      (resolved : shape.resolve family = .optional type inner)
      (here : Heeds binder family inner) : Heeds binder family shape

/-- A value that rules see is accepted, unless it is null for an absent one. -/
theorem Heeds.accepts (heeds : Heeds binder family shape)
    (bound : binder.bindAt family depth source shape target = .done value) (present : value ≠ .null) :
    binder.Accepts target.rules value := by
  induction heeds generalizing depth with
  | single reads =>
    cases depth with
    | zero => cases bound
    | succ depth =>
      rw [bindAt_of_readsText reads] at bound
      exact (bindLeaf_eq_ok_iff.1 (Outcome.eq_ok_of_ofExcept bound)).2
  | optional resolved _ ih =>
    cases depth with
    | zero => cases bound
    | succ depth =>
      rw [bindAt_optional resolved, bindOptional] at bound
      split at bound
      · split at bound
        · cases bound
          exact absurd rfl present
        · cases bound
      · exact ih bound

/-- A composite that is bound field by field does not look at its rules. -/
theorem bindAt_composite_withRules {type : Text} {fields : List (Field Shape)}
    (resolved : shape.resolve family = .composite type fields)
    (builtin : binder.registry.converters.get? type = none) (rules : List Rule) :
    binder.bindAt family depth source shape (target.withRules rules)
      = binder.bindAt family depth source shape target := by
  match depth with
  | 0 => rfl
  | 1 =>
    rw [bindAt, bindAt, resolved]
    simp [builtin, bindCompositeAt]
  | depth + 2 =>
    rw [bindAt_composite resolved builtin, bindAt_composite resolved builtin]
    rfl

/-- An element of a container that is bound is the value of a part of it. -/
theorem exists_part_of_bindAt_container
    (container : (shape.resolve family).element? = some element)
    (bound : binder.bindAt family depth source shape target = .done value) :
    ∀ item ∈ value.elements, ∃ inner view child,
      binder.bindAt family inner view element (binder.elementTarget target child) = .done item := by
  intro item mem
  cases depth with
  | zero => cases bound
  | succ depth =>
    cases resolved : shape.resolve family with
    | sequence type inner =>
      rw [resolved] at container
      cases container
      rw [bindAt_sequence resolved] at bound
      obtain ⟨items, rfl, each⟩ := exists_of_bindSequence_eq_done bound
      obtain ⟨index, listed⟩ := List.mem_iff_getElem?.1 mem
      obtain ⟨view, -, -, here⟩ := each item index listed
      exact ⟨depth, view, target.element index, here⟩
    | mapping type inner =>
      rw [resolved] at container
      cases container
      rw [bindAt_mapping resolved] at bound
      obtain ⟨members, rfl, -, each⟩ := exists_of_bindMapping_eq_done bound
      obtain ⟨⟨name, content⟩, listed, rfl⟩ := List.mem_map.1 mem
      exact ⟨depth, source, target.child name, (each name content listed).2⟩
    | scalar | custom | named | optional | composite =>
      rw [resolved] at container
      cases container

/-- Rules have no effect on elements that are bound field by field. -/
theorem bindAt_composites_filters {type : Text} {fields : List (Field Shape)}
    (container : (shape.resolve family).element? = some element)
    (resolved : element.resolve family = .composite type fields)
    (builtin : binder.registry.converters.get? type = none) :
    binder.bindAt family depth source shape target = .done value
      ↔ binder.bindAt family depth source shape (target.withRules []) = .done value
        ∧ (binder.check.checksContainer → binder.Accepts target.rules value) := by
  cases depth with
  | zero => exact iff_of_false (fun same => by cases same) (fun both => by cases both.1)
  | succ depth =>
    have part : FiltersPart binder (binder.bindAt family depth) element target fun _ => True := by
      intro view child item
      unfold elementTarget
      split
      · rw [bindAt_composite_withRules resolved builtin,
          bindAt_composite_withRules resolved builtin, and_true]
      · rw [and_true]
    rw [bindAt_container_filters container part]
    simp only [implies_true, true_and]

/-- In a container that is bound under a check of elements, the rules accept each element that they
see. -/
theorem accepts_of_mem_elements (container : (shape.resolve family).element? = some element)
    (checked : binder.check.checksElements) (heeds : Heeds binder family element)
    (bound : binder.bindAt family depth source shape target = .done value) :
    ∀ item ∈ value.elements, item ≠ .null → binder.Accepts target.rules item := by
  intro item mem present
  obtain ⟨inner, view, child, here⟩ := exists_part_of_bindAt_container container bound item mem
  rw [elementTarget, if_pos checked] at here
  have accepted : binder.Accepts (child.withRules target.rules).rules item :=
    heeds.accepts here present
  exact accepted

/-- **Rules reach the elements of a container that are read from one text**, also where these are
optional: in a container that is bound under a check of elements, each rule accepts each of them
that is there. Elements that are composites without a converter they do not reach: such a container
is bound with rules exactly as it is without them, but for the check of the whole. Both hold to
every depth, and so in the answers of the binder. -/
theorem rules_reach_elements (binder : Binder) (family : Family) (source : Source)
    (shape element : Shape) (target : Target)
    (container : (shape.resolve family).element? = some element)
    (checked : binder.check.checksElements) :
    (Heeds binder family element →
        (∀ depth value, binder.bindAt family depth source shape target = .done value →
          ∀ item ∈ value.elements, item ≠ .null → binder.Accepts target.rules item)
        ∧ ∀ value, binder.bind family source shape target = .ok value →
          ∀ item ∈ value.elements, item ≠ .null → binder.Accepts target.rules item)
      ∧ ∀ type fields, element.resolve family = .composite type fields →
        binder.registry.converters.get? type = none →
        (∀ depth value, binder.bindAt family depth source shape target = .done value
          ↔ binder.bindAt family depth source shape (target.withRules []) = .done value
            ∧ (binder.check.checksContainer → binder.Accepts target.rules value))
        ∧ ∀ value, binder.bind family source shape target = .ok value
          ↔ binder.bind family source shape (target.withRules []) = .ok value
            ∧ (binder.check.checksContainer → binder.Accepts target.rules value) := by
  constructor
  · intro heeds
    refine ⟨fun _ _ => accepts_of_mem_elements container checked heeds, fun _ bound => ?_⟩
    exact accepts_of_mem_elements container checked heeds (bind_eq_ok_iff.1 bound)
  · intro type fields resolved builtin
    refine ⟨fun _ _ => bindAt_composites_filters container resolved builtin, fun value => ?_⟩
    rw [bind_eq_ok_iff, bind_eq_ok_iff]
    exact bindAt_composites_filters container resolved builtin

/-- The shape of one of the lists. -/
def marksShape : Shape := .sequence "Vec" (.scalar "u8" (.unsigned 8))

/-- The place of one of the lists. -/
def marksTarget : Target := (Target.new "marks.law" []).withRules [⟨"size", "3"⟩]

theorem rules_reach_elements_marks :
    (marksShape.resolve []).element? = some (.scalar "u8" (.unsigned 8))
      ∧ sizeBinder.check.checksElements
      ∧ sizeBinder.bind [] gradesStore marksShape marksTarget
        = .ok (.array [.ofInt 3, .ofInt 4])
      ∧ sizeBinder.Accepts marksTarget.rules (.ofInt 4) := by
  have heeds : Heeds sizeBinder [] (.scalar "u8" (.unsigned 8)) := .single trivial
  have bound : sizeBinder.bind [] gradesStore marksShape marksTarget
      = .ok (.array [.ofInt 3, .ofInt 4]) := by cbv
  have mem : Value.ofInt 4 ∈ (Value.array [.ofInt 3, .ofInt 4]).elements :=
    List.mem_cons_of_mem _ List.mem_cons_self
  have reached := rules_reach_elements sizeBinder [] gradesStore marksShape
    (.scalar "u8" (.unsigned 8)) marksTarget rfl rfl
  exact ⟨rfl, rfl, bound, (reached.1 heeds).2 _ bound _ mem (by simp [Value.ofInt])⟩

/-- Accepts no value. -/
def validateNever : Validator := fun _ _ => .ok false

/-- The binder that checks elements only, with a rule that accepts none. -/
def neverBinder : Binder := ⟨⟨[], [], [("never", validateNever)]⟩, .elements⟩

/-- A list of points on a line. -/
def pointsShape : Shape :=
  .sequence "Vec" (.composite "Point" [⟨"x", .nested, .scalar "i32" (.signed 32), []⟩])

/-- The properties of one point. -/
def pointsStore : Store := .ofTable [("p[0].x", "1")]

/-- The place of the points, with the rule that accepts none. -/
def pointsTarget : Target := (Target.new "p" "p").withRules [⟨"never", "r"⟩]

/-- A list of composites is bound although the rule refuses every element of it. -/
theorem composite_elements_unchecked :
    neverBinder.check.checksElements
    ∧ neverBinder.bind [] pointsStore pointsShape pointsTarget
      = .ok (.array [.object [("x", .ofInt 1)]])
    ∧ ¬ neverBinder.Accepts pointsTarget.rules (.object [("x", .ofInt 1)]) := by
  refine ⟨rfl, bind_eq_ok_iff.2 (by with_unfolding_all rfl), fun accepts => ?_⟩
  obtain ⟨validator, found, accepted⟩ := accepts ⟨"never", "r"⟩ List.mem_cons_self
  cases found
  cases accepted

end TypedConfig.Binder
