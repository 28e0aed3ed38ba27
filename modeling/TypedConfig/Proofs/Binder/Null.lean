import Mathlib
import TypedConfig.Proofs.Binder.Filter
import TypedConfig.Proofs.Binder.Located

/-!
# What null stands for

A bound value holds null where an optional value is absent, and nowhere else: an error that calls
something missing is taken for absence only where nothing at all is configured.

* `Position`: the places inside a bound value, each with the part that was bound there.
* `not_has_of_null`: a binding gives null only where the source has nothing, by induction on the
  depth.
* `Accounted`: what holds at every position. A part is what binding its place gives, or it is the
  null of an optional value around it; `Position.accounted` carries this inwards, with one lemma for
  each kind of step.
* `null_is_absent`: null stands for what is absent, containers hold no null, and an optional value
  of which anything is configured is bound as if it were not optional.
-/

namespace TypedConfig.Binder

/-! ### Positions -/

section

variable (binder : Binder) (family : Family)

/-- Where the value of a field of a composite is bound. -/
inductive FieldPlace (source : Source) (target : Target) (field : Field Shape) : Place → Prop
  | tagged {tag : Text} {child : Target} (binding : field.binding = .tagged tag)
      (read : (Target.new target.key (fieldPath target field)).applyTag? tag field.rules
        = .ok child) :
      FieldPlace source target field ⟨source, .whole field.shape, child⟩
  | embedded {type : Text} {inner : List (Field Shape)} (binding : field.binding = .embedded)
      (resolved : field.shape.resolve family = .composite type inner) :
      FieldPlace source target field
        ⟨source, .fields inner, .new target.key (fieldPath target field)⟩
  | nested (binding : field.binding = .nested) :
      FieldPlace source target field
        ⟨source, .whole field.shape, (target.child field.name).withRules field.rules⟩

/-- The places inside a bound value, each with the part of the value that was bound there. When
fields share a name, the part is that of the last one. -/
inductive Position (root : Place) (value : Value) : Place → Value → Prop
  | whole : Position root value root value
  | element {source view : Source} {shape element : Shape} {type : Text} {target : Target}
      {items : List Value} {index : Nat} {item : Value}
      (outer : Position root value ⟨source, .whole shape, target⟩ (.array items))
      (resolved : shape.resolve family = .sequence type element)
      (found : binder.elementSource source (element.resolve family) target = .ok (some view))
      (listed : items[index]? = some item) :
      Position root value
        ⟨view, .whole element, binder.elementTarget target (target.element index)⟩ item
  | member {source : Source} {shape member : Shape} {type : Text} {target : Target}
      {members : Table Value} (name : Text) {content : Value}
      (outer : Position root value ⟨source, .whole shape, target⟩ (.object members))
      (resolved : shape.resolve family = .mapping type member)
      (listed : members.get? name = some content) :
      Position root value
        ⟨source, .whole member, binder.elementTarget target (target.child name)⟩ content
  | inner {source : Source} {shape inner : Shape} {type : Text} {target : Target} {part : Value}
      (outer : Position root value ⟨source, .whole shape, target⟩ part)
      (resolved : shape.resolve family = .optional type inner) :
      Position root value ⟨source, .whole inner, target⟩ part
  | composite {source : Source} {shape : Shape} {type : Text} {fields : List (Field Shape)}
      {target : Target} {part : Value}
      (outer : Position root value ⟨source, .whole shape, target⟩ part)
      (resolved : shape.resolve family = .composite type fields)
      (builtin : binder.registry.converters.get? type = none) :
      Position root value ⟨source, .fields fields, target⟩ part
  | field {source : Source} (front : List (Field Shape)) {back : List (Field Shape)}
      {field : Field Shape} {target : Target} {members : Table Value} {place : Place}
      {content : Value}
      (outer : Position root value ⟨source, .fields (front ++ field :: back), target⟩
        (.object members))
      (last : field.name ∉ back.map Field.name)
      (bound : FieldPlace family source target field place)
      (listed : members.get? field.name = some content) :
      Position root value place content

/-- What binding at a place gives. -/
def Place.outcome (depth : Nat) (place : Place) : Outcome Value :=
  match place.subject with
  | .whole shape => binder.bindAt family depth place.source shape place.target
  | .fields fields => binder.bindCompositeAt family depth place.source fields place.target

/-- A part is what binding at its place gives, or null where the source has nothing. -/
def Accounted (place : Place) (part : Value) : Prop :=
  (∃ depth, place.outcome binder family depth = .done part)
    ∨ part = .null ∧ ¬ place.source.has place.target.key

end

variable {binder : Binder} {family : Family} {source view : Source} {shape entry : Shape}
  {target : Target} {depth : Nat} {value part : Value} {root place : Place} {type : Text}
  {bind : BindPart}

/-! ### Where null comes from -/

theorem bindCompositeAt_ne_null {fields : List (Field Shape)} :
    binder.bindCompositeAt family depth source fields target ≠ .done .null := by
  intro bound
  cases depth with
  | zero => cases bound
  | succ depth =>
    rw [bindCompositeAt] at bound
    obtain ⟨members, same, -⟩ := exists_of_bindFields_eq_done bound
    cases same

/-- An optional value is that of its shape, or null where the source has nothing. -/
theorem cases_of_bindOptional_eq_done (bound : bindOptional bind source entry target = .done part) :
    bind source entry target = .done part ∨ part = .null ∧ ¬ source.has target.key := by
  unfold bindOptional at bound
  split at bound
  next error _ =>
    split_ifs at bound with absent
    cases bound
    rw [Bool.and_eq_true, Bool.not_eq_true', Bool.eq_false_iff] at absent
    exact .inr ⟨rfl, absent.2⟩
  next => exact .inl bound

/-- **A binding gives null only where the source has nothing.** -/
theorem not_has_of_null (nullFree : NullFree binder.registry)
    (bound : binder.bindAt family depth source shape target = .done .null) :
    ¬ source.has target.key := by
  induction depth generalizing source shape target with
  | zero => cases bound
  | succ depth ih =>
    have leaf (reads : binder.ReadsText (shape.resolve family)) : False := by
      rw [bindAt_of_readsText reads] at bound
      exact ne_null_of_bindLeaf nullFree (Outcome.eq_ok_of_ofExcept bound) rfl
    cases resolved : shape.resolve family with
    | scalar | custom | named => exact (leaf (resolved ▸ trivial)).elim
    | sequence type element =>
      rw [bindAt_sequence resolved] at bound
      obtain ⟨items, same, -⟩ := exists_of_bindSequence_eq_done bound
      cases same
    | mapping type member =>
      rw [bindAt_mapping resolved] at bound
      obtain ⟨members, same, -⟩ := exists_of_bindMapping_eq_done bound
      cases same
    | composite type fields =>
      rw [bindAt, resolved] at bound
      dsimp only at bound
      split_ifs at bound with converted
      · exact (leaf (resolved ▸ converted)).elim
      · exact absurd bound bindCompositeAt_ne_null
    | optional type inner =>
      rw [bindAt_optional resolved] at bound
      rcases cases_of_bindOptional_eq_done bound with here | ⟨-, absent⟩
      · exact ih here
      · exact absent

/-- What a container lists is there, and so its parts are not null. -/
theorem null_not_mem_elements (nullFree : NullFree binder.registry)
    (container : (shape.resolve family).element? ≠ none)
    (bound : binder.bindAt family depth source shape target = .done part) :
    .null ∉ part.elements := by
  have key (child : Target) := (binder.elementTarget_place target child).1
  intro mem
  cases depth with
  | zero => cases bound
  | succ depth =>
    cases resolved : shape.resolve family with
    | sequence type element =>
      rw [bindAt_sequence resolved] at bound
      obtain ⟨items, rfl, each⟩ := exists_of_bindSequence_eq_done bound
      obtain ⟨index, listed⟩ := List.mem_iff_getElem?.1 mem
      obtain ⟨view, -, present, here⟩ := each _ index listed
      have absent := not_has_of_null nullFree here
      rw [key] at absent
      exact absent present
    | mapping type member =>
      rw [bindAt_mapping resolved] at bound
      obtain ⟨members, rfl, -, each⟩ := exists_of_bindMapping_eq_done bound
      obtain ⟨⟨name, content⟩, listed, rfl⟩ := List.mem_map.1 mem
      obtain ⟨present, here⟩ := each name _ listed
      have absent := not_has_of_null nullFree here
      rw [key] at absent
      exact absent present
    | scalar | custom | named | optional | composite =>
      rw [resolved] at container
      exact container rfl

/-! ### From a place to a place inside -/

theorem Accounted.not_has (nullFree : NullFree binder.registry)
    (accounted : Accounted binder family place .null) : ¬ place.source.has place.target.key := by
  obtain ⟨source, subject, target⟩ := place
  rcases accounted with ⟨depth, bound⟩ | ⟨-, absent⟩
  · cases subject with
    | whole shape => exact not_has_of_null nullFree bound
    | fields fields => exact absurd bound bindCompositeAt_ne_null
  · exact absent

theorem Accounted.element {items : List Value} {index : Nat} {item : Value}
    (accounted : Accounted binder family ⟨source, .whole shape, target⟩ (.array items))
    (resolved : shape.resolve family = .sequence type entry)
    (found : binder.elementSource source (entry.resolve family) target = .ok (some view))
    (listed : items[index]? = some item) :
    Accounted binder family
      ⟨view, .whole entry, binder.elementTarget target (target.element index)⟩ item := by
  rcases accounted with ⟨_ | depth, bound⟩ | ⟨same, -⟩
  · cases bound
  · refine .inl ⟨depth, ?_⟩
    obtain ⟨others, same, each⟩ :=
      exists_of_bindSequence_eq_done ((bindAt_sequence resolved).symm.trans bound)
    cases same
    obtain ⟨other, sought, -, here⟩ := each item index listed
    cases found.symm.trans sought
    exact here
  · cases same

theorem Accounted.member {name : Text} {members : Table Value} {content : Value}
    (accounted : Accounted binder family ⟨source, .whole shape, target⟩ (.object members))
    (resolved : shape.resolve family = .mapping type entry)
    (listed : members.get? name = some content) :
    Accounted binder family
      ⟨source, .whole entry, binder.elementTarget target (target.child name)⟩ content := by
  rcases accounted with ⟨_ | depth, bound⟩ | ⟨same, -⟩
  · cases bound
  · refine .inl ⟨depth, ?_⟩
    obtain ⟨others, same, -, each⟩ :=
      exists_of_bindMapping_eq_done ((bindAt_mapping resolved).symm.trans bound)
    cases same
    exact (each name content (Table.mem_of_get? listed)).2
  · cases same

theorem Accounted.inner {inner : Shape}
    (accounted : Accounted binder family ⟨source, .whole shape, target⟩ part)
    (resolved : shape.resolve family = .optional type inner) :
    Accounted binder family ⟨source, .whole inner, target⟩ part := by
  rcases accounted with ⟨_ | depth, bound⟩ | absent
  · cases bound
  · refine (cases_of_bindOptional_eq_done ((bindAt_optional resolved).symm.trans bound)).imp_left ?_
    exact fun here => ⟨depth, here⟩
  · exact .inr absent

theorem Accounted.composite {fields : List (Field Shape)}
    (accounted : Accounted binder family ⟨source, .whole shape, target⟩ part)
    (resolved : shape.resolve family = .composite type fields)
    (builtin : binder.registry.converters.get? type = none) :
    Accounted binder family ⟨source, .fields fields, target⟩ part := by
  rcases accounted with ⟨_ | depth, bound⟩ | absent
  · cases bound
  · refine .inl ⟨depth, ?_⟩
    have bound : binder.bindAt family (depth + 1) source shape target = .done part := bound
    rw [bindAt, resolved] at bound
    dsimp only at bound
    rwa [builtin, Option.isSome_none, if_neg Bool.false_ne_true] at bound
  · exact .inr absent

theorem Accounted.field {front back : List (Field Shape)} {field : Field Shape}
    {members : Table Value} {content : Value}
    (accounted : Accounted binder family ⟨source, .fields (front ++ field :: back), target⟩
      (.object members))
    (last : field.name ∉ back.map Field.name) (bound : FieldPlace family source target field place)
    (listed : members.get? field.name = some content) :
    Accounted binder family place content := by
  rcases accounted with ⟨_ | depth, whole⟩ | ⟨same, -⟩
  · cases whole
  · refine .inl ⟨depth, ?_⟩
    have whole : binder.bindCompositeAt family (depth + 1) source (front ++ field :: back) target
      = .done (.object members) := whole
    rw [bindCompositeAt] at whole
    obtain ⟨others, same, -, -, each⟩ := exists_of_bindFields_eq_done whole
    cases same
    obtain ⟨other, found, here⟩ := each front field back rfl last
    cases found.symm.trans listed
    unfold bindField at here
    cases bound with
    | tagged binding read =>
      rw [binding] at here
      dsimp only at here
      rw [← fieldPath, read] at here
      exact here
    | embedded binding resolved =>
      rw [binding, resolved] at here
      exact here
    | nested binding =>
      rw [binding] at here
      exact here
  · cases same

/-- **At every position stands what binding gives there**, or the null of an absent value. -/
theorem Position.accounted (accounted : Accounted binder family root value)
    (position : Position binder family root value place part) :
    Accounted binder family place part := by
  induction position with
  | whole => exact accounted
  | element _ resolved found listed ih => exact ih.element resolved found listed
  | member _ _ resolved listed ih => exact ih.member resolved listed
  | inner _ resolved ih => exact ih.inner resolved
  | composite _ resolved builtin ih => exact ih.composite resolved builtin
  | field _ _ last bound listed ih => exact ih.field last bound listed

/-- A position sees every key that is there outside. -/
theorem Position.has (position : Position binder family root value place part) {key : Text}
    (present : root.source.has key) : place.source.has key := by
  induction position with
  | whole => exact present
  | element _ _ found _ ih => exact has_of_elementSource found ih
  | member _ _ _ _ ih | inner _ _ ih | composite _ _ _ ih => exact ih
  | field _ _ _ bound _ ih => cases bound <;> exact ih

/-! ### Every position -/

/-- **Null stands for what is absent.** At every position of a bound value that holds null, nothing
is configured at the key of the position, neither where the part was looked for nor in the whole
source; lists and mappings hold no null; and an optional value of which anything is configured is
bound, with success or with an error, as it would be if it were not optional. -/
theorem null_is_absent (binder : Binder) (family : Family) (source : Source) (shape : Shape)
    (target : Target) (nullFree : NullFree binder.registry) :
    (∀ value, (∃ depth, binder.bindAt family depth source shape target = .done value)
          ∨ binder.bind family source shape target = .ok value →
        ∀ place part, Position binder family ⟨source, .whole shape, target⟩ value place part →
          (part = .null →
            ¬ place.source.has place.target.key ∧ ¬ source.has place.target.key)
          ∧ ∀ container, place.subject = .whole container →
              (container.resolve family).element? ≠ none → .null ∉ part.elements)
      ∧ ∀ depth type inner, shape.resolve family = .optional type inner → source.has target.key →
          binder.bindAt family (depth + 1) source shape target
            = binder.bindAt family depth source inner target := by
  constructor
  · intro value bound place part position
    have whole : Accounted binder family ⟨source, .whole shape, target⟩ value := by
      rcases bound with ⟨depth, bound⟩ | bound
      · exact .inl ⟨depth, bound⟩
      · obtain ⟨depth, settled⟩ := bind_settles (ends_of_bind_eq_ok bound)
        rw [bound] at settled
        exact .inl ⟨depth, settled depth (Nat.le_refl depth)⟩
    have accounted := position.accounted whole
    constructor
    · rintro rfl
      have absent := accounted.not_has nullFree
      exact ⟨absent, fun present => absent (position.has present)⟩
    · rintro container same isContainer
      obtain ⟨view, subject, child⟩ := place
      cases same
      rcases accounted with ⟨depth, here⟩ | ⟨rfl, -⟩
      · exact null_not_mem_elements nullFree isContainer here
      · exact List.not_mem_nil
  · intro depth type inner resolved present
    rw [bindAt_optional resolved]
    unfold bindOptional
    split
    next error failed => rw [if_neg (by simp [present]), failed]
    next => rfl

/-- The shape of a certificate, which need not have a key. -/
def tlsShape : Shape :=
  .composite "Tls" [⟨"cert", .nested, .scalar "String" .string, []⟩,
    ⟨"key", .tagged "$\x7bpem\x7d", .optional "Option" (.scalar "String" .string), []⟩]

/-- The shape of a service with parts that need not be there. -/
def serviceShape : Shape :=
  .composite "Service" [
    ⟨"hosts", .nested, .mapping "Map" (.composite "Host" [
      ⟨"up", .nested, .optional "Option" (.scalar "bool" .boolean), []⟩]), []⟩,
    ⟨"ports", .nested, .sequence "Vec" (.optional "Option" (.scalar "u8" (.unsigned 8))), []⟩,
    ⟨"tls", .nested, .optional "Option" tlsShape, []⟩]

/-- The properties of a service in two stores, with its ports in one text. -/
def serviceSource : Source :=
  .overlay (.ofTable [("svc.tls.cert", "c")])
    (.plain (.ofTable [("svc.hosts.a.weight", "1"), ("svc.ports", "80, 81")]))

/-- The value of the service: a host does not say whether it is up, and the certificate has no
key. -/
def serviceValue : Value :=
  .object [("hosts", .object [("a", .object [("up", .null)])]),
    ("ports", .array [.ofInt 80, .ofInt 81]),
    ("tls", .object [("cert", .string "c"), ("key", .null)])]

/-- What is bound in the service: a subject at a target, with its part of the value. -/
def InService (subject : Subject) (target : Target) (part : Value) : Prop :=
  Position Binder.standard [] ⟨serviceSource, .whole serviceShape, .new "svc" "s"⟩ serviceValue
    ⟨serviceSource, subject, target⟩ part

theorem null_is_absent_service :
    NullFree Binder.standard.registry
      ∧ Binder.standard.bindAt [] 10 serviceSource serviceShape (.new "svc" "s")
        = .done serviceValue
      ∧ ¬ serviceSource.has "svc.hosts.a.up"
      ∧ ¬ serviceSource.has "svc.tls.pem"
      ∧ .null ∉ [Value.ofInt 80, .ofInt 81]
      ∧ serviceSource.has "svc.hosts.a"
      ∧ Binder.standard.bindAt [] 6 serviceSource (.optional "Option" tlsShape)
          (.new "svc.hosts.a" "t") = .failed (.notExist "svc.hosts.a.cert" "t.cert") := by
  have bound : Binder.standard.bindAt [] 10 serviceSource serviceShape (.new "svc" "s")
      = .done serviceValue := by with_unfolding_all rfl
  have present : serviceSource.has "svc.hosts.a" := by decide
  obtain ⟨absent, -⟩ := null_is_absent Binder.standard [] serviceSource serviceShape
    (.new "svc" "s") nullFree_standard
  have service : InService (.fields _) (.new "svc" "s") serviceValue := .composite .whole rfl rfl
  have hosts : InService _ _ _ := .field [] service (by decide) (.nested rfl) rfl
  have host : InService _ _ _ := .composite (.member "a" hosts rfl rfl) rfl rfl
  have up : InService _ _ .null := .field [] host (by decide) (.nested rfl) rfl
  have ports : InService _ _ (.array [.ofInt 80, .ofInt 81]) :=
    .field [_] service (by decide) (.nested rfl) rfl
  have tls : InService _ _ _ := .field [_, _] service (by decide) (.nested rfl) rfl
  have key : InService _ _ .null :=
    .field [_] (.composite (.inner tls rfl) rfl rfl) (by decide) (.tagged rfl rfl) rfl
  refine ⟨nullFree_standard, bound, ?_, ?_, ?_, present, ?_⟩
  · exact ((absent _ (.inl ⟨10, bound⟩) _ _ up).1 rfl).2
  · exact ((absent _ (.inl ⟨10, bound⟩) _ _ key).1 rfl).2
  · exact (absent _ (.inl ⟨10, bound⟩) _ _ ports).2 _ rfl (by decide)
  · have asked := (null_is_absent Binder.standard [] serviceSource (.optional "Option" tlsShape)
      (.new "svc.hosts.a" "t") nullFree_standard).2 5 _ _ rfl present
    exact asked.trans (by with_unfolding_all rfl)

end TypedConfig.Binder
