import Mathlib
import TypedConfig.Proofs.Binder.Rules

/-!
# Converters and the kinds of shapes

A converter is registered for a type. Where a value of the type is read from one text, the converter
makes it, whatever kind of shape the type has. Sequences, mappings, optional values and embedded
composites are bound part by part, and no converter is looked for.

* `Converted`: what a converter gives at a target.
* `Shape.retyped`: a shape under the name of another type.
* `bindAt_retyped`, `bindField_embedded_retyped`: the name of the type of a container, an optional
  value or an embedded composite is not looked at.
* `converter_precedes`: both, for a type with a converter.
-/

namespace TypedConfig

/-- The shape under the name of another type. -/
def Shape.retyped (other : Text) : Shape → Shape
  | scalar _ kind => scalar other kind
  | custom _ => custom other
  | sequence _ element => sequence other element
  | mapping _ member => mapping other member
  | optional _ inner => optional other inner
  | composite _ fields => composite other fields
  | named name => named name

namespace Binder

variable {binder : Binder} {family : Family} {source : Source} {shape : Shape}
  {target : Target} {convert : Converter} {depth : Nat}

/-! ### What a converter gives -/

/-- A type with a converter has the values that the converter makes of texts, if the rules accept
them. -/
theorem bindLeaf_eq_ok_iff_of_converter {value : Value}
    (registered : binder.registry.converters.get? shape.typeName = some convert) :
    binder.bindLeaf source shape target = .ok value
      ↔ ∃ text, Placeholder.resolve source target = .ok text ∧ convert text = .ok value
        ∧ binder.Accepts target.rules value := by
  unfold bindLeaf conversion?
  rw [registered]
  cases Placeholder.resolve source target with
  | error error => simp
  | ok text =>
    dsimp only
    cases converted : convert text with
    | error cause =>
      refine iff_of_false (fun same => by cases same) ?_
      rintro ⟨_, same, made, -⟩
      cases same
      cases converted.symm.trans made
    | ok result =>
      show binder.validated target result = .ok value ↔ _
      rw [validated_eq_ok_iff]
      constructor
      · rintro ⟨rfl, accepted⟩
        exact ⟨text, rfl, converted, accepted⟩
      · rintro ⟨_, same, made, accepted⟩
        cases same
        cases converted.symm.trans made
        exact ⟨rfl, accepted⟩

theorem bindLeaf_of_resolve_eq_error {error : PropertyError}
    (unresolved : Placeholder.resolve source target = .error error) :
    binder.bindLeaf source shape target = .error (error.atPath target.path) := by
  rw [bindLeaf, unresolved]

theorem bindLeaf_of_convert_eq_error {text : Text} {cause : Cause}
    (registered : binder.registry.converters.get? shape.typeName = some convert)
    (resolved : Placeholder.resolve source target = .ok text)
    (refused : convert text = .error cause) :
    binder.bindLeaf source shape target
      = .error (.conversion target.key target.path shape.typeName text (some cause)) := by
  simp only [bindLeaf, conversion?, resolved, registered, refused]

/-- Behind a converter, the kind of a shape makes no difference. -/
theorem bindLeaf_eq_custom
    (registered : binder.registry.converters.get? shape.typeName = some convert) :
    binder.bindLeaf source shape target = binder.bindLeaf source (.custom shape.typeName) target := by
  unfold bindLeaf conversion?
  rw [registered, show (Shape.custom shape.typeName).typeName = shape.typeName from rfl, registered]

/-- A shape that is read from one text is bound in one step, whatever depth there is. -/
theorem bind_of_readsText (reads : binder.ReadsText (shape.resolve family)) (source : Source)
    (target : Target) :
    binder.bind family source shape target
      = binder.bindLeaf source (shape.resolve family) target := by
  have positive : depthBound family source shape target ≠ 0 :=
    Nat.mul_ne_zero (Nat.mul_ne_zero (by omega) (by omega)) (by omega)
  obtain ⟨depth, bound⟩ := Nat.exists_eq_succ_of_ne_zero positive
  rw [Binder.bind, bound, bindAt_of_readsText reads]
  cases binder.bindLeaf source (shape.resolve family) target <;> rfl

/-! ### Where no converter is looked for -/

/-- **The name of the type of a container or an optional value is not looked at.** -/
theorem bindAt_retyped (parts : ¬ binder.ReadsText (shape.resolve family))
    (converted : (binder.registry.converters.get? (shape.resolve family).typeName).isSome)
    (type : Text) :
    binder.bindAt family depth source ((shape.resolve family).retyped type) target
      = binder.bindAt family depth source shape target := by
  cases depth with
  | zero => rfl
  | succ depth =>
    cases resolved : shape.resolve family with
    | scalar | custom | named =>
      rw [resolved] at parts
      exact absurd trivial parts
    | composite name fields =>
      rw [resolved] at parts converted
      exact absurd converted parts
    | sequence name element => rw [bindAt_sequence resolved]; exact bindAt_sequence rfl
    | mapping name member => rw [bindAt_mapping resolved]; exact bindAt_mapping rfl
    | optional name inner => rw [bindAt_optional resolved]; exact bindAt_optional rfl

/-- The name of the type of an embedded composite is not looked at. -/
theorem bindField_embedded_retyped {bind : BindPart}
    {embed : Source → List (Field Shape) → Target → Outcome Value} {field : Field Shape}
    {name : Text} {fields : List (Field Shape)} (embedded : field.binding = .embedded)
    (resolved : field.shape.resolve family = .composite name fields) (type : Text) :
    bindField bind embed family source target { field with shape := .composite type fields }
      = bindField bind embed family source target field := by
  unfold bindField
  rw [embedded, resolved]
  rfl

/-! ### Types with a converter -/

/-- A result is what the converter of a type gives at a target: the value that it makes of the text
there, if all rules accept it; the error of the look-up, if there is no text; and else an error of
the conversion. -/
structure Converted (binder : Binder) (source : Source) (type : Text) (convert : Converter)
    (target : Target) (result : Except PropertyError Value) : Prop where
  value : ∀ value, result = .ok value
    ↔ ∃ text, Placeholder.resolve source target = .ok text ∧ convert text = .ok value
      ∧ binder.Accepts target.rules value
  unresolved : ∀ error, Placeholder.resolve source target = .error error →
    result = .error (error.atPath target.path)
  refused : ∀ text cause, Placeholder.resolve source target = .ok text →
    convert text = .error cause →
    result = .error (.conversion target.key target.path type text (some cause))

theorem converted_bindLeaf
    (registered : binder.registry.converters.get? shape.typeName = some convert) :
    Converted binder source shape.typeName convert target
      (binder.bindLeaf source shape target) where
  value _ := bindLeaf_eq_ok_iff_of_converter registered
  unresolved _ := bindLeaf_of_resolve_eq_error
  refused _ _ := bindLeaf_of_convert_eq_error registered

/-- **A converter takes precedence where a value is read from one text**: a scalar, a type that only
a converter can bind and a composite all have what the converter gives, as if their type had no other
handling. The types of sequences, mappings and optional values are bound as if they had no converter:
under the name of any other type they have the same outcome. -/
theorem converter_precedes (binder : Binder) (family : Family) (source : Source) (shape : Shape)
    (target : Target) (convert : Converter)
    (registered :
      binder.registry.converters.get? (shape.resolve family).typeName = some convert) :
    match shape.resolve family with
    | .sequence _ _ | .mapping _ _ | .optional _ _ => ∀ depth type,
      binder.bindAt family depth source ((shape.resolve family).retyped type) target
        = binder.bindAt family depth source shape target
    | .scalar type _ | .custom type | .composite type _ | .named type =>
      Converted binder source type convert target (binder.bind family source shape target)
        ∧ binder.bind family source shape target = binder.bindLeaf source (.custom type) target := by
  have whole (reads : binder.ReadsText (shape.resolve family)) :
      Converted binder source (shape.resolve family).typeName convert target
          (binder.bind family source shape target)
        ∧ binder.bind family source shape target
          = binder.bindLeaf source (.custom (shape.resolve family).typeName) target := by
    rw [bind_of_readsText reads]
    exact ⟨converted_bindLeaf registered, bindLeaf_eq_custom registered⟩
  have parts (other : ¬ binder.ReadsText (shape.resolve family)) (depth : Nat) (type : Text) :
      binder.bindAt family depth source ((shape.resolve family).retyped type) target
        = binder.bindAt family depth source shape target :=
    bindAt_retyped other (by rw [registered]; rfl) type
  cases resolved : shape.resolve family with
  | scalar | custom | named =>
    rw [resolved] at whole
    exact whole trivial
  | composite type fields =>
    rw [resolved] at whole registered
    exact whole (Option.isSome_iff_exists.2 ⟨convert, registered⟩)
  | sequence | mapping | optional =>
    rw [resolved] at parts
    exact parts id

/-- Makes a point of two texts with a colon between them. -/
def convertPoint : Converter := fun text =>
  match text.cut? [':'] with
  | some (x, y) => .ok (.object [("x", .string x), ("y", .string y)])
  | none => .error (.reported "bad point")

/-- The binder with a converter of points, which is also one of lists of texts. -/
def pointBinder : Binder := ⟨⟨[("Point", convertPoint), ("Vec", convertPoint)], [], []⟩, .container⟩

/-- The shape of a point. -/
def pointShape : Shape :=
  .composite "Point" [⟨"x", .nested, .scalar "i32" (.signed 32), []⟩,
    ⟨"y", .nested, .scalar "i32" (.signed 32), []⟩]

/-- The properties of a point in one text. -/
def pointStore : Store := .ofTable [("a", "1:2"), ("b", "12")]

theorem converter_precedes_point :
    pointBinder.registry.converters.get? (pointShape.resolve []).typeName = some convertPoint
      ∧ pointBinder.bind [] pointStore pointShape (.new "a" "p")
        = .ok (.object [("x", .string "1"), ("y", .string "2")])
      ∧ pointBinder.bind [] pointStore pointShape (.new "b" "p")
        = .error (.conversion "b" "p" "Point" "12" (some (.reported "bad point"))) := by
  have found : Placeholder.resolve pointStore (.new "a" "p") = .ok "1:2" := by cbv
  have other : Placeholder.resolve pointStore (.new "b" "p") = .ok "12" := by cbv
  have made := (converter_precedes pointBinder [] pointStore pointShape (.new "a" "p") convertPoint
    rfl).1
  have refused := (converter_precedes pointBinder [] pointStore pointShape (.new "b" "p")
    convertPoint rfl).1
  exact ⟨rfl, (made.value _).2 ⟨"1:2", found, rfl, accepts_nil⟩, refused.refused "12" _ other rfl⟩

/-- The shape that embeds a point. -/
def placeShape : Shape := .composite "Place" [⟨"pt", .embedded, pointShape, []⟩]

/-- The shape of a list of texts. -/
def wordsShape : Shape := .sequence "Vec" (.scalar "String" .string)

/-- A list of texts is divided although its type has a converter, and an embedded point is bound
field by field. -/
theorem parts_ignore_converter :
    (pointBinder.registry.converters.get? wordsShape.typeName = some convertPoint
        ∧ Placeholder.resolve pointStore (.new "a" "p") = .ok "1:2"
        ∧ convertPoint "1:2" = .ok (.object [("x", .string "1"), ("y", .string "2")])
        ∧ pointBinder.bind [] pointStore wordsShape (.new "a" "p") = .ok (.array [.string "1:2"]))
      ∧ pointBinder.bind [] pointStore placeShape (.new "a" "p")
        = .error (.notExist "a.x" "p.pt.x") := by
  refine ⟨⟨rfl, by cbv, rfl, by cbv⟩, ?_⟩
  have failed : pointBinder.bindAt [] (depthBound [] pointStore placeShape (.new "a" "p")) pointStore
      placeShape (.new "a" "p") = .failed (.notExist "a.x" "p.pt.x") := by with_unfolding_all rfl
  rw [Binder.bind, failed]

end Binder

end TypedConfig
