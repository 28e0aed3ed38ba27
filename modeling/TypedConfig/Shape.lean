import TypedConfig.Literal.Scalar
import TypedConfig.Target

/-!
# Shapes

A shape says how the values of a type are bound: as a scalar, as a sequence, mapping or optional
value of another shape, as a composite of named fields, or by a converter alone. Every shape but a
reference carries the name of its type, under which converters are registered.

Recursive types are families of named shapes, in which a shape refers to others by name.
-/

namespace TypedConfig

/-- Where a field takes its properties from. -/
inductive FieldBinding where
  /-- The place that a tag names, inside the place of the composite. -/
  | tagged (tag : Text)
  /-- The place of the composite itself. -/
  | embedded
  /-- The member of the composite with the field's name. -/
  | nested
  deriving DecidableEq

/-- A field of a composite. -/
structure Field (Content : Type) where
  name : Text
  binding : FieldBinding
  shape : Content
  rules : List Rule

/-- How the values of a type are bound. -/
inductive Shape where
  | scalar (type : Text) (kind : Scalar)
  /-- A type that only a converter can bind. -/
  | custom (type : Text)
  | sequence (type : Text) (element : Shape)
  | mapping (type : Text) (member : Shape)
  | optional (type : Text) (inner : Shape)
  | composite (type : Text) (fields : List (Field Shape))
  /-- The shape of a name in a family. -/
  | named (name : Text)

/-- Named shapes, which may refer to one another. -/
abbrev Family := Table Shape

namespace Shape

instance : Inhabited Shape := ⟨custom []⟩

/-- The name of the type of a shape. -/
def typeName : Shape → Text
  | scalar type _ | custom type | sequence type _ | mapping type _ | optional type _
  | composite type _ => type
  | named name => name

/-- Whether a shape is a scalar. -/
def isScalar : Shape → Bool
  | scalar _ _ => true
  | _ => false

/-- Follows a chain of names, at most `steps` of them. -/
def follow (family : Family) : (steps : Nat) → Shape → Shape
  | 0, shape => shape
  | steps + 1, named name =>
    match family.get? name with
    | some shape => follow family steps shape
    | none => named name
  | _ + 1, shape => shape

/-- The shape that a shape stands for in a family. A name without a shape, or a chain of names that
comes back to itself, stands for no type. -/
def resolve (family : Family) (shape : Shape) : Shape :=
  match follow family (family.length + 1) shape with
  | named name => custom name
  | shape => shape

mutual

/-- The number of shapes that a shape is made of. -/
def size : Shape → Nat
  | scalar _ _ => 1
  | custom _ => 1
  | named _ => 1
  | sequence _ element => 1 + element.size
  | mapping _ member => 1 + member.size
  | optional _ inner => 1 + inner.size
  | composite _ fields => 1 + fieldsSize fields

/-- The sizes of the shapes of fields, summed. -/
def fieldsSize : List (Field Shape) → Nat
  | [] => 0
  | ⟨_, _, shape, _⟩ :: fields => shape.size + fieldsSize fields

end

end Shape

/-- The number of shapes that the shapes of a family are made of. -/
def Family.size (family : Family) : Nat := family.foldr (fun entry total => entry.2.size + total) 0

end TypedConfig
