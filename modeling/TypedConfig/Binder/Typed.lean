import TypedConfig.Binder.Basic
import TypedConfig.Schema

/-!
# Binding data types

A `Described` type comes with its shape, the reading of a bound value and the writing of its data,
which both can fail. `Binder.bindAs` binds data of such a type; `Binder.bindInto` lays what is
configured over data that is there already. The path of a binding starts with the short name of the
type.
-/

namespace TypedConfig

/-- A type whose data can be bound. -/
structure Described (Data : Type) where
  typeName : Text
  family : Family
  shape : Shape
  ofValue? : Value → Option Data
  toValue : Data → Value
  isWritable : Data → Bool := fun _ => true

/-- The value that data is written as, if it can be written. -/
def Described.written? {Data : Type} (described : Described Data) (data : Data) : Option Value :=
  if described.isWritable data then some (described.toValue data) else none

/-- The type of a schema, its data being the values that the schema accepts. -/
def Schema.described (family : Table Schema) (typeName : Text) (schema : Schema) :
    Described Value where
  typeName := typeName
  family := family.map fun entry => (entry.1, entry.2.shape)
  shape := schema.shape
  ofValue? := schema.accept? family
  toValue := id

/-- A shape as a type of its own, its data being the values that are bound. -/
def Shape.described (family : Family) (shape : Shape) : Described Value where
  typeName := shape.typeName
  family := family
  shape := shape
  ofValue? := some
  toValue := id

/-- The part of a text behind the last occurrence of a mark. -/
def afterLast (text mark : Text) : Text :=
  match text.cutLast? mark with
  | some (_, after) => after
  | none => text

/-- The name of a type without its parameters and the modules it stands in. -/
def shortTypeName (typeName : Text) : Text := afterLast (typeName.takeWhile (· != '<')) "::"

namespace Binder

variable {Data : Type}

/-- The data that a bound value stands for. -/
def read (described : Described Data) (target : Target) (value : Value) :
    Except PropertyError Data :=
  match described.ofValue? value with
  | some data => .ok data
  | none => .error (.conversion target.key target.path described.typeName value.text none)

/-- Binds data at a target. -/
def bindTarget (binder : Binder) (described : Described Data) (source : Source) (target : Target) :
    Except PropertyError Data :=
  match binder.bind described.family source described.shape target with
  | .ok value => read described target value
  | .error error => .error error

/-- Binds data at the place that a tag names. -/
def bindAs (binder : Binder) (described : Described Data) (source : Source) (tag : Text) :
    Except PropertyError Data :=
  match Target.ofTag? tag (shortTypeName described.typeName) with
  | .ok target => binder.bindTarget described source target
  | .error error => .error error

/-- The data that results from laying what is bound at the place of a tag over current data. -/
def overlaid (binder : Binder) (described : Described Data) (source : Source) (tag : Text)
    (current : Data) : Except PropertyError Data :=
  match Target.ofTag? tag (shortTypeName described.typeName) with
  | .error error => .error error
  | .ok target =>
    match binder.bind described.family source described.shape target with
    | .error error => .error error
    | .ok bound =>
      match described.written? current with
      | none => .error (.conversion target.key target.path described.typeName [] none)
      | some former => read described target (former.merge bound)

/-- Lays what is bound at the place of a tag over current data, and keeps the data as it is when
that fails: the data afterwards, and the error. -/
def bindInto (binder : Binder) (described : Described Data) (source : Source) (tag : Text)
    (current : Data) : Data × Option PropertyError :=
  match binder.overlaid described source tag current with
  | .ok data => (data, none)
  | .error error => (current, some error)

end Binder

end TypedConfig
