import TypedConfig.Document.Token
import TypedConfig.Literal.Duration
import TypedConfig.Registry
import TypedConfig.Shape

/-!
# Schemas

A schema describes a data type: how its values are bound, as a shape, and which values belong to it.
`Schema.accept?` is the second part. It takes the value that binding has produced, or that was there
before, and gives the value of the type: numbers in the type's precision, absent optional fields as
null, and fields that are not bound with their initial value.
-/

namespace TypedConfig

/-- The keys of a mapping. -/
inductive KeyKind where
  | text
  | unsigned (bits : Nat)

/-- A field of a record. A field without a binding is not bound, and a field with an initial value
may be absent. -/
structure RecordField (Content : Type) where
  name : Text
  binding : Option FieldBinding
  rules : List Rule
  content : Content
  initial : Option Value

/-- A data type; containers and records carry its name. -/
inductive Schema where
  | scalar (type : Text) (kind : Scalar)
  | duration
  /-- A type of named alternatives, which only a converter can bind. -/
  | words (type : Text) (words : List Text)
  | sequence (type : Text) (element : Schema)
  | mapping (type : Text) (keys : KeyKind) (member : Schema)
  | optional (type : Text) (inner : Schema)
  | record (type : Text) (fields : List (RecordField Schema))
  /-- The schema of a name in a family. -/
  | named (name : Text)

namespace Schema

instance : Inhabited Schema := ⟨duration⟩

mutual

/-- How the values of a type are bound. -/
def shape : Schema → Shape
  | scalar type kind => .scalar type kind
  | duration => .custom Registry.durationType
  | words type _ => .custom type
  | sequence type element => .sequence type element.shape
  | mapping type _ member => .mapping type member.shape
  | optional type inner => .optional type inner.shape
  | record type fields => .composite type (fieldShapes fields)
  | named name => .named name

/-- The fields of a record that are bound. -/
def fieldShapes : List (RecordField Schema) → List (Field Shape)
  | [] => []
  | ⟨name, some binding, rules, content, _⟩ :: fields =>
    ⟨name, binding, content.shape, rules⟩ :: fieldShapes fields
  | ⟨_, none, _, _, _⟩ :: fields => fieldShapes fields

end

/-- Whether a type has a value for what is absent. -/
def isOptional : Schema → Bool
  | optional _ _ => true
  | _ => false

/-- The number of single precision nearest to a ratio. -/
def singleOfRatio (negative : Bool) (numerator denominator : Nat) : Binary64 :=
  match BinaryFormat.single.round numerator denominator with
  | some (significand, exponent) =>
    .ofRatio negative (significand * Nat.pow 2 exponent.toNat) (Nat.pow 2 (-exponent).toNat)
  | none => .infinity negative

/-- A number in the precision of a type; an integer is rounded once. -/
def inWidth (bits : Nat) : Number → Binary64
  | .integer number =>
    if bits = 32 then singleOfRatio (number < 0) number.natAbs 1 else .ofInt number
  | .binary number =>
    if bits = 32 then
      let (significand, exponent) := number.magnitude
      singleOfRatio number.isNegative (significand * Nat.pow 2 exponent.toNat)
        (Nat.pow 2 (-exponent).toNat)
    else number

/-- The value of a number of a type; what is not finite is null. -/
def ofNumber (bits : Nat) (number : Number) : Value :=
  if (inWidth bits number).isFinite then .number (.binary (inWidth bits number)) else .null

/-- The value of a scalar type. -/
def acceptScalar? (kind : Scalar) (value : Value) : Option Value :=
  match kind, value with
  | .signed bits, .number (.integer number) =>
    if IntegerLiteral.fitsSigned bits number then some value else none
  | .unsigned bits, .number (.integer number) =>
    if 0 ≤ number && IntegerLiteral.fitsUnsigned bits number.toNat then some value else none
  | .float bits, .number number => some (ofNumber bits number)
  | .boolean, .boolean _ => some value
  | .string, .string _ => some value
  | _, _ => none

/-- The duration of whole seconds and nanoseconds. -/
def durationOf? : (seconds nanoseconds : Value) → Option Value
  | .number (.integer seconds), .number (.integer nanoseconds) =>
    if 0 ≤ seconds && 0 ≤ nanoseconds && nanoseconds < Nat.pow 2 32 then
      (Duration.ofNanoseconds? (seconds.toNat * Duration.perSecond + nanoseconds.toNat)).map
        Duration.document
    else none
  | _, _ => none

/-- The duration of an object of two members, or of a list of two numbers. -/
def acceptDuration? : Value → Option Value
  | .object [first, second] => do
    let seconds ← Table.get? "secs" [first, second]
    let nanoseconds ← Table.get? "nanos" [first, second]
    durationOf? seconds nanoseconds
  | .array [seconds, nanoseconds] => durationOf? seconds nanoseconds
  | _ => none

/-- The word that a value names: a text, or the only name of an object that holds nothing. -/
def wordOf? : Value → Option Text
  | .string word => some word
  | .object [(word, .null)] => some word
  | _ => none

/-- Whether a name can be a key of a mapping: any text, or the digits of a number in range. -/
def acceptsKey (keys : KeyKind) (name : Text) : Bool :=
  match keys with
  | .text => true
  | .unsigned bits =>
    match Document.numberOfText? name with
    | some (.integer number) => 0 ≤ number && IntegerLiteral.fitsUnsigned bits number.toNat
    | _ => false

/-- Follows a chain of names, at most `steps` of them. -/
def follow (family : Table Schema) : (steps : Nat) → Schema → Schema
  | steps + 1, named name =>
    match family.get? name with
    | some schema => follow family steps schema
    | none => named name
  | _, schema => schema

/-- The member of a mapping, its value accepted by `accept`. -/
def acceptMember? (accept : Value → Option Value) (keys : KeyKind) (entry : Text × Value) :
    Option (Text × Value) :=
  if acceptsKey keys entry.1 then (accept entry.2).map fun value => (entry.1, value) else none

/-- The member of a record for one of its fields, its value accepted by `accept`. -/
def acceptField? (accept : Schema → Value → Option Value) (members : List (Text × Value))
    (field : RecordField Schema) : Option (Text × Value) :=
  let value := match Table.get? field.name members with
    | some value => accept field.content value
    | none =>
      match field.initial with
      | some value => some value
      | none => if field.content.isOptional then some .null else none
  value.map fun value => (field.name, value)

/-- The members of a record whose fields stand in a list, one value for each field in turn. Fields
with an initial value may be absent at the end of the list. -/
def acceptList? (accept : Schema → Value → Option Value) :
    (fields : List (RecordField Schema)) → (items : List Value) → Option (List (Text × Value))
  | [], [] => some []
  | [], _ :: _ => none
  | field :: fields, [] => do
    let value ← field.initial
    let members ← acceptList? accept fields []
    pure ((field.name, value) :: members)
  | field :: fields, item :: items => do
    let value ← accept field.content item
    let members ← acceptList? accept fields items
    pure ((field.name, value) :: members)

/-- The value of a type that a value stands for, looking at most `depth` levels deep. -/
def acceptAt? (family : Table Schema) : (depth : Nat) → Schema → Value → Option Value
  | 0, _, _ => none
  | depth + 1, schema, value =>
    match follow family (family.length + 1) schema, value with
    | scalar _ kind, value => acceptScalar? kind value
    | duration, value => acceptDuration? value
    | words _ choices, value =>
      (wordOf? value).bind fun word => if choices.contains word then some (.string word) else none
    | sequence _ element, .array items =>
      (items.mapM (acceptAt? family depth element)).map .array
    | mapping _ keys member, .object members =>
      (members.mapM (acceptMember? (acceptAt? family depth member) keys)).map .object
    | optional _ _, .null => some .null
    | optional _ inner, value => acceptAt? family depth inner value
    | record _ fields, .object members =>
      (fields.mapM (acceptField? (acceptAt? family depth) members)).map .ofMembers
    | record _ fields, .array items =>
      (acceptList? (acceptAt? family depth) fields items).map .ofMembers
    | _, _ => none

/-- The value of a type that a value stands for. -/
def accept? (family : Table Schema) (schema : Schema) (value : Value) : Option Value :=
  acceptAt? family (2 * value.size + 2) schema value

end Schema

end TypedConfig
