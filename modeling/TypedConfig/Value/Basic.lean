import TypedConfig.Decimal.Binary
import TypedConfig.Table

/-!
# Values

A value is what a document holds and what binding produces: null, a boolean, a number, a string, a
list of values or an object of named values. The members of an object are listed by name, in the
order of a `Table`.
-/

namespace TypedConfig

/-- A number of a document: an integer, or a finite double. -/
inductive Number where
  | integer (number : Int)
  | binary (number : Binary64)
  deriving DecidableEq

/-- The value of a document or of a binding. -/
inductive Value where
  | null
  | boolean (flag : Bool)
  | number (number : Number)
  | string (text : Text)
  | array (items : List Value)
  | object (members : List (Text × Value))

namespace Value

instance : Inhabited Value := ⟨null⟩

/-- The value of an integer. -/
def ofInt (number : Int) : Value := .number (.integer number)

/-- The object of a list of members, a later one replacing an earlier one of the same name. -/
def ofMembers (members : List (Text × Value)) : Value := .object (Table.ofList members)

/-- Whether a value is null. -/
def isNull : Value → Bool
  | null => true
  | _ => false

mutual

/-- The number of scalars and containers that a value is made of. -/
def size : Value → Nat
  | null => 1
  | boolean _ => 1
  | number _ => 1
  | string _ => 1
  | array items => 1 + itemsSize items
  | object members => 1 + membersSize members

/-- The sizes of a list of values, summed. -/
def itemsSize : List Value → Nat
  | [] => 0
  | item :: items => item.size + itemsSize items

/-- The sizes of a list of members, summed. -/
def membersSize : List (Text × Value) → Nat
  | [] => 0
  | (_, value) :: members => value.size + membersSize members

end

mutual

/-- Lays a value over another: null keeps what is there, objects are joined member by member, and
anything else takes the place of the former value. -/
def mergeOver (bound : Value) (current : Value) : Value :=
  match bound with
  | null => current
  | object members =>
    match current with
    | object former => object (mergeMembers members former)
    | _ => object members
  | boolean flag => boolean flag
  | number digits => number digits
  | string text => string text
  | array items => array items

/-- Lays members over those of an object, one after the other. -/
def mergeMembers (members : List (Text × Value)) (former : List (Text × Value)) :
    List (Text × Value) :=
  match members with
  | [] => former
  | (name, value) :: members =>
    mergeMembers members
      (Table.insert name (mergeOver value ((Table.get? name former).getD null)) former)

end

/-- The value of a binding laid over a current value. -/
def merge (current bound : Value) : Value := mergeOver bound current

end Value

end TypedConfig
