import TypedConfig.Value.Basic

/-!
# Access to the parts of values

Views of a value as an object, a list, a text or a flag; a value of another kind has no parts.
-/

namespace TypedConfig.Value

/-- The members of an object. -/
def members : Value → List (Text × Value)
  | object members => members
  | _ => []

/-- The member of an object under a name. -/
def member? (value : Value) (name : Text) : Option Value := Table.get? name value.members

/-- The items of a list, if the value is one. -/
def array? : Value → Option (List Value)
  | array items => some items
  | _ => none

/-- The items of a list. -/
def items (value : Value) : List Value := value.array?.getD []

/-- The text of a string, if the value is one. -/
def string? : Value → Option Text
  | string text => some text
  | _ => none

/-- The texts in a list, values of other kinds left out. -/
def texts (value : Value) : List Text := value.items.filterMap string?

/-- Whether a value is the boolean true. -/
def isTrue : Value → Bool
  | boolean flag => flag
  | _ => false

end TypedConfig.Value
