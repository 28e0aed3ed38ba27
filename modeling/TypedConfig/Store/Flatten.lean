import TypedConfig.Store.Basic
import TypedConfig.Value.Printer

/-!
# Documents as properties

`Value.properties` lists the scalars of a document under their keys: members by a dot and their
name, items by their index. Nulls and empty containers leave no property. `Store.extend` writes
these properties to a store.
-/

namespace TypedConfig

namespace Value

mutual

/-- The properties of a value that stands at a key. -/
def properties (key : Text) : Value → List (Text × Text)
  | null => []
  | boolean flag => [(key, (boolean flag).text)]
  | number digits => [(key, digits.text)]
  | string content => [(key, content)]
  | array items => itemProperties key 0 items
  | object members => memberProperties key members

/-- The properties of items, the first of which has an index. -/
def itemProperties (key : Text) (index : Nat) : List Value → List (Text × Text)
  | [] => []
  | item :: items =>
    properties (Key.element key index) item ++ itemProperties key (index + 1) items

/-- The properties of members. -/
def memberProperties (key : Text) : List (Text × Value) → List (Text × Text)
  | [] => []
  | (name, value) :: members =>
    properties (Key.child key name) value ++ memberProperties key members

end

end Value

/-- The store with the properties of a document at a key, up to the first that cannot be
written. -/
def Store.extend (store : Store) (key : Text) (document : Value) : Store × Option PropertyError :=
  store.setAll (document.properties key)

end TypedConfig
