import TypedConfig.Error
import TypedConfig.Table

/-!
# The property store

A store keeps texts under keys, sorted by key. The keys describe a tree: a key with a value is a
leaf, and a container is whatever some key continues with a dot or an index. `Store.set` keeps
leaves and containers apart.

* `Store.set` writes one property, or says why it cannot stand at its key.
* `Store.setAll` writes properties one after the other up to the first that cannot be written; it
  gives the store that has been reached then, and the error.
* `Store.has`, `Store.get?` and `Store.members?` are the views of a store.
-/

namespace TypedConfig

/-- Texts under keys, the keys strictly increasing. -/
structure Store where
  entries : Table Text
  sorted : entries.Sorted

namespace Store

/-- The store without properties. -/
def empty : Store := ⟨[], Table.sorted_nil⟩

instance : Inhabited Store := ⟨empty⟩

/-- The number of properties. -/
def size (store : Store) : Nat := store.entries.length

/-- The length of all keys and values together. -/
def weight (store : Store) : Nat :=
  store.entries.foldr (fun entry total => entry.1.length + entry.2.length + total) 0

/-- The value under a key. -/
def get? (store : Store) (key : Text) : Option Text := store.entries.get? key

/-- The keys inside a container; the empty text names the root, which contains every key. -/
def keysBelow (store : Store) (top : Text) : List Text :=
  store.entries.names.filter fun key => if top = [] then key != [] else Key.isBelow top key

/-- Whether a key is a container. -/
def hasBelow (store : Store) (top : Text) : Bool := !(store.keysBelow top).isEmpty

/-- Whether a key holds a value or is a container. -/
def has (store : Store) (key : Text) : Bool := (store.get? key).isSome || store.hasBelow key

/-- The name of the member of the container `top` that a key below it belongs to; a key that goes
on with an index belongs to none. -/
def memberName? (top key : Text) : Option Text :=
  if top = [] then some (Key.firstName key)
  else match Key.suffixBelow? top key with
    | some ('.' :: rest) => some (Key.firstName rest)
    | _ => none

/-- The names of a list, sorted and without repetition. -/
def sortedNames (names : List Text) : List Text :=
  (Table.ofList (names.map fun name => (name, ()))).names

/-- The names of the members of a container, sorted; a key with a value has no members. -/
def members? (store : Store) (top : Text) : Except PropertyError (List Text) :=
  if (store.get? top).isSome then .error (.conflict top .valueHere)
  else .ok (sortedNames ((store.keysBelow top).filterMap (memberName? top)))

/-- The store with a value under a key, whatever else it holds. -/
def insert (store : Store) (key value : Text) : Store :=
  ⟨store.entries.insert key value, Table.sorted_insert store.sorted key value⟩

/-- The store with a value under a key. The key must be well formed, no container around it may
hold a value, and it may not be a container itself. -/
def set (store : Store) (key value : Text) : Except PropertyError Store :=
  match Key.containers? key with
  | .error fault => .error (.malformed key (.key fault) [])
  | .ok containers =>
    match containers.find? fun container => (store.get? container).isSome with
    | some container => .error (.conflict key (.valueAbove container))
    | none =>
      if (store.get? key).isNone && store.hasBelow key then
        .error (.conflict key (.containerHere key))
      else .ok (store.insert key value)

/-- The store with a list of properties, up to the first that cannot be written. -/
def setAll : (store : Store) → List (Text × Text) → Store × Option PropertyError
  | store, [] => (store, none)
  | store, (key, value) :: entries =>
    match store.set key value with
    | .ok store => setAll store entries
    | .error error => (store, some error)

/-- The store of a list of properties, or the error of the first that cannot be written. -/
def ofList? (entries : List (Text × Text)) : Except PropertyError Store :=
  match empty.setAll entries with
  | (store, none) => .ok store
  | (_, some error) => .error error

/-- The store of a table, whose keys are not examined. -/
def ofTable (entries : List (Text × Text)) : Store :=
  ⟨Table.ofList entries, Table.sorted_ofList entries⟩

/-- The store with the properties of another one, in the order of their keys. -/
def merge (store other : Store) : Store × Option PropertyError := store.setAll other.entries

end Store

end TypedConfig
