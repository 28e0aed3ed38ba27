import TypedConfig.Store.Basic

/-!
# Sources of properties

A source is a store, or a store laid over another source. The upper store shadows single values;
containers of both are joined.
-/

namespace TypedConfig

/-- Where properties are looked up. -/
inductive Source where
  | plain (store : Store)
  | overlay (top : Store) (base : Source)

namespace Source

instance : Coe Store Source := ⟨plain⟩

/-- The value under a key, that of the upper store first. -/
def get? : (source : Source) → (key : Text) → Option Text
  | plain store, key => store.get? key
  | overlay top base, key => (top.get? key).orElse fun _ => base.get? key

/-- Whether a key holds a value or is a container. -/
def has : (source : Source) → (key : Text) → Bool
  | plain store, key => store.has key
  | overlay top base, key => top.has key || base.has key

/-- The names of the members of a container, sorted and without repetition. -/
def members? : (source : Source) → (top : Text) → Except PropertyError (List Text)
  | plain store, top => store.members? top
  | overlay upper base, top =>
    match upper.members? top with
    | .error error => .error error
    | .ok names => (base.members? top).map fun more => Store.sortedNames (names ++ more)

/-- The number of properties, each counted in every store that holds it. -/
def size : Source → Nat
  | plain store => store.size
  | overlay top base => top.size + base.size

/-- The length of all keys and values together. -/
def weight : Source → Nat
  | plain store => store.weight
  | overlay top base => top.weight + base.weight

end Source

end TypedConfig
