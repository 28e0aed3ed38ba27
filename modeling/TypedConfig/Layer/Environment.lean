import TypedConfig.Store.Basic

/-!
# The layer of environment variables

The name of a variable becomes a key when the scope and an underscore are taken from its front: the
rest is put in small letters, and its underscores become points. Variables that have no key, or whose
key cannot be written, are passed over.
-/

namespace TypedConfig

/-- What follows the scope in the name of a variable; the empty scope holds every name. -/
def unscoped? (scope name : Text) : Option Text :=
  if scope = [] then some name
  else match name.dropStart? scope with
    | some ('_' :: rest) => some rest
    | _ => none

/-- The key of a variable; no part between underscores may be empty. -/
def variableKey? (scope name : Text) : Option Text :=
  match unscoped? scope name with
  | none => none
  | some rest =>
    if (rest.splitOn '_').any List.isEmpty then none
    else some (rest.lowerAscii.map fun char => if char = '_' then '.' else char)

/-- Variables with one more; a variable that is set already keeps its place. -/
def setInPlace (name value : Text) : List (Text × Text) → List (Text × Text)
  | [] => [(name, value)]
  | (other, old) :: assignments =>
    if other = name then (name, value) :: assignments
    else (other, old) :: setInPlace name value assignments

namespace Store

/-- The store with a variable, if it has a key that can be written. -/
def setVariable? (store : Store) (scope name value : Text) : Option Store :=
  match variableKey? scope name with
  | none => none
  | some key => (store.set key value).toOption

/-- The store with the variables of a scope, and how many of them were written. -/
def loadVariables (scope : Text) : (store : Store) → List (Text × Text) → Store × Nat
  | store, [] => (store, 0)
  | store, (name, value) :: assignments =>
    match store.setVariable? scope name value with
    | none => loadVariables scope store assignments
    | some store =>
      let (store, count) := loadVariables scope store assignments
      (store, count + 1)

end Store

end TypedConfig
