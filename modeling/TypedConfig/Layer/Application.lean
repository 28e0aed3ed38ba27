import TypedConfig.Resource.Locations

/-!
# Layers of files

Resources are laid over a store one after the other, later ones over earlier ones. An application has
a base name and profiles: the files of the base name come first, then those of each profile, and
within each of these the formats in their order.

Every function gives the store that has been reached, also when loading stops at an error.
-/

namespace TypedConfig

namespace Store

/-- The store with the properties of a resource laid over it. -/
def load (store : Store) (resource : Resource) : Store × Option ResourceError :=
  match resource.store? with
  | .error error => (store, some error)
  | .ok properties =>
    let (store, error) := store.merge properties
    (store, error.map (.store resource.name))

/-- The store with resources laid over it, up to the first that cannot be loaded. -/
def loadAll : (store : Store) → List Resource → Store × Option ResourceError
  | store, [] => (store, none)
  | store, resource :: resources =>
    match store.load resource with
    | (store, none) => loadAll store resources
    | (store, some error) => (store, some error)

/-- The store with all files of a name laid over it, and the number of these files. -/
def loadFile (store : Store) (files : Files) (locations : Locations) (filename : Text) :
    Store × Except ResourceError Nat :=
  match locations.locate files filename with
  | .error error => (store, .error error)
  | .ok resources =>
    match store.loadAll resources with
    | (store, none) => (store, .ok resources.length)
    | (store, some error) => (store, .error error)

/-- The store with all files of several names laid over it, and the number of these files. -/
def loadFiles (files : Files) (locations : Locations) :
    (store : Store) → List Text → Store × Except ResourceError Nat
  | store, [] => (store, .ok 0)
  | store, filename :: filenames =>
    match store.loadFile files locations filename with
    | (store, .error error) => (store, .error error)
    | (store, .ok count) =>
      let (store, result) := loadFiles files locations store filenames
      (store, result.map (count + ·))

end Store

/-- The names of the files of a base name, one for each format. -/
def fileNames (base : Text) : List Text :=
  Format.all.map fun format => base ++ '.' :: format.extension

/-- The base name of the files of a profile. -/
def profileName (base profile : Text) : Text := base ++ '-' :: profile

/-- The names of the files of an application, in the order in which they are loaded. -/
def applicationFiles (base : Text) (profiles : List Text) : List Text :=
  (base :: profiles.map (profileName base)).flatMap fileNames

/-- The store with the files of an application laid over it, and the number of these files. -/
def Store.loadApplication (store : Store) (files : Files) (locations : Locations) (base : Text)
    (profiles : List Text) : Store × Except ResourceError Nat :=
  store.loadFiles files locations (applicationFiles base profiles)

end TypedConfig
