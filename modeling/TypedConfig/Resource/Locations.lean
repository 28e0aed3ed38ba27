import TypedConfig.Binder.Typed
import TypedConfig.Registry
import TypedConfig.Resource.Files
import TypedConfig.Value.Access

/-!
# The locations of resources

Resources are files below a list of directories. `Locations.locate` finds the files of one name, in
the order of the directories; `Locations.ofSource?` binds the list of directories.
-/

namespace TypedConfig

/-- The directories that are searched, in order. -/
structure Locations where
  directories : List Text
  deriving DecidableEq

namespace Locations

/-- The directory that is searched when none is configured. -/
def standard : Locations := ⟨["config/"]⟩

/-- The resources of a file name in a list of directories. -/
def locateIn (files : Files) (filename : Text) : List Text → Except ResourceError (List Resource)
  | [] => .ok []
  | directory :: directories =>
    match Resource.ofFile? files (Path.join directory filename) with
    | .error error => .error error
    | .ok found =>
      match locateIn files filename directories with
      | .error error => .error error
      | .ok resources => .ok (found.toList ++ resources)

/-- The resources of a file name, in the order of the locations. -/
def locate (locations : Locations) (files : Files) (filename : Text) :
    Except ResourceError (List Resource) :=
  locateIn files filename locations.directories

/-! ### Binding -/

/-- The list of directories and the property that it is bound from. -/
def schema : Schema :=
  .record "FileResourceLocator"
    [⟨"config_locations", some (.tagged "$\x7bapp.config.locations:=config/\x7d"), [],
      .sequence "List String" (.scalar "String" .string), none⟩]

/-- The locations that a bound value stands for. -/
def ofValue? (value : Value) : Option Locations :=
  (Schema.accept? [] schema value).bind fun accepted =>
    (accepted.member? "config_locations").map fun directories => ⟨directories.texts⟩

/-- The value of locations. -/
def toValue (locations : Locations) : Value :=
  .object [("config_locations", .array (locations.directories.map .string))]

/-- Locations as data that can be bound. -/
def described : Described Locations where
  typeName := "FileResourceLocator"
  family := []
  shape := schema.shape
  ofValue? := ofValue?
  toValue := toValue

/-- The locations that the properties of a source name. -/
def ofSource? (binder : Binder) (source : Source) : Except PropertyError Locations :=
  binder.bindAs described source "$\x7bROOT\x7d"

end Locations

end TypedConfig
