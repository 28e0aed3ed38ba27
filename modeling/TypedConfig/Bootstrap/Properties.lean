import TypedConfig.Bootstrap.Options
import TypedConfig.Condition.Context
import TypedConfig.Layer.Application
import TypedConfig.Layer.Environment
import TypedConfig.Text.Quoted
import TypedConfig.Unit.Basic

/-!
# The properties of the bootstrap

The properties of a run are layers: the files of the application, the files of the active profiles in
their order, the environment, and the overrides of the command line. Before the first layer the
environment only says which directories are searched and, together with the files, which profiles are
active; it is laid over the files afterwards, so that a variable cannot stand in the way of a file.

`properties?` gives the properties, or the error that ends the bootstrap.
-/

namespace TypedConfig.Bootstrap

/-- What ends the bootstrap. -/
inductive BootstrapError where
  | locations (error : PropertyError)
  /-- A file of the application cannot be loaded from the directories. -/
  | application (directories : List Text) (error : ResourceError)
  | nothingFound (directories : List Text)
  /-- A file of a profile cannot be loaded. -/
  | profile (error : ResourceError)
  | override (key : Text) (error : PropertyError)
  | unit (error : UnitError)
  deriving DecidableEq

namespace BootstrapError

/-- The wordings of a property error and of its cause. -/
def propertyMessages (error : PropertyError) : List Text :=
  error.message :: error.cause?.toList.map Cause.message

/-- The list of directories in a message. -/
def directoryList (directories : List Text) : Text := Text.bracketed (directories.map Text.quoted)

/-- The wordings of an error and of the causes behind it, the nearest first. -/
def messages : BootstrapError → List Text
  | locations error => propertyMessages error
  | application directories error =>
    ("loading configuration from " ++ directoryList directories) :: error.message :: error.causes
  | nothingFound directories =>
    ["no application.* file found in " ++ directoryList directories]
  | profile error => error.message :: error.causes
  | override key error => ("applying override `" ++ key ++ "`") :: propertyMessages error
  | unit error => error.message :: error.causes

end BootstrapError

/-- The base name of the files of the application. -/
def applicationName : Text := "application"

/-- The properties that the environment sets when nothing else is there. -/
def environment (options : Options) (assignments : List (Text × Text)) : Store :=
  (Store.empty.loadVariables options.variableScope assignments).1

/-- The directories that are searched: those of the options, or else those that the environment
names. -/
def locations? (binder : Binder) (options : Options) (environment : Store) :
    Except BootstrapError Locations :=
  if options.directories.isEmpty then
    (Locations.ofSource? binder environment).mapError .locations
  else .ok ⟨options.directories⟩

/-- The properties of the files of the application, at least one of which has to be there. -/
def applicationStore? (files : Files) (locations : Locations) : Except BootstrapError Store :=
  match Store.empty.loadApplication files locations applicationName [] with
  | (_, .error error) => .error (.application locations.directories error)
  | (store, .ok count) =>
    if count = 0 then .error (.nothingFound locations.directories) else .ok store

/-- The profiles whose files are loaded: those of the options, or else those that the environment or
the files list. -/
def profiles (options : Options) (environment base : Store) : List Text :=
  if options.profiles.isEmpty then Context.listedProfiles (.overlay environment base)
  else options.profiles

/-- The properties of files with those of profiles laid over them. -/
def loadProfiles? (files : Files) (locations : Locations) :
    (store : Store) → List Text → Except BootstrapError Store
  | store, [] => .ok store
  | store, profile :: profiles =>
    match store.loadApplication files locations (profileName applicationName profile) [] with
    | (_, .error error) => .error (.profile error)
    | (store, .ok _) => loadProfiles? files locations store profiles

/-- Properties with overrides laid over them. -/
def applyOverrides? : (store : Store) → List (Text × Text) → Except BootstrapError Store
  | store, [] => .ok store
  | store, (key, value) :: overrides =>
    match store.set key value with
    | .error error => .error (.override key error)
    | .ok store => applyOverrides? store overrides

/-- The properties of a run. -/
def properties? (binder : Binder) (options : Options) (assignments : List (Text × Text))
    (files : Files) : Except BootstrapError Store := do
  let environment := environment options assignments
  let locations ← locations? binder options environment
  let base ← applicationStore? files locations
  let loaded ← loadProfiles? files locations base (profiles options environment base)
  applyOverrides? (loaded.loadVariables options.variableScope assignments).1 options.overrides

/-- The context in which the units of a run are admitted. -/
def context (options : Options) (properties : Store) : Context :=
  ⟨properties, Beans.none, if options.profiles.isEmpty then none else some options.profiles⟩

end TypedConfig.Bootstrap
