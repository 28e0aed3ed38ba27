import TypedConfig.Document.Reader
import TypedConfig.Resource.Lines
import TypedConfig.Resource.Path
import TypedConfig.Store.Flatten
import TypedConfig.Toml.Reader

/-!
# Resources

A resource is a named text, and the extension of the name tells its format. `Resource.store?` reads
the properties of a resource.
-/

namespace TypedConfig

/-- A named text. -/
structure Resource where
  name : Text
  content : Text
  deriving DecidableEq

/-- The formats of resources. -/
inductive Format where
  | properties
  | json
  | toml
  deriving DecidableEq

namespace Format

/-- The formats, in the order in which files of one name are loaded. -/
def all : List Format := [properties, json, toml]

/-- The extension of a format. -/
def extension : Format → Text
  | properties => "properties"
  | json => "json"
  | toml => "toml"

/-- The format that a name has by its extension, capital letters counting as small ones. -/
def ofName? (name : Text) : Option Format :=
  (Path.extension? name).bind fun found =>
    all.find? fun format => format.extension = found.lowerAscii

end Format

/-- Why the properties of a resource cannot be loaded. -/
inductive ResourceError where
  | unreadable (path : Text)
  | unknownFormat (name : Text)
  /-- A line of properties without a separator. -/
  | malformedLine (name : Text) (number : Nat)
  | malformedJson (name : Text)
  | malformedToml (name : Text)
  | store (name : Text) (error : PropertyError)
  deriving DecidableEq

namespace ResourceError

/-- The wording of a resource's error. -/
def message : ResourceError → Text
  | unreadable path => "cannot read `" ++ path ++ "`"
  | unknownFormat name => "unsupported configuration format for `" ++ name ++ "`"
  | malformedLine name number =>
    name ++ ":" ++ Text.ofNat number ++ ": expected `key=value` or `key: value`"
  | malformedJson name => "cannot parse JSON resource `" ++ name ++ "`"
  | malformedToml name => "cannot parse TOML resource `" ++ name ++ "`"
  | store name _ => "cannot store properties of `" ++ name ++ "`"

/-- The wordings of the causes behind an error, the nearest first. -/
def causes : ResourceError → List Text
  | store _ error => error.message :: error.cause?.toList.map Cause.message
  | _ => []

end ResourceError

namespace Resource

/-- The store of a document whose name is known. -/
def storeOf? (name : Text) (document : Value) : Except ResourceError Store :=
  match Store.empty.extend [] document with
  | (store, none) => .ok store
  | (_, some error) => .error (.store name error)

/-- The properties of a resource that is read in a format. -/
def storeAs? (resource : Resource) (format : Format) : Except ResourceError Store :=
  match format with
  | .properties =>
    match Store.ofLines? resource.content with
    | .ok store => .ok store
    | .error (.malformed number) => .error (.malformedLine resource.name number)
    | .error (.store error) => .error (.store resource.name error)
  | .json =>
    match Document.read? resource.content with
    | some document => storeOf? resource.name document
    | none => .error (.malformedJson resource.name)
  | .toml =>
    match Toml.read? resource.content with
    | some document => storeOf? resource.name document
    | none => .error (.malformedToml resource.name)

/-- The properties of a resource. -/
def store? (resource : Resource) : Except ResourceError Store :=
  match Format.ofName? resource.name with
  | some format => resource.storeAs? format
  | none => .error (.unknownFormat resource.name)

end Resource

end TypedConfig
