import TypedConfig.Source
import TypedConfig.Text.Blank

/-!
# The context of conditions

What conditions look at: the properties, the beans that are known by name and by type, and the
active profiles. Profiles that are not given are read from the properties.
-/

namespace TypedConfig

/-- A bean, by its name or by the name of its type. -/
inductive BeanSelector where
  | name (name : Text)
  | type (type : Text)
  deriving DecidableEq

/-- The text of a selector; a type stands in angle brackets. -/
def BeanSelector.text : BeanSelector → Text
  | .name label => label
  | .type label => "<" ++ label ++ ">"

/-- The known beans. -/
structure Beans where
  names : List Text
  types : List Text

namespace Beans

/-- No bean at all. -/
def none : Beans := ⟨[], []⟩

/-- The beans with one more, of a name and a type. -/
def insert (beans : Beans) (name type : Text) : Beans := ⟨name :: beans.names, type :: beans.types⟩

/-- Whether a selector finds a bean. -/
def contains (beans : Beans) : BeanSelector → Bool
  | .name label => beans.names.contains label
  | .type label => beans.types.contains label

end Beans

/-- What conditions are evaluated in. -/
structure Context where
  properties : Source
  beans : Beans
  profiles : Option (List Text)

namespace Context

/-- The property that lists the active profiles. -/
def profilesKey : Text := "app.profiles.active"

/-- The names in a list between commas, without blanks around them and without blank names. -/
def namesBetweenCommas (text : Text) : List Text :=
  ((text.splitOn ',').map Text.trim).filter fun name => !name.isEmpty

/-- The profiles that the properties of a source list. -/
def listedProfiles (source : Source) : List Text :=
  match source.get? profilesKey with
  | some text => namesBetweenCommas text
  | none => []

/-- The active profiles. -/
def activeProfiles (context : Context) : List Text :=
  context.profiles.getD (listedProfiles context.properties)

end Context

end TypedConfig
