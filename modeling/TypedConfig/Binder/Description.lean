import TypedConfig.Binder.Basic
import TypedConfig.Text.Quoted

/-!
# The description of a binder

A one-line text that names the registered functions and the treatment of containers.
-/

namespace TypedConfig

/-- The word for a treatment of containers. -/
def ContainerCheck.name : ContainerCheck → Text
  | .container => "Container"
  | .elements => "Elements"
  | .both => "Both"

namespace Binder

/-- The description of a table of registered functions. -/
def describeNames (title : Text) (names : List Text) : Text :=
  title ++ " \x7b registered: " ++ Text.bracketed (names.map Text.quoted) ++ " \x7d"

/-- The description of a binder. -/
def description (binder : Binder) : Text :=
  "Binder \x7b converters: " ++ describeNames "ConverterRegistry" binder.registry.converters.names
    ++ ", splitters: " ++ describeNames "SplitterRegistry" binder.registry.splitters.names
    ++ ", validators: " ++ describeNames "ValidatorRegistry" binder.registry.validators.names
    ++ ", container_validation: " ++ binder.check.name ++ " \x7d"

end Binder

end TypedConfig
