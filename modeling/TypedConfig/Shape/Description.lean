import TypedConfig.Shape

/-!
# The description of shapes

The one-line text that shows a scalar type with its width.
-/

namespace TypedConfig

/-- The description of a kind of numbers, which has a width in bits. -/
def describeBits (name : Text) (bits : Nat) : Text :=
  name ++ " \x7b bits: " ++ Text.ofNat bits ++ " \x7d"

/-- The description of a scalar type. -/
def Scalar.description : Scalar → Text
  | .signed bits => describeBits "Int" bits
  | .unsigned bits => describeBits "Uint" bits
  | .float bits => describeBits "Float" bits
  | .boolean => "Bool"
  | .string => "String"

end TypedConfig
