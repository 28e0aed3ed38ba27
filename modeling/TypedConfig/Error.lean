import TypedConfig.Key
import TypedConfig.Tag

/-!
# Errors of properties and bindings

An error is a cause, as data; its wording is one function, `message`. Errors that arise while a
value is bound carry the path of the place in the bound type, and `atPath` fills that path in where
it is still empty.
-/

namespace TypedConfig

/-! ### Literals -/

/-- The kinds of literals that a text can fail to be. -/
inductive LiteralKind where
  | integer
  | unsigned
  | float
  | boolean
  | duration
  deriving DecidableEq

/-- The name of a kind of literal. -/
def LiteralKind.name : LiteralKind → Text
  | .integer => "integer"
  | .unsigned => "unsigned integer"
  | .float => "float"
  | .boolean => "boolean"
  | .duration => "duration"

/-- The ranges that a well-formed literal can miss. -/
inductive LiteralRange where
  | signed (bits : Nat)
  | unsigned (bits : Nat)
  | float (bits : Nat)
  | duration
  deriving DecidableEq

/-- The name of a range. -/
def LiteralRange.name : LiteralRange → Text
  | .signed bits => "i" ++ Text.ofNat bits
  | .unsigned bits => "u" ++ Text.ofNat bits
  | .float bits => "f" ++ Text.ofNat bits
  | .duration => "Duration"

/-- A text that is no literal of its kind, or one whose value lies outside the range. -/
inductive LiteralError where
  | malformed (kind : LiteralKind) (input : Text)
  | outOfRange (range : LiteralRange) (input : Text)
  deriving DecidableEq

/-- The wording of a literal's error. -/
def LiteralError.message : LiteralError → Text
  | .malformed kind input => "invalid " ++ kind.name ++ " literal `" ++ input ++ "`"
  | .outOfRange range input => "`" ++ input ++ "` is out of range for " ++ range.name

/-! ### Causes -/

/-- What a converter, a splitter or a validator reports. -/
inductive Cause where
  | literal (error : LiteralError)
  /-- An expression that has no boolean value. -/
  | expression (source : Text)
  | unknownSplitter (name : Text)
  | reported (message : Text)
  deriving DecidableEq

/-- The wording of a cause. -/
def Cause.message : Cause → Text
  | .literal error => error.message
  | .expression source => "cannot evaluate `" ++ source ++ "`"
  | .unknownSplitter name => "splitter `" ++ name ++ "` is not registered"
  | .reported message => message

/-! ### Property errors -/

/-- The categories of errors. -/
inductive ErrorKind where
  /-- A property and its fallback are both absent. -/
  | notExist
  | invalidSyntax
  | conversion
  | validation
  | unsupportedShape
  | split
  | propertyConflict
  deriving DecidableEq

/-- What is malformed in a text. -/
inductive Malformation where
  | key (fault : Key.Fault)
  | tag (fault : Tag.Fault)
  | unbalancedBraces
  | nestedTooDeeply
  deriving DecidableEq

/-- The wording of a malformation. -/
def Malformation.message : Malformation → Text
  | .key fault => fault.message
  | .tag fault => fault.message
  | .unbalancedBraces => "unbalanced placeholder braces"
  | .nestedTooDeeply => "placeholder references nest too deeply"

/-- Why a property cannot stand where it is wanted. -/
inductive Conflict where
  /-- A container around the key already holds a value. -/
  | valueAbove (ancestor : Text)
  /-- The key already is a container. -/
  | containerHere (key : Text)
  /-- The key holds a value and so has no members. -/
  | valueHere
  deriving DecidableEq

/-- The wording of a conflict. -/
def Conflict.message : Conflict → Text
  | .valueAbove ancestor => "`" ++ ancestor ++ "` already holds a value"
  | .containerHere key => "`" ++ key ++ "` already has nested properties"
  | .valueHere => "property holds a value, not nested properties"

/-- The wording of a conflict at a key. -/
def Conflict.messageAt (conflict : Conflict) (key : Text) : Text :=
  "property `" ++ key ++ "` conflicts: " ++ conflict.message

/-- Why a shape cannot be bound at a target. -/
inductive Unsupported where
  | sequenceFallback
  | mappingFallback
  | compositeFallback
  /-- The members of a mapping cannot be listed. -/
  | noMembers (key : Text) (conflict : Conflict)
  | unknownType (name : Text)
  | embedded (field type : Text)
  | unknownValidator (name : Text)
  /-- A recursive shape that unfolds without end. -/
  | unending
  deriving DecidableEq

/-- The wording of an unsupported binding. -/
def Unsupported.message : Unsupported → Text
  | .sequenceFallback => "sequence can't have a non empty default value"
  | .mappingFallback => "map can't have a non empty default value"
  | .compositeFallback => "struct can't have a non empty default value"
  | .noMembers key conflict => conflict.messageAt key
  | .unknownType name => "unsupported bind type `" ++ name ++ "`"
  | .embedded field type =>
    "embedded field `" ++ field ++ "` of type `" ++ type ++ "` is not a struct"
  | .unknownValidator name => "validator `" ++ name ++ "` is not registered"
  | .unending => "shape unfolds without end"

/-- The errors of stores, tags, placeholders and bindings. -/
inductive PropertyError where
  | notExist (key path : Text)
  | malformed (input : Text) (reason : Malformation) (path : Text)
  /-- A text that its type does not accept, or a bound value that does not fit the type. -/
  | conversion (key path type value : Text) (cause : Option Cause)
  | validation (key path validator rule value : Text) (cause : Option Cause)
  | unsupported (key path : Text) (reason : Unsupported)
  | split (key path splitter : Text) (cause : Cause)
  | conflict (key : Text) (reason : Conflict)
  deriving DecidableEq

namespace PropertyError

/-- The path of the place where the error arose, empty when it is not known. -/
def path : PropertyError → Text
  | notExist _ path | malformed _ _ path | conversion _ path _ _ _ | validation _ path _ _ _ _
  | unsupported _ path _ | split _ path _ _ => path
  | conflict _ _ => []

/-- The category of the error. -/
def kind : PropertyError → ErrorKind
  | notExist _ _ => .notExist
  | malformed _ _ _ => .invalidSyntax
  | conversion _ _ _ _ _ => .conversion
  | validation _ _ _ _ _ _ => .validation
  | unsupported _ _ _ => .unsupportedShape
  | split _ _ _ _ => .split
  | conflict _ _ => .propertyConflict

/-- The error at a path, unless it has one already. -/
def atPath (path : Text) : PropertyError → PropertyError
  | notExist key [] => notExist key path
  | malformed input reason [] => malformed input reason path
  | conversion key [] type value cause => conversion key path type value cause
  | validation key [] validator rule value cause => validation key path validator rule value cause
  | unsupported key [] reason => unsupported key path reason
  | split key [] splitter cause => split key path splitter cause
  | error => error

/-- Whether the error says that a property is absent. -/
def isNotExist : PropertyError → Bool
  | notExist _ _ => true
  | _ => false

/-- The mention of a path at the end of a message. -/
def pathNote (path : Text) : Text := if path = [] then [] else " (bind " ++ path ++ ")"

/-- The wording of an error. -/
def message : PropertyError → Text
  | notExist key path => "property `" ++ key ++ "` does not exist" ++ pathNote path
  | malformed input reason path =>
    "invalid syntax in `" ++ input ++ "`: " ++ reason.message ++ pathNote path
  | conversion key path type value _ =>
    "cannot convert `" ++ value ++ "` of property `" ++ key ++ "` to " ++ type ++ pathNote path
  | validation _ path validator rule value _ =>
    "validate " ++ path ++ ": " ++ validator ++ " rule `" ++ rule ++ "` rejected value " ++ value
  | unsupported key path reason =>
    "unsupported binding for property `" ++ key ++ "`: " ++ reason.message ++ pathNote path
  | split key path splitter _ =>
    "cannot split property `" ++ key ++ "` with splitter `" ++ splitter ++ "`" ++ pathNote path
  | conflict key reason => reason.messageAt key

/-- The cause behind an error, if it has one. -/
def cause? : PropertyError → Option Cause
  | conversion _ _ _ _ cause | validation _ _ _ _ _ cause => cause
  | split _ _ _ cause => some cause
  | _ => none

end PropertyError

end TypedConfig
