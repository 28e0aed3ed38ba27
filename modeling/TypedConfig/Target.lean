import TypedConfig.Error

/-!
# Binding targets

A target is a place that is bound: the key of its property, its path in the bound type, the tag
that says how the property is read, and the rules that the bound value must satisfy.
-/

namespace TypedConfig

/-- The name of a validator and the rule it is given. -/
structure Rule where
  name : Text
  content : Text
  deriving DecidableEq

/-- A place that is bound. -/
structure Target where
  key : Text
  path : Text
  tag : Tag
  rules : List Rule
  deriving DecidableEq

namespace Target

/-- The key that stands for the root of the properties. -/
def rootKey : Text := "ROOT"

/-- The key of a tag that names none. -/
def anonymousKey : Text := "ANONYMOUS"

/-- The key that a tag's key stands for. -/
def effectiveKey (key : Text) : Text :=
  if key = rootKey then [] else if key = [] then anonymousKey else key

/-- The target at a key and a path, without a tag or rules. -/
def new (key path : Text) : Target := ⟨key, path, Tag.empty, []⟩

/-- The key of a place that a tag names inside the place at `key`. -/
def joinKeys (key inner : Text) : Text :=
  if key = [] then inner else if inner = [] then key else key ++ '.' :: inner

/-- The target at the place that a tag names inside it, with the tag and the rules. -/
def apply (target : Target) (tag : Tag) (rules : List Rule) : Target :=
  let key := effectiveKey tag.key
  { target with key := joinKeys target.key key, tag := { tag with key }, rules }

/-- The target at the place that the text of a tag names inside it. -/
def applyTag? (target : Target) (text : Text) (rules : List Rule) : Except PropertyError Target :=
  match Tag.ofText? text with
  | .ok tag => .ok (target.apply tag rules)
  | .error fault => .error (.malformed text (.tag fault) [])

/-- The target of the text of a tag. -/
def ofTag? (text path : Text) : Except PropertyError Target := (new [] path).applyTag? text []

/-- The target of a member. -/
def child (target : Target) (segment : Text) : Target :=
  new (Key.child target.key segment) (target.path ++ '.' :: segment)

/-- The target of an element. -/
def element (target : Target) (index : Nat) : Target :=
  new (Key.element target.key index) (Key.element target.path index)

/-- The target with rules. -/
def withRules (target : Target) (rules : List Rule) : Target := { target with rules }

/-- The target at another path. -/
def withPath (target : Target) (path : Text) : Target := { target with path }

end Target

end TypedConfig
