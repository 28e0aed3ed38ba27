import TypedConfig.Binder.Outcome
import TypedConfig.Placeholder
import TypedConfig.Registry
import TypedConfig.Shape
import TypedConfig.Value.Printer

/-!
# Binding

A binder turns the properties of a source into a value of a shape, at a target.

* A leaf resolves the text of its target and converts it.
* A sequence takes the elements `key[0]`, `key[1]`, … up to the first that is missing. Without a
  first element the text at the key is divided, and the parts are laid over the source as elements.
* A mapping takes the members below the key in the order of their names.
* An optional value is null when nothing is configured at its key.
* A composite binds its fields in turn.

The rules of a target are checked on the bound value; which rules a container passes on to its
elements, and whether it is checked itself, is the binder's choice.
-/

namespace TypedConfig

/-- Whether the rules of a container apply to the container, to its elements, or to both. -/
inductive ContainerCheck where
  | container
  | elements
  | both
  deriving DecidableEq

namespace ContainerCheck

/-- Whether the container itself is checked. -/
def checksContainer : ContainerCheck → Bool
  | container | both => true
  | elements => false

/-- Whether the elements are checked. -/
def checksElements : ContainerCheck → Bool
  | elements | both => true
  | container => false

end ContainerCheck

/-- The registered functions and the treatment of rules on containers. -/
structure Binder where
  registry : Registry
  check : ContainerCheck

namespace Binder

/-- The binder with the standard registry, which checks containers as a whole. -/
def standard : Binder := ⟨Registry.standard, .container⟩

/-! ### Rules -/

/-- The error of a rule that does not accept a value. -/
def rejection (target : Target) (rule : Rule) (value : Value) (cause : Option Cause) :
    PropertyError :=
  .validation target.key target.path rule.name rule.content value.text cause

/-- Checks one rule. -/
def checkRule (binder : Binder) (target : Target) (value : Value) (rule : Rule) :
    Except PropertyError Unit :=
  match binder.registry.validators.get? rule.name with
  | none => .error (.unsupported target.key target.path (.unknownValidator rule.name))
  | some validator =>
    match validator rule.content value with
    | .ok true => .ok ()
    | .ok false => .error (rejection target rule value none)
    | .error cause => .error (rejection target rule value (some cause))

/-- Checks a list of rules, up to the first that does not accept the value. -/
def checkRules (binder : Binder) (target : Target) (value : Value) :
    List Rule → Except PropertyError Unit
  | [] => .ok ()
  | rule :: rules =>
    match binder.checkRule target value rule with
    | .ok () => checkRules binder target value rules
    | .error error => .error error

/-- The value, if the rules of the target accept it. -/
def validated (binder : Binder) (target : Target) (value : Value) : Except PropertyError Value :=
  (binder.checkRules target value target.rules).map fun () => value

/-- The value of a container, if it is not to be checked or its rules accept it. -/
def finished (binder : Binder) (target : Target) (value : Value) : Except PropertyError Value :=
  if binder.check.checksContainer then binder.validated target value else .ok value

/-- The target of an element, with the rules of its container if these apply to elements. -/
def elementTarget (binder : Binder) (parent child : Target) : Target :=
  if binder.check.checksElements then child.withRules parent.rules else child

/-! ### Leaves -/

/-- The conversion of the texts of a shape: a registered converter, else that of a scalar. -/
def conversion? (binder : Binder) (shape : Shape) : Option Converter :=
  match binder.registry.converters.get? shape.typeName with
  | some converter => some converter
  | none =>
    match shape with
    | .scalar _ kind => some fun text => (kind.read text).mapError Cause.literal
    | _ => none

/-- The value of a leaf. -/
def bindLeaf (binder : Binder) (source : Source) (shape : Shape) (target : Target) :
    Except PropertyError Value :=
  match Placeholder.resolve source target with
  | .error error => .error (error.atPath target.path)
  | .ok text =>
    match binder.conversion? shape with
    | none => .error (.unsupported target.key target.path (.unknownType shape.typeName))
    | some convert =>
      match convert text with
      | .error cause =>
        .error (.conversion target.key target.path shape.typeName text (some cause))
      | .ok value => binder.validated target value

/-! ### Sequences -/

/-- The text of a sequence that is not configured element by element: the stored text, or the
fallback, which a sequence of containers may not have. -/
def sequenceText (binder : Binder) (source : Source) (element : Shape) (target : Target) :
    Except PropertyError Text :=
  if source.has target.key then .ok ((source.get? target.key).getD [])
  else match target.tag.fallback with
    | none => .error (.notExist target.key target.path)
    | some fallback =>
      if fallback = [] then .ok []
      else if element.isScalar || (binder.registry.converters.get? element.typeName).isSome then
        .ok fallback
      else .error (.unsupported target.key target.path .sequenceFallback)

/-- The parts of the text of a sequence: those of the splitter of the tag, else those between
commas, without the blanks around them. -/
def sequenceParts (binder : Binder) (target : Target) (text : Text) :
    Except PropertyError (List Text) :=
  match target.tag.splitter with
  | none => .ok ((text.splitOn ',').map Text.trim)
  | some name =>
    let report (cause : Cause) : PropertyError := .split target.key target.path name cause
    match binder.registry.splitters.get? name with
    | none => .error (report (.unknownSplitter name))
    | some splitter => (splitter text).mapError report

/-- The properties of parts as elements of the sequence at a key, the first of which has an
index. -/
def partEntries (key : Text) (index : Nat) : List Text → List (Text × Text)
  | [] => []
  | part :: parts => (Key.element key index, part) :: partEntries key (index + 1) parts

/-- The source in which the elements of a sequence are found, or nothing when the text of the
sequence is empty. -/
def elementSource (binder : Binder) (source : Source) (element : Shape) (target : Target) :
    Except PropertyError (Option Source) :=
  if source.has (Key.element target.key 0) then .ok (some source)
  else match binder.sequenceText source element target with
    | .error error => .error error
    | .ok text =>
      if text = [] then .ok none
      else match binder.sequenceParts target text with
        | .error error => .error error
        | .ok parts =>
          match Store.ofList? (partEntries target.key 0 parts) with
          | .error error => .error (error.atPath target.path)
          | .ok store => .ok (some (.overlay store source))

/-- The indices of the elements of a sequence, up to the first that is missing. -/
def indices (source : Source) (key : Text) : List Nat :=
  (List.range (source.size + 1)).takeWhile fun index => source.has (Key.element key index)

/-! ### Containers

Each function takes the binding of the parts as an argument. -/

/-- The binding of a part. -/
abbrev BindPart := Source → Shape → Target → Outcome Value

/-- The value of a sequence. -/
def bindSequence (binder : Binder) (bind : BindPart) (family : Family) (source : Source)
    (element : Shape) (target : Target) : Outcome Value := do
  match ← .ofExcept (binder.elementSource source (element.resolve family) target) with
  | none => .ofExcept (binder.finished target (.array []))
  | some view =>
    let items ← (indices view target.key).mapM fun index =>
      bind view element (binder.elementTarget target (target.element index))
    .ofExcept (binder.finished target (.array items))

/-- The names of the members of a mapping. -/
def memberNames (source : Source) (target : Target) : Except PropertyError (List Text) :=
  if target.tag.fallback.any (· != []) then
    .error (.unsupported target.key target.path .mappingFallback)
  else match source.members? target.key with
    | .ok names => .ok names
    | .error (.conflict key reason) =>
      .error (.unsupported target.key target.path (.noMembers key reason))
    | .error error => .error error

/-- The value of a mapping. -/
def bindMapping (binder : Binder) (bind : BindPart) (source : Source) (member : Shape)
    (target : Target) : Outcome Value := do
  let names ← .ofExcept (memberNames source target)
  let members ← names.mapM fun name => do
    let value ← bind source member (binder.elementTarget target (target.child name))
    pure (name, value)
  .ofExcept (binder.finished target (.ofMembers members))

/-- The value of an optional value. -/
def bindOptional (bind : BindPart) (source : Source) (inner : Shape) (target : Target) :
    Outcome Value :=
  match bind source inner target with
  | .failed error =>
    if error.isNotExist && !source.has target.key then .done .null else .failed error
  | outcome => outcome

/-- The value of a field of a composite; `embed` binds the fields of an embedded composite. -/
def bindField (bind : BindPart) (embed : Source → List (Field Shape) → Target → Outcome Value)
    (family : Family) (source : Source) (target : Target) (field : Field Shape) : Outcome Value :=
  let path := target.path ++ '.' :: field.name
  match field.binding with
  | .tagged tag =>
    match (Target.new target.key path).applyTag? tag field.rules with
    | .ok child => bind source field.shape child
    | .error error => .failed (error.atPath path)
  | .embedded =>
    match field.shape.resolve family with
    | .composite _ fields => embed source fields (Target.new target.key path)
    | shape => .failed (.unsupported target.key path (.embedded field.name shape.typeName))
  | .nested => bind source field.shape ((target.child field.name).withRules field.rules)

/-- The value of a composite with fields. -/
def bindFields (bind : BindPart) (embed : Source → List (Field Shape) → Target → Outcome Value)
    (family : Family) (source : Source) (fields : List (Field Shape)) (target : Target) :
    Outcome Value :=
  if target.tag.fallback.any (· != []) then
    .failed (.unsupported target.key target.path .compositeFallback)
  else do
    let members ← fields.mapM fun field => do
      let value ← bindField bind embed family source target field
      pure (field.name, value)
    pure (.ofMembers members)

/-! ### Shapes -/

mutual

/-- The outcome of binding a shape to a depth. -/
def bindAt (binder : Binder) (family : Family) :
    (depth : Nat) → Source → Shape → Target → Outcome Value
  | 0, _, _, _ => .exhausted
  | depth + 1, source, shape, target =>
    match shape.resolve family with
    | .mapping _ member => binder.bindMapping (binder.bindAt family depth) source member target
    | .sequence _ element =>
      binder.bindSequence (binder.bindAt family depth) family source element target
    | .optional _ inner => bindOptional (binder.bindAt family depth) source inner target
    | .composite type fields =>
      if (binder.registry.converters.get? type).isSome then
        .ofExcept (binder.bindLeaf source (.composite type fields) target)
      else binder.bindCompositeAt family depth source fields target
    | leaf => .ofExcept (binder.bindLeaf source leaf target)

/-- The outcome of binding the fields of a composite to a depth. -/
def bindCompositeAt (binder : Binder) (family : Family) :
    (depth : Nat) → Source → List (Field Shape) → Target → Outcome Value
  | 0, _, _, _ => .exhausted
  | depth + 1, source, fields, target =>
    bindFields (binder.bindAt family depth) (binder.bindCompositeAt family depth) family source
      fields target

end

/-- A depth beyond which binding a shape can only go on without end: it grows with the texts of the
source, of which every level of a recursive shape uses up a part, and with the shapes. -/
def depthBound (family : Family) (source : Source) (shape : Shape) (target : Target) : Nat :=
  2 * (source.weight + (target.tag.fallback.getD []).length + 3) * (family.size + shape.size + 2)

/-- The value of a shape at a target. -/
def bind (binder : Binder) (family : Family) (source : Source) (shape : Shape) (target : Target) :
    Except PropertyError Value :=
  match binder.bindAt family (depthBound family source shape target) source shape target with
  | .done value => .ok value
  | .failed error => .error error
  | .exhausted => .error (.unsupported target.key target.path .unending)

end Binder

end TypedConfig
