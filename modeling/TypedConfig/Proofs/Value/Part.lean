import TypedConfig.Proofs.Key.Tree
import TypedConfig.Value.Basic

/-!
# The parts of a value

A part of a value is named by the steps that lead to it: names of members and indices of items. The
same steps name a key behind a key, and a path behind a path.

* `Step.keyBehind`: the key that steps lead to.
* `Value.part?`: the part that steps lead to.
* `Value.Tidy`: the objects inside a value are tables, so that each name leads to one member.
-/

namespace TypedConfig

/-- A step from a value, or from a place of a bound type, to a part of it. -/
inductive Step where
  | name (name : Text)
  | index (index : Nat)
  deriving DecidableEq

namespace Step

/-- The written form of a step behind a path. -/
def text : Step → Text
  | name member => '.' :: member
  | index position => '[' :: (Text.ofNat position ++ [']'])

/-- The written form of steps, one after the other. -/
def pathText (steps : List Step) : Text := steps.flatMap text

theorem pathText_nil (path : Text) : path ++ pathText [] = path := List.append_nil path

theorem pathText_append (front back : List Step) :
    pathText (front ++ back) = pathText front ++ pathText back := List.flatMap_append

theorem pathText_name (path name : Text) : path ++ pathText [.name name] = path ++ '.' :: name := by
  rw [pathText, List.flatMap_singleton, text]

theorem pathText_index (path : Text) (index : Nat) :
    path ++ pathText [.index index] = Key.element path index := by
  rw [pathText, List.flatMap_singleton, text, Key.element_eq]

/-- The key that a step leads to. -/
def key (top : Text) : Step → Text
  | name member => Key.child top member
  | index position => Key.element top position

/-- The key that steps lead to. -/
def keyBehind (top : Text) (steps : List Step) : Text := steps.foldl key top

theorem keyBehind_cons (top : Text) (step : Step) (steps : List Step) :
    keyBehind top (step :: steps) = keyBehind (step.key top) steps := rfl

/-- Behind a key, the steps are written as behind a path. -/
theorem keyBehind_eq {top : Text} (inside : top ≠ []) (steps : List Step) :
    keyBehind top steps = top ++ pathText steps := by
  induction steps generalizing top with
  | nil => exact (pathText_nil top).symm
  | cons step steps ih =>
    have here : step.key top = top ++ step.text := by
      cases step with
      | name member => exact Key.child_eq inside
      | index position => exact Key.element_eq top position
    have stepInside : step.key top ≠ [] := by
      rw [here]
      exact List.append_ne_nil_of_left_ne_nil inside _
    rw [keyBehind_cons, ih stepInside, here, List.append_assoc]
    rfl

theorem within_keyBehind {top : Text} (inside : top ≠ []) (steps : List Step) :
    Key.Within top (keyBehind top steps) := by
  rw [keyBehind_eq inside]
  refine Key.within_iff_exists_append.2 ⟨pathText steps, ?_, rfl⟩
  cases steps with
  | nil => exact fun char first => nomatch first
  | cons step steps =>
    intro char first
    cases step with
    | name member =>
      cases first
      exact .inl rfl
    | index position =>
      cases first
      exact .inr rfl

end Step

namespace Value

/-- The part of a value that a step leads to. -/
def inner? : Value → Step → Option Value
  | object members, .name name => Table.get? name members
  | array items, .index index => items[index]?
  | _, _ => none

/-- The part of a value that steps lead to. -/
def part? : Value → List Step → Option Value
  | value, [] => some value
  | value, step :: steps => (value.inner? step).bind fun inner => inner.part? steps

theorem part?_nil (value : Value) : value.part? [] = some value := by
  rw [part?]

theorem part?_cons_eq_some_iff {value part : Value} {step : Step} {steps : List Step} :
    value.part? (step :: steps) = some part
      ↔ ∃ inner, value.inner? step = some inner ∧ inner.part? steps = some part := by
  rw [part?, Option.bind_eq_some_iff]

/-- The objects inside a value list their members in the order of the names, and each name once. -/
inductive Tidy : Value → Prop
  | null : Tidy null
  | boolean (flag : Bool) : Tidy (boolean flag)
  | number (digits : Number) : Tidy (number digits)
  | string (content : Text) : Tidy (string content)
  | array {items : List Value} (each : ∀ item ∈ items, Tidy item) : Tidy (array items)
  | object {members : Table Value} (sorted : members.Sorted)
      (each : ∀ member ∈ members, Tidy member.2) : Tidy (object members)

theorem Tidy.inner {members : Table Value} (tidy : Tidy (Value.object members)) {name : Text}
    {inner : Value} (found : members.get? name = some inner) : inner.Tidy := by
  cases tidy with
  | object _ each => exact each (name, inner) (Table.mem_of_get? found)

theorem Tidy.sorted {members : Table Value} (tidy : Tidy (Value.object members)) :
    members.Sorted := by
  cases tidy with
  | object sorted _ => exact sorted

end Value

end TypedConfig
