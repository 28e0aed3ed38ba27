import TypedConfig.Shape

/-!
# The shapes that a shape leads to

Binding a shape goes on with its inner shapes, each of which may be the name of another shape of
the family. All shapes that come up in this way stand in one finite list.

* `inner`: the shapes that a shape is directly made of.
* `parts`: a shape and all shapes inside it, as many as `Shape.size` counts.
* `Family.Reaches`: binding one shape may come to another.
* `Family.scope`: the parts of a shape and of the shapes of a family. `inner_mem_scope` says that
  the list is closed under looking up a name and going on with an inner shape.
-/

namespace TypedConfig

namespace Shape

/-- The shapes that a shape is directly made of. -/
def inner : Shape → List Shape
  | scalar _ _ | custom _ | named _ => []
  | sequence _ element => [element]
  | mapping _ member => [member]
  | optional _ content => [content]
  | composite _ fields => fields.map Field.shape

mutual

/-- A shape and all shapes inside it. -/
def parts : Shape → List Shape
  | scalar type kind => [scalar type kind]
  | custom type => [custom type]
  | named name => [named name]
  | sequence type element => sequence type element :: element.parts
  | mapping type member => mapping type member :: member.parts
  | optional type content => optional type content :: content.parts
  | composite type fields => composite type fields :: fieldsParts fields

/-- The parts of the shapes of fields. -/
def fieldsParts : List (Field Shape) → List Shape
  | [] => []
  | ⟨_, _, shape, _⟩ :: fields => shape.parts ++ fieldsParts fields

end

theorem mem_parts_self (shape : Shape) : shape ∈ shape.parts := by
  cases shape <;> exact List.mem_cons_self

mutual

theorem length_parts : (shape : Shape) → shape.parts.length = shape.size
  | scalar _ _ | custom _ | named _ => rfl
  | sequence _ element => by
    rw [parts, size, List.length_cons, length_parts element, Nat.add_comm]
  | mapping _ member => by
    rw [parts, size, List.length_cons, length_parts member, Nat.add_comm]
  | optional _ content => by
    rw [parts, size, List.length_cons, length_parts content, Nat.add_comm]
  | composite _ fields => by
    rw [parts, size, List.length_cons, length_fieldsParts fields, Nat.add_comm]

theorem length_fieldsParts :
    (fields : List (Field Shape)) → (fieldsParts fields).length = fieldsSize fields
  | [] => rfl
  | ⟨_, _, shape, _⟩ :: fields => by
    rw [fieldsParts, fieldsSize, List.length_append, length_parts shape, length_fieldsParts fields]

end

theorem mem_fieldsParts_of_mem {fields : List (Field Shape)} {field : Field Shape}
    (mem : field ∈ fields) : field.shape ∈ fieldsParts fields := by
  induction fields with
  | nil => cases mem
  | cons first fields ih =>
    obtain ⟨name, binding, shape, rules⟩ := first
    rw [fieldsParts, List.mem_append]
    rcases List.mem_cons.1 mem with rfl | later
    · exact .inl (mem_parts_self shape)
    · exact .inr (ih later)

/-- The inner shapes of a shape are among its parts. -/
theorem mem_parts_of_mem_inner {shape part : Shape} (mem : part ∈ shape.inner) :
    part ∈ shape.parts := by
  cases shape with
  | scalar | custom | named => cases mem
  | sequence _ _ | mapping _ _ | optional _ _ =>
    rw [List.mem_singleton.1 mem]
    exact List.mem_cons_of_mem _ (mem_parts_self _)
  | composite type fields =>
    obtain ⟨field, found, rfl⟩ := List.mem_map.1 mem
    exact List.mem_cons_of_mem _ (mem_fieldsParts_of_mem found)

mutual

/-- The inner shapes of a part are parts as well. -/
theorem inner_mem_parts : (shape : Shape) → ∀ part ∈ shape.parts, ∀ next ∈ part.inner,
    next ∈ shape.parts
  | scalar _ _ | custom _ | named _ => fun part mem next inside => by
    rw [List.mem_singleton.1 mem] at inside
    cases inside
  | sequence _ element => fun part mem next inside => by
    rcases List.mem_cons.1 mem with rfl | deeper
    · exact mem_parts_of_mem_inner inside
    · exact List.mem_cons_of_mem _ (inner_mem_parts element part deeper next inside)
  | mapping _ member => fun part mem next inside => by
    rcases List.mem_cons.1 mem with rfl | deeper
    · exact mem_parts_of_mem_inner inside
    · exact List.mem_cons_of_mem _ (inner_mem_parts member part deeper next inside)
  | optional _ content => fun part mem next inside => by
    rcases List.mem_cons.1 mem with rfl | deeper
    · exact mem_parts_of_mem_inner inside
    · exact List.mem_cons_of_mem _ (inner_mem_parts content part deeper next inside)
  | composite _ fields => fun part mem next inside => by
    rcases List.mem_cons.1 mem with rfl | deeper
    · exact mem_parts_of_mem_inner inside
    · exact List.mem_cons_of_mem _ (inner_mem_fieldsParts fields part deeper next inside)

theorem inner_mem_fieldsParts : (fields : List (Field Shape)) → ∀ part ∈ fieldsParts fields,
    ∀ next ∈ part.inner, next ∈ fieldsParts fields
  | [] => fun part mem => by cases mem
  | ⟨_, _, shape, _⟩ :: fields => fun part mem next inside => by
    rw [fieldsParts, List.mem_append] at mem ⊢
    rcases mem with here | later
    · exact .inl (inner_mem_parts shape part here next inside)
    · exact .inr (inner_mem_fieldsParts fields part later next inside)

end

end Shape

namespace Family

open Shape (follow)

/-- The parts of the shapes of a family. -/
def parts (family : Family) : List Shape := family.flatMap fun entry => entry.2.parts

theorem length_parts (family : Family) : family.parts.length = family.size := by
  induction family with
  | nil => rfl
  | cons entry family ih =>
    show (entry.2.parts ++ parts family).length = entry.2.size + size family
    rw [List.length_append, Shape.length_parts, ih]

/-- The shapes that may come up when a shape is bound. -/
def scope (family : Family) (shape : Shape) : List Shape := shape.parts ++ family.parts

theorem length_scope (family : Family) (shape : Shape) :
    (family.scope shape).length = shape.size + family.size := by
  rw [scope, List.length_append, Shape.length_parts, length_parts]

theorem mem_parts_of_get? {family : Family} {name : Text} {shape : Shape}
    (found : Table.get? name family = some shape) : shape ∈ family.parts :=
  List.mem_flatMap.2 ⟨(name, shape), Table.mem_of_get? found, shape.mem_parts_self⟩

theorem follow_mem_scope {family : Family} {root : Shape} (steps : Nat) {shape : Shape}
    (mem : shape ∈ family.scope root) : follow family steps shape ∈ family.scope root := by
  induction steps generalizing shape with
  | zero => exact mem
  | succ steps ih =>
    cases shape with
    | named name =>
      rw [follow]
      cases found : Table.get? name family with
      | some shape => exact ih (List.mem_append_right _ (mem_parts_of_get? found))
      | none => exact mem
    | scalar | custom | sequence | mapping | optional | composite => exact mem

/-- **A scope is closed**: it holds the inner shapes of what its shapes stand for. -/
theorem inner_mem_scope {family : Family} {root shape next : Shape}
    (mem : shape ∈ family.scope root) (inside : next ∈ (shape.resolve family).inner) :
    next ∈ family.scope root := by
  have followed := follow_mem_scope (family.length + 1) mem
  unfold Shape.resolve at inside
  split at inside
  next => cases inside
  next =>
    rcases List.mem_append.1 followed with here | there
    · exact List.mem_append_left _ (root.inner_mem_parts _ here next inside)
    · obtain ⟨entry, found, there⟩ := List.mem_flatMap.1 there
      have deeper := entry.2.inner_mem_parts _ there next inside
      exact List.mem_append_right _ (List.mem_flatMap.2 ⟨entry, found, deeper⟩)

/-- The shapes that binding a shape may come to: the shape itself and the inner shapes of what such a
shape stands for. -/
inductive Reaches (family : Family) (root : Shape) : Shape → Prop
  | root : Reaches family root root
  | step {shape next : Shape} (reached : Reaches family root shape)
      (inside : next ∈ (shape.resolve family).inner) : Reaches family root next

section

variable {family : Family} {root shape part : Shape} {type : Text}

theorem Reaches.sequence (reached : family.Reaches root shape)
    (resolved : shape.resolve family = .sequence type part) : family.Reaches root part :=
  reached.step (resolved ▸ List.mem_singleton_self _)

theorem Reaches.mapping (reached : family.Reaches root shape)
    (resolved : shape.resolve family = .mapping type part) : family.Reaches root part :=
  reached.step (resolved ▸ List.mem_singleton_self _)

theorem Reaches.optional (reached : family.Reaches root shape)
    (resolved : shape.resolve family = .optional type part) : family.Reaches root part :=
  reached.step (resolved ▸ List.mem_singleton_self _)

theorem Reaches.field {fields : List (Field Shape)} {field : Field Shape}
    (reached : family.Reaches root shape) (resolved : shape.resolve family = .composite type fields)
    (mem : field ∈ fields) : family.Reaches root field.shape :=
  reached.step (resolved ▸ List.mem_map_of_mem mem)

end

theorem Reaches.trans {family : Family} {root middle shape : Shape}
    (first : family.Reaches root middle) (second : family.Reaches middle shape) :
    family.Reaches root shape := by
  induction second with
  | root => exact first
  | step _ inside ih => exact ih.step inside

theorem Reaches.mem_scope {family : Family} {root shape : Shape}
    (reached : family.Reaches root shape) : shape ∈ family.scope root := by
  induction reached with
  | root => exact List.mem_append_left _ root.mem_parts_self
  | step _ inside ih => exact inner_mem_scope ih inside

end Family

end TypedConfig
