import Mathlib.Data.List.FinRange
import Mathlib.Tactic.Choose
import TypedConfig.Binder.Basic
import TypedConfig.Proofs.Literal.Integer
import TypedConfig.Proofs.Shape.Parts
import TypedConfig.Proofs.Store.Flatten

/-!
# Values that fit a shape

`Fits` says that a document is a value of a shape in which a binder can find everything again: each
item of a sequence and each member of a mapping has a scalar to be found by, and only scalars and
sequences are optional.

* `Fits.keyed`: such a document can be written to a store.
* `Fits.exists_text`: the text of a scalar is read back.
* `Hollow.unique`: a value without a scalar is determined by its shape.
* `Fits.height_le`: a value is not higher than the texts it leaves in a store and the number of
  shapes allow. Where it has scalars every level makes the key longer, and below them no shape can
  come up twice.
-/

namespace TypedConfig

namespace Value

mutual

/-- The number of levels of a value. -/
def height : Value → Nat
  | null => 1
  | boolean _ => 1
  | number _ => 1
  | string _ => 1
  | array items => itemsHeight items + 1
  | object members => membersHeight members + 1

/-- The number of levels of the highest of the items. -/
def itemsHeight : List Value → Nat
  | [] => 0
  | item :: items => max item.height (itemsHeight items)

/-- The number of levels of the highest of the members. -/
def membersHeight : List (Text × Value) → Nat
  | [] => 0
  | (_, value) :: members => max value.height (membersHeight members)

end

theorem height_pos (value : Value) : 0 < value.height := by
  cases value <;> exact Nat.succ_pos _

theorem itemsHeight_le_iff {items : List Value} {bound : Nat} :
    itemsHeight items ≤ bound ↔ ∀ item ∈ items, item.height ≤ bound := by
  induction items with
  | nil => simp [itemsHeight]
  | cons item items ih => rw [itemsHeight, Nat.max_le, ih, List.forall_mem_cons]

theorem membersHeight_le_iff {members : List (Text × Value)} {bound : Nat} :
    membersHeight members ≤ bound ↔ ∀ member ∈ members, member.2.height ≤ bound := by
  induction members with
  | nil => simp [membersHeight]
  | cons member members ih => rw [membersHeight, Nat.max_le, ih, List.forall_mem_cons]

end Value

open Key (Within WellFormed child element isName)
open Value (Keyed HasScalar)

/-- Whether an optional value of a shape is read back: its text or its first element is found. -/
def Shape.isPlain : Shape → Bool
  | scalar _ _ | sequence _ _ => true
  | _ => false

/-- A document is a value of a shape of a family. Types without a built-in conversion do not occur,
and no converter stands in for the built-in one. -/
inductive Fits (registry : Registry) (family : Family) : Shape → Value → Prop
  | signed {shape : Shape} {type : Text} {bits : Nat} {number : Int}
      (resolved : shape.resolve family = .scalar type (.signed bits))
      (builtin : registry.converters.get? type = none) (narrow : bits ≤ 64)
      (least : -(Nat.pow 2 (bits - 1) : Int) ≤ number)
      (greatest : number < (Nat.pow 2 (bits - 1) : Int)) :
      Fits registry family shape (.number (.integer number))
  | unsigned {shape : Shape} {type : Text} {bits number : Nat}
      (resolved : shape.resolve family = .scalar type (.unsigned bits))
      (builtin : registry.converters.get? type = none) (narrow : bits ≤ 64)
      (greatest : number < Nat.pow 2 bits) :
      Fits registry family shape (.number (.integer number))
  | boolean {shape : Shape} {type : Text} {flag : Bool}
      (resolved : shape.resolve family = .scalar type .boolean)
      (builtin : registry.converters.get? type = none) : Fits registry family shape (.boolean flag)
  | string {shape : Shape} {type content : Text}
      (resolved : shape.resolve family = .scalar type .string)
      (builtin : registry.converters.get? type = none) (literal : ¬ Placeholder.occursIn content) :
      Fits registry family shape (.string content)
  | sequence {shape element : Shape} {type : Text} {items : List Value}
      (resolved : shape.resolve family = .sequence type element) (nonempty : items ≠ [])
      (found : ∀ item ∈ items, HasScalar item)
      (each : ∀ item ∈ items, Fits registry family element item) :
      Fits registry family shape (.array items)
  | mapping {shape inner : Shape} {type : Text} {members : Table Value}
      (resolved : shape.resolve family = .mapping type inner) (sorted : members.Sorted)
      (plain : ∀ member ∈ members, isName member.1) (found : ∀ member ∈ members, HasScalar member.2)
      (each : ∀ member ∈ members, Fits registry family inner member.2) :
      Fits registry family shape (.object members)
  | absent {shape inner : Shape} {type : Text}
      (resolved : shape.resolve family = .optional type inner)
      (simple : (inner.resolve family).isPlain) : Fits registry family shape .null
  | present {shape inner : Shape} {type : Text} {value : Value}
      (resolved : shape.resolve family = .optional type inner)
      (simple : (inner.resolve family).isPlain) (here : Fits registry family inner value) :
      Fits registry family shape value
  | composite {shape : Shape} {type : Text} {fields : List (Field Shape)} {members : Table Value}
      (resolved : shape.resolve family = .composite type fields)
      (builtin : registry.converters.get? type = none)
      (nested : ∀ field ∈ fields, field.binding = .nested ∧ field.rules = [])
      (plain : ∀ field ∈ fields, isName field.name) (distinct : (fields.map Field.name).Nodup)
      (sorted : members.Sorted)
      (complete : ∀ name, name ∈ members.names ↔ name ∈ fields.map Field.name)
      (each : ∀ field ∈ fields, ∀ value, members.get? field.name = some value →
        Fits registry family field.shape value) :
      Fits registry family shape (.object members)

namespace Fits

variable {registry : Registry} {family : Family} {shape : Shape} {value : Value}

/-- A member of a composite belongs to one of its fields. -/
theorem exists_field {fields : List (Field Shape)} {members : Table Value} (sorted : members.Sorted)
    (complete : ∀ name, name ∈ members.names ↔ name ∈ fields.map Field.name)
    {member : Text × Value} (mem : member ∈ members) :
    ∃ field ∈ fields, field.name = member.1 ∧ members.get? field.name = some member.2 := by
  have named : member.1 ∈ members.names := List.mem_map.2 ⟨member, mem, rfl⟩
  obtain ⟨field, found, same⟩ := List.mem_map.1 ((complete member.1).1 named)
  exact ⟨field, found, same, same ▸ Table.get?_of_mem sorted.nodup mem⟩

theorem keyed (fits : Fits registry family shape value) : Keyed value := by
  induction fits with
  | signed => exact .number _
  | unsigned => exact .number _
  | boolean => exact .boolean _
  | string => exact .string _
  | absent => exact .null
  | present _ _ _ ih => exact ih
  | sequence _ _ _ _ ih => exact .array ih
  | mapping _ sorted plain _ _ ih => exact .object plain sorted.nodup ih
  | composite _ _ _ plain _ sorted complete _ ih =>
    refine .object (fun member mem => ?_) sorted.nodup fun member mem => ?_
    · obtain ⟨field, inFields, same, _⟩ := exists_field sorted complete mem
      exact same ▸ plain field inFields
    · obtain ⟨field, inFields, _, found⟩ := exists_field sorted complete mem
      exact ih field inFields member.2 found

/-- The text that a scalar leaves in a store holds no placeholder and is read back. -/
theorem exists_text {type : Text} {kind : Scalar} (fits : Fits registry family shape value)
    (scalar : shape.resolve family = .scalar type kind) (key : Text) :
    ∃ text, (key, text) ∈ value.properties key ∧ ¬ Placeholder.occursIn text
      ∧ kind.read text = .ok value ∧ registry.converters.get? type = none := by
  cases fits with
  | @signed _ _ bits number resolved builtin narrow least greatest =>
    cases scalar.symm.trans resolved
    have inRange : IntegerLiteral.fitsSigned bits number := by
      unfold IntegerLiteral.fitsSigned
      rw [Bool.and_eq_true, decide_eq_true_eq, decide_eq_true_eq]
      exact ⟨least, greatest⟩
    refine ⟨Text.ofInt number, List.mem_singleton_self _, Text.not_occursIn_ofInt number, ?_,
      builtin⟩
    unfold Scalar.read
    simp only [IntegerLiteral.readSigned_ofInt inRange]
    rfl
  | @unsigned _ _ bits number resolved builtin narrow greatest =>
    cases scalar.symm.trans resolved
    have back : IntegerLiteral.readUnsigned bits (Text.ofInt number) = .ok number :=
      IntegerLiteral.readUnsigned_ofNat (decide_eq_true greatest)
    refine ⟨Text.ofInt number, List.mem_singleton_self _, Text.not_occursIn_ofInt number, ?_,
      builtin⟩
    unfold Scalar.read
    simp only [back]
    rfl
  | @boolean _ _ flag resolved builtin =>
    cases scalar.symm.trans resolved
    refine ⟨(Value.boolean flag).text, List.mem_singleton_self _, ?_, ?_, builtin⟩
    · cases flag <;> decide
    · cases flag <;> rfl
  | @string _ _ content resolved builtin literal =>
    cases scalar.symm.trans resolved
    exact ⟨content, List.mem_singleton_self _, literal, rfl, builtin⟩
  | sequence resolved | mapping resolved | absent resolved | present resolved
  | composite resolved => cases scalar.symm.trans resolved

end Fits

/-! ### Values without a scalar -/

/-- What a value without a scalar looks like: null, an empty mapping, or a composite of such
values. -/
inductive Hollow (family : Family) : Shape → Value → Prop
  | absent {shape inner : Shape} {type : Text}
      (resolved : shape.resolve family = .optional type inner) : Hollow family shape .null
  | mapping {shape inner : Shape} {type : Text}
      (resolved : shape.resolve family = .mapping type inner) : Hollow family shape (.object [])
  | composite {shape : Shape} {type : Text} {fields : List (Field Shape)} {members : Table Value}
      (resolved : shape.resolve family = .composite type fields) (sorted : members.Sorted)
      (complete : ∀ name, name ∈ members.names ↔ name ∈ fields.map Field.name)
      (each : ∀ field ∈ fields, ∀ value, members.get? field.name = some value →
        Hollow family field.shape value) :
      Hollow family shape (.object members)

variable {registry : Registry} {family : Family} {shape root : Shape} {value : Value}

theorem Fits.hasScalar_of_isPlain (fits : Fits registry family shape value)
    (simple : (shape.resolve family).isPlain) : HasScalar value := by
  cases fits with
  | signed | unsigned => exact .number _
  | boolean => exact .boolean _
  | string => exact .string _
  | sequence resolved nonempty found each =>
    obtain ⟨item, mem⟩ := List.exists_mem_of_ne_nil _ nonempty
    exact .item mem (found item mem)
  | mapping resolved | absent resolved | present resolved | composite resolved =>
    rw [resolved] at simple
    cases simple

theorem Fits.hollow (fits : Fits registry family shape value) (empty : ¬ HasScalar value) :
    Hollow family shape value := by
  induction fits with
  | signed | unsigned => exact absurd (.number _) empty
  | boolean => exact absurd (.boolean _) empty
  | string => exact absurd (.string _) empty
  | sequence resolved nonempty found each ih =>
    obtain ⟨item, mem⟩ := List.exists_mem_of_ne_nil _ nonempty
    exact absurd (.item mem (found item mem)) empty
  | @mapping _ _ _ members resolved sorted plain found each ih =>
    cases members with
    | nil => exact .mapping resolved
    | cons member members =>
      exact absurd (.member List.mem_cons_self (found member List.mem_cons_self)) empty
  | absent resolved simple => exact .absent resolved
  | present resolved simple here ih => exact absurd (here.hasScalar_of_isPlain simple) empty
  | composite resolved builtin nested plain distinct sorted complete each ih =>
    refine .composite resolved sorted complete fun field mem part found => ?_
    refine ih field mem part found ?_
    exact fun scalar => empty (.member (Table.mem_of_get? found) scalar)

/-- A value without a scalar is determined by its shape. -/
theorem Hollow.unique (hollow : Hollow family shape value) {other : Value}
    (otherHollow : Hollow family shape other) : value = other := by
  induction hollow generalizing other with
  | absent resolved =>
    cases otherHollow with
    | absent => rfl
    | mapping resolved' | composite resolved' => cases resolved.symm.trans resolved'
  | mapping resolved =>
    cases otherHollow with
    | mapping => rfl
    | absent resolved' | composite resolved' => cases resolved.symm.trans resolved'
  | @composite _ _ _ members resolved sorted complete each ih =>
    cases otherHollow with
    | absent resolved' | mapping resolved' => cases resolved.symm.trans resolved'
    | @composite _ _ _ others resolved' sorted' complete' each' =>
      cases resolved.symm.trans resolved'
      refine congrArg Value.object (Table.ext_of_sorted sorted sorted' fun name => ?_)
      by_cases named : name ∈ Table.names members
      · have named' := (complete' name).2 ((complete name).1 named)
        obtain ⟨part, found⟩ := Option.isSome_iff_exists.1 (Table.isSome_get?_iff.2 named)
        obtain ⟨part', found'⟩ := Option.isSome_iff_exists.1 (Table.isSome_get?_iff.2 named')
        obtain ⟨field, mem, rfl⟩ := List.mem_map.1 ((complete name).1 named)
        rw [found, found', ih field mem part found (each' field mem part' found')]
      · have unnamed := fun named' => named ((complete name).2 ((complete' name).1 named'))
        rw [Table.get?_eq_none_iff.2 named, Table.get?_eq_none_iff.2 unnamed]

theorem Value.exists_member_of_height {members : List (Text × Value)} {bound : Nat}
    (positive : 0 < bound) (high : bound ≤ membersHeight members) :
    ∃ member ∈ members, bound ≤ member.2.height := by
  by_contra none
  have low : membersHeight members ≤ bound - 1 := by
    refine membersHeight_le_iff.2 fun member mem => ?_
    have below : ¬ bound ≤ member.2.height := fun reached => none ⟨member, mem, reached⟩
    omega
  omega

/-- Below a hollow value there is a hollow value of every smaller height, of a shape in scope. -/
theorem Hollow.exists_of_height (hollow : Hollow family shape value)
    (inScope : shape ∈ family.scope root) {height : Nat} (positive : 0 < height)
    (low : height ≤ value.height) :
    ∃ part ∈ family.scope root, ∃ content, Hollow family part content
      ∧ content.height = height := by
  induction hollow with
  | absent resolved =>
    rw [Value.height] at low
    refine ⟨_, inScope, .null, .absent resolved, ?_⟩
    rw [Value.height]
    omega
  | mapping resolved =>
    rw [Value.height, Value.membersHeight] at low
    refine ⟨_, inScope, .object [], .mapping resolved, ?_⟩
    rw [Value.height, Value.membersHeight]
    omega
  | @composite shape type fields members resolved sorted complete each ih =>
    by_cases top : height = (Value.object members).height
    · exact ⟨shape, inScope, _, .composite resolved sorted complete each, top.symm⟩
    · have inside : height ≤ Value.membersHeight members := by
        rw [Value.height] at low top
        omega
      obtain ⟨member, mem, reached⟩ := Value.exists_member_of_height positive inside
      obtain ⟨field, inFields, _, found⟩ := Fits.exists_field sorted complete mem
      refine ih field inFields member.2 found (Family.inner_mem_scope inScope ?_) reached
      rw [resolved]
      exact List.mem_map.2 ⟨field, inFields, rfl⟩

/-- **A hollow value is no higher than the number of shapes in scope**: on a path down no shape
comes up twice, because it would stand for one value at two heights. -/
theorem Hollow.height_le (hollow : Hollow family shape value)
    (inScope : shape ∈ family.scope root) : value.height ≤ (family.scope root).length := by
  have each : ∀ level : Fin value.height, ∃ part ∈ family.scope root, ∃ content,
      Hollow family part content ∧ content.height = level + 1 :=
    fun level => hollow.exists_of_height inScope (Nat.succ_pos _) level.isLt
  choose part partInScope content contentHollow contentHeight using each
  have injective : Function.Injective part := by
    intro first second same
    have equal := (contentHollow first).unique (same ▸ contentHollow second)
    have heights : (first : Nat) + 1 = second + 1 := by
      rw [← contentHeight first, ← contentHeight second, equal]
    exact Fin.ext (Nat.succ.inj heights)
  have subset : List.ofFn part ⊆ family.scope root := by
    intro inner mem
    obtain ⟨level, rfl⟩ := (List.mem_ofFn' part inner).1 mem
    exact partInScope level
  have bounded := (List.nodup_ofFn.2 injective).length_le_of_subset subset
  rwa [List.length_ofFn] at bounded

/-! ### Values with scalars -/

theorem Value.length_le_of_hasScalar {key : Text} (keyed : Keyed value) (scalar : HasScalar value)
    (inside : key ≠ []) {longest : Nat}
    (short : ∀ entry ∈ value.properties key, entry.1.length ≤ longest) : key.length ≤ longest := by
  obtain ⟨entry, mem⟩ := scalar.exists_mem key
  exact (Key.length_le_of_within (keyed.within inside entry mem)).trans (short entry mem)

theorem Value.length_add_object_height_le {members : Table Value} {key : Text} {longest few : Nat}
    (keyed : Keyed (.object members)) (scalar : HasScalar (.object members)) (inside : key ≠ [])
    (short : ∀ entry ∈ (Value.object members).properties key, entry.1.length ≤ longest)
    (low : ∀ member ∈ members, HasScalar member.2 →
      (∀ entry ∈ member.2.properties (child key member.1), entry.1.length ≤ longest) →
      (child key member.1).length + member.2.height ≤ longest + few + 1)
    (hollow : ∀ member ∈ members, ¬ HasScalar member.2 → member.2.height ≤ few) :
    key.length + (Value.object members).height ≤ longest + few + 1 := by
  have reached := length_le_of_hasScalar keyed scalar inside short
  have each : membersHeight members ≤ longest + few - key.length := by
    refine membersHeight_le_iff.2 fun member mem => ?_
    by_cases inner : HasScalar member.2
    · have longer := Key.length_lt_of_isBelow (Key.isBelow_child inside member.1)
      have deeper := low member mem inner fun entry there =>
        short entry (mem_properties_object.2 ⟨member, mem, there⟩)
      omega
    · have shallow := hollow member mem inner
      omega
  rw [height]
  omega

/-- Where a value has scalars, every level makes the key longer, and the hollow values below have no
more levels than there are shapes. -/
theorem Fits.length_add_height_le (fits : Fits registry family shape value)
    (inScope : shape ∈ family.scope root) {key : Text} (inside : key ≠ []) {longest : Nat}
    (short : ∀ entry ∈ value.properties key, entry.1.length ≤ longest) (scalar : HasScalar value) :
    key.length + value.height ≤ longest + (family.scope root).length + 1 := by
  induction fits generalizing key with
  | signed | unsigned | boolean | string =>
    have reached : key.length ≤ longest := short (key, _) (List.mem_singleton_self _)
    rw [Value.height]
    omega
  | absent => cases scalar
  | present resolved _ _ ih =>
    refine ih (Family.inner_mem_scope inScope ?_) inside short scalar
    rw [resolved]
    exact List.mem_singleton_self _
  | @sequence _ part _ items resolved nonempty found each ih =>
    have keyed : Keyed (.array items) := (Fits.sequence resolved nonempty found each).keyed
    have reached := Value.length_le_of_hasScalar keyed scalar inside short
    have partInScope : part ∈ family.scope root :=
      Family.inner_mem_scope inScope (by rw [resolved]; exact List.mem_singleton_self _)
    have low : Value.itemsHeight items ≤ longest + (family.scope root).length - key.length := by
      refine Value.itemsHeight_le_iff.2 fun item mem => ?_
      obtain ⟨index, here⟩ := List.mem_iff_getElem?.1 mem
      have below := Key.isBelow_element key index
      have deeper := ih item mem partInScope (Key.ne_nil_of_isBelow below)
        (fun entry inItem => short entry (Value.mem_properties_array.2 ⟨index, item, here, inItem⟩))
        (found item mem)
      have longer := Key.length_lt_of_isBelow below
      omega
    rw [Value.height]
    omega
  | @mapping _ inner _ members resolved sorted plain found each ih =>
    have keyed : Keyed (.object members) := (Fits.mapping resolved sorted plain found each).keyed
    have innerInScope : inner ∈ family.scope root :=
      Family.inner_mem_scope inScope (by rw [resolved]; exact List.mem_singleton_self _)
    refine Value.length_add_object_height_le keyed scalar inside short ?_ ?_
    · intro member mem inner shorter
      have below := Key.isBelow_child inside member.1
      exact ih member mem innerInScope (Key.ne_nil_of_isBelow below) shorter inner
    · exact fun member mem none => absurd (found member mem) none
  | @composite _ _ fields members resolved builtin nested plain distinct sorted complete each ih =>
    have keyed : Keyed (.object members) :=
      (Fits.composite resolved builtin nested plain distinct sorted complete each).keyed
    have fieldInScope : ∀ field ∈ fields, field.shape ∈ family.scope root := by
      intro field inFields
      refine Family.inner_mem_scope inScope ?_
      rw [resolved]
      exact List.mem_map.2 ⟨field, inFields, rfl⟩
    refine Value.length_add_object_height_le keyed scalar inside short ?_ ?_
    · intro member mem inner shorter
      obtain ⟨field, inFields, _, found⟩ := exists_field sorted complete mem
      have below := Key.isBelow_child inside member.1
      exact ih field inFields member.2 found (fieldInScope field inFields)
        (Key.ne_nil_of_isBelow below) shorter inner
    -- Where the scalars end, the height is no longer paid for by the key.
    · intro member mem none
      obtain ⟨field, inFields, _, found⟩ := exists_field sorted complete mem
      have hollow := (each field inFields member.2 found).hollow none
      exact hollow.height_le (fieldInScope field inFields)

/-- **A value that a store can hold is not high**: its levels are at most the length of the longest
key and the number of shapes, together. -/
theorem Fits.height_le (fits : Fits registry family shape value) {key : Text} (inside : key ≠ [])
    {longest : Nat} (short : ∀ entry ∈ value.properties key, entry.1.length ≤ longest) :
    value.height ≤ longest + (shape.size + family.size) + 1 := by
  have inScope : shape ∈ family.scope shape := List.mem_append_left _ shape.mem_parts_self
  rw [← Family.length_scope]
  by_cases scalar : HasScalar value
  · have bounded := fits.length_add_height_le inScope inside short scalar
    omega
  · have bounded := (fits.hollow scalar).height_le inScope
    omega

end TypedConfig
