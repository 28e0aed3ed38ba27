import Mathlib
import TypedConfig.Proofs.Binder.Unfolding
import TypedConfig.Proofs.Source.Mirror
import TypedConfig.Proofs.Store.Consistent

/-!
# Binding recursive shapes ends

When neither unfolding nor dividing comes back to a shape, binding ends for every store and at every
target, and the binder allows itself enough depth for it.

* `suffices_absent`: where nothing is configured, by induction on how far unfolding goes.
* `Laid`: the texts that are divided are laid over a store, but never below the key that is bound,
  so that every step down leads into the store.
* `SufficesBelow`: steps down have enough depth; mappings and composites take no others.
* `suffices_of_room`: everywhere, by induction on how much longer than the key the longest key of
  the store is. Each step down makes the key longer, and every other step divides.
* `settles_of_acyclic`: the law for whole families.
-/

namespace TypedConfig.Binder

open Key (Inward WellFormed)

variable {binder : Binder} {family : Family} {source : Source} {store : Store} {shape root : Shape}
  {key path : Text} {tag : Tag} {rules : List Rule}

/-- All fields of the composites that a shape leads to are nested. -/
def NestedFields (family : Family) (root : Shape) : Prop :=
  ∀ shape, family.Reaches root shape → ∀ type fields,
    shape.resolve family = .composite type fields → ∀ field ∈ fields, field.binding = .nested

/-- What stands at the root has a name: the fields of the composites that a shape leads to, and the
keys of a store. -/
structure Rooted (family : Family) (root : Shape) (store : Store) : Prop where
  fields : ∀ shape, family.Reaches root shape → ∀ type fields,
    shape.resolve family = .composite type fields → ∀ field ∈ fields, field.name ≠ []
  keys : ∀ inner ∈ store.keys, Key.firstName inner ≠ []

/-! ### Without properties -/

theorem suffices_absent (nested : NestedFields family root) {count : Nat} (inside : key ≠ [])
    (absent : ¬ source.has key) (reached : family.Reaches root shape)
    (ends : EndsIn (binder.Unfolds family) count shape) :
    binder.Suffices family (2 * count) source shape ⟨key, path, Tag.empty, rules⟩ := by
  induction count generalizing shape key path rules with
  | zero => exact ends.elim
  | succ count ih =>
    cases resolved : shape.resolve family with
    | scalar | custom | named => exact suffices_leaf (resolved ▸ trivial) (2 * count + 1)
    | sequence type element =>
      refine suffices_sequence resolved fun view found => ?_
      rw [elementSource_absent inside absent] at found
      cases found
    | mapping type member =>
      refine suffices_mapping resolved fun names found name mem => ?_
      rw [memberNames_absent inside absent] at found
      cases found
      cases mem
    | optional type inner =>
      have step : binder.Unfolds family shape inner := .optional resolved
      have enough : binder.Suffices family (2 * count) source inner ⟨key, path, Tag.empty, rules⟩ :=
        ih inside absent (reached.optional resolved) (ends inner step)
      exact suffices_optional resolved (enough.of_le (Nat.le_succ _))
    | composite type fields =>
      refine suffices_composite resolved (nested shape reached type fields resolved) ?_
      rintro builtin front field back rfl bound
      have free : ∀ earlier ∈ front, ¬ binder.Demands family earlier.shape := by
        intro earlier mem demands
        obtain ⟨value, done⟩ := bound earlier mem
        exact demands.ne_done (Key.ne_nil_of_isBelow (Key.isBelow_child inside earlier.name))
          (Source.not_has_child inside absent earlier.name) done
      have step : binder.Unfolds family shape field.shape := .field resolved builtin free
      exact ih (Key.ne_nil_of_isBelow (Key.isBelow_child inside field.name))
        (Source.not_has_child inside absent field.name)
        (reached.field resolved (by simp)) (ends field.shape step)

/-! ### Texts over a store -/

/-- A source holds below a key what a store holds there, and at the root it is the store. -/
structure Laid (source : Source) (store : Store) (key : Text) : Prop where
  plain : key = [] → source = .plain store
  below : ∀ rest, Inward rest → rest ≠ [] → source.get? (key ++ rest) = store.get? (key ++ rest)

namespace Laid

theorem of_plain (store : Store) (key : Text) : Laid store store key :=
  ⟨fun _ => rfl, fun _ _ _ => rfl⟩

theorem append (laid : Laid source store key) {rest : Text} (inward : Inward rest)
    (below : rest ≠ []) : Laid source store (key ++ rest) where
  plain root := absurd root (List.append_ne_nil_of_right_ne_nil key below)
  below more further _ := by
    rw [List.append_assoc]
    exact laid.below _ (inward.append further) (List.append_ne_nil_of_left_ne_nil below more)

theorem child (laid : Laid source store key) (name : Text) :
    Laid source store (Key.child key name) := by
  by_cases root : key = []
  · rw [laid.plain root]
    exact of_plain store _
  · rw [Key.child_eq root]
    exact laid.append (Key.inward_cons.2 (.inl rfl)) (List.cons_ne_nil _ _)

theorem element (laid : Laid source store key) (index : Nat) :
    Laid source store (Key.element key index) := by
  rw [Key.element_eq]
  exact laid.append (Key.inward_cons.2 (.inr rfl)) (List.cons_ne_nil _ _)

/-- The parts of a text stand at the elements, and not below them. -/
theorem overlay (laid : Laid source store key) {parts : List Text} {top : Store}
    (written : Store.ofList? (partEntries key 0 parts) = .ok top) (index : Nat) :
    Laid (.overlay top source) store (Key.element key index) where
  plain root := absurd root (Key.ne_nil_of_isBelow (Key.isBelow_element key index))
  below rest inward below := by
    have upper : top.get? (Key.element key index ++ rest) = none := by
      rw [Option.eq_none_iff_forall_ne_some]
      intro text found
      obtain ⟨other, -, same⟩ := (get?_of_ofList?_partEntries written).1 found
      by_cases here : index = other
      · rw [here] at same
        exact below (List.append_right_eq_self.1 same)
      · exact (Key.apart_element here).left (Key.within_iff_inward.2 ⟨rest, inward, same.symm⟩)
    rw [Source.get?, upper]
    exact (laid.element index).below rest inward below

/-- What is there below the key is no longer than what the store holds. -/
theorem length_le_weight (laid : Laid source store key) {rest : Text} (inward : Inward rest)
    (below : rest ≠ []) (present : source.has (key ++ rest)) :
    (key ++ rest).length ≤ store.weight := by
  obtain ⟨more, further, found⟩ :=
    (Source.has_iff (List.append_ne_nil_of_right_ne_nil key below)).1 present
  rw [List.append_assoc, laid.below _ (inward.append further)
    (List.append_ne_nil_of_left_ne_nil below more)] at found
  obtain ⟨text, stored⟩ := Option.isSome_iff_exists.1 found
  have bounded := Store.length_le_weight stored
  simp only [List.length_append] at bounded ⊢
  omega

theorem not_has_child (laid : Laid source store key) (long : store.weight < key.length)
    (name : Text) : ¬ source.has (Key.child key name) := by
  have inside : key ≠ [] := List.ne_nil_of_length_pos (by omega)
  rw [Key.child_eq inside]
  intro present
  have bounded :=
    laid.length_le_weight (Key.inward_cons.2 (.inl rfl)) (List.cons_ne_nil _ _) present
  rw [List.length_append] at bounded
  omega

end Laid

/-- Elements are found in the source itself, or in the parts of a text that lie over it. -/
theorem Laid.elements (laid : Laid source store key) {element : Shape} {view : Source}
    (found : binder.elementSource source element ⟨key, path, tag, rules⟩ = .ok (some view))
    (index : Nat) : Laid view store (Key.element key index) := by
  unfold elementSource at found
  split at found
  next =>
    cases found
    exact laid.element index
  next =>
    split at found
    next => cases found
    next =>
      split at found
      next => cases found
      next =>
        split at found
        next => cases found
        next parts divided =>
          split at found
          next => cases found
          next top written =>
            cases found
            exact laid.overlay written index

/-- What all recursive shapes that end have in common: no way without progress from them comes
through more than some number of shapes. -/
structure Grounded (binder : Binder) (family : Family) (root : Shape) (bound : Nat) : Prop where
  nested : NestedFields family root
  unfolds : ∀ shape, family.Reaches root shape → EndsIn (binder.Unfolds family) bound shape
  divides : ∀ shape, family.Reaches root shape → EndsIn (Divides family) bound shape

theorem suffices_elementTarget {parent : Target} {inner place : Text} {depth : Nat}
    (each : ∀ checked,
      binder.Suffices family depth source shape ⟨inner, place, Tag.empty, checked⟩) :
    binder.Suffices family depth source shape
      (binder.elementTarget parent (Target.new inner place)) := by
  obtain ⟨checked, same⟩ := binder.exists_elementTarget_eq parent inner place
  rw [same]
  exact each checked

/-! ### With properties -/

theorem length_lt_child {name : Text} (named : key = [] → name ≠ []) :
    key.length < (Key.child key name).length := by
  unfold Key.child
  split
  next root => simpa [root] using List.length_pos_of_ne_nil (named root)
  next =>
    rw [List.length_append, List.length_cons]
    omega

/-- The members of a place stand at longer keys, of which the store has one that is as long. -/
theorem Laid.length_lt_member (laid : Laid source store key)
    (named : key = [] → ∀ inner ∈ store.keys, Key.firstName inner ≠ []) {names : List Text}
    (listed : source.members? key = .ok names) {name : Text} (mem : name ∈ names) :
    key.length < (Key.child key name).length ∧ key.length ≤ store.weight := by
  by_cases root : key = []
  · rw [laid.plain root, root] at listed
    have own : store.members? [] = .ok names := listed
    rw [Store.members?] at own
    split at own
    next => cases own
    next =>
      cases own
      obtain ⟨inner, inKeys, same⟩ := List.mem_filterMap.1 (Store.mem_sortedNames.1 mem)
      cases same
      have stored := (List.mem_filter.1 inKeys).1
      refine ⟨length_lt_child fun _ => named root inner stored, ?_⟩
      rw [root]
      exact Nat.zero_le _
  · refine ⟨length_lt_child fun same => absurd same root, ?_⟩
    obtain ⟨more, found, -⟩ := (Source.mem_members?_iff root listed).1 mem
    rw [laid.below _ (Key.inward_cons.2 (.inl rfl)) (List.cons_ne_nil _ _)] at found
    obtain ⟨text, stored⟩ := Option.isSome_iff_exists.1 found
    have bounded := Store.length_le_weight stored
    rw [List.length_append] at bounded
    omega

/-- A depth is enough at all longer keys, as long as the store has keys of the length. -/
def SufficesBelow (binder : Binder) (family : Family) (root : Shape) (depth : Nat) (source : Source)
    (store : Store) (key : Text) : Prop :=
  key.length ≤ store.weight → ∀ {next : Shape} {inner place : Text} {checked : List Rule},
    family.Reaches root next → Laid source store inner → key.length < inner.length →
      binder.Suffices family depth source next ⟨inner, place, Tag.empty, checked⟩

theorem SufficesBelow.mapping {depth : Nat} {type : Text} {member : Shape}
    (below : binder.SufficesBelow family root depth source store key)
    (reached : family.Reaches root shape) (resolved : shape.resolve family = .mapping type member)
    (laid : Laid source store key) (rooted : key = [] → Rooted family root store) :
    binder.Suffices family (depth + 1) source shape ⟨key, path, tag, rules⟩ := by
  refine suffices_mapping resolved fun names found name mem => ?_
  obtain ⟨longer, deep⟩ := laid.length_lt_member (fun nil => (rooted nil).keys)
    (members?_of_memberNames found) mem
  exact suffices_elementTarget fun checked =>
    below deep (reached.mapping resolved) (laid.child name) longer

/-- The fields of a composite lie in the store, or behind all its keys. -/
theorem SufficesBelow.composite {bound depth : Nat} {type : Text} {fields : List (Field Shape)}
    (below : binder.SufficesBelow family root depth source store key)
    (grounded : Grounded binder family root bound) (behind : 2 * bound ≤ depth)
    (reached : family.Reaches root shape) (resolved : shape.resolve family = .composite type fields)
    (laid : Laid source store key) (rooted : key = [] → Rooted family root store) :
    binder.Suffices family (depth + 2) source shape ⟨key, path, tag, rules⟩ := by
  refine suffices_composite resolved (grounded.nested shape reached type fields resolved) ?_
  intro _ front field back same _
  have mem : field ∈ fields := same ▸ by simp
  have further := reached.field resolved mem
  by_cases deep : key.length ≤ store.weight
  · have longer := length_lt_child fun nil =>
      (rooted nil).fields shape reached type fields resolved field mem
    exact below deep further (laid.child field.name) longer
  · have inside : key ≠ [] := List.ne_nil_of_length_pos (by omega)
    have named := Key.ne_nil_of_isBelow (Key.isBelow_child inside field.name)
    have absent := laid.not_has_child (by omega) field.name
    exact (suffices_absent grounded.nested named absent further
      (grounded.unfolds _ further)).of_le behind

/-- Enough depth for a key when the longest key of the store is not longer by more than some room:
for each step down as much as a way without progress may take, and as much again behind the
store. -/
theorem suffices_of_room {bound : Nat} (grounded : Grounded binder family root bound) (room : Nat)
    {count : Nat} (reached : family.Reaches root shape) (ends : EndsIn (Divides family) count shape)
    (laid : Laid source store key) (rooted : key = [] → Rooted family root store)
    (enough : store.weight < room + key.length) :
    binder.Suffices family (2 * (count + bound * (room + 1))) source shape
      ⟨key, path, tag, rules⟩ := by
  induction room using Nat.strongRecOn generalizing source shape key path tag rules count with
  | _ room longer =>
    induction count generalizing source shape key path tag rules with
    | zero => exact ends.elim
    | succ count ih =>
      -- Steps down use up room, as long as the store has keys of the length.
      have below : binder.SufficesBelow family root (2 * (count + bound * (room + 1))) source store
          key := by
        intro deep next inner place checked further there less
        obtain ⟨little, rfl⟩ : ∃ little, room = little + 1 := ⟨room - 1, by omega⟩
        have step : binder.Suffices family _ source next ⟨inner, place, Tag.empty, checked⟩ :=
          longer little (Nat.lt_succ_self little) further (grounded.divides next further) there
            (fun nil => absurd nil (List.ne_nil_of_length_pos (by omega))) (by omega)
        exact step.of_le (by rw [Nat.mul_succ bound (little + 1)]; omega)
      have depth : 2 * (count + 1 + bound * (room + 1)) = 2 * (count + bound * (room + 1)) + 2 := by
        omega
      rw [depth]
      cases resolved : shape.resolve family with
      | scalar | custom | named => exact suffices_leaf (resolved ▸ trivial) _
      | sequence type element =>
        refine suffices_sequence resolved fun view found index => ?_
        have inner := Key.isBelow_element key index
        have still : store.weight < room + (Key.element key index).length :=
          enough.trans (Nat.add_lt_add_left (Key.length_lt_of_isBelow inner) room)
        refine suffices_elementTarget fun checked => Suffices.of_le ?_ (Nat.le_succ _)
        exact ih (reached.sequence resolved) (ends element (.sequence resolved))
          (laid.elements found index) (fun nil => absurd nil (Key.ne_nil_of_isBelow inner)) still
      | mapping type member =>
        exact (below.mapping reached resolved laid rooted).of_le (Nat.le_succ _)
      | optional type inner =>
        refine suffices_optional resolved (Suffices.of_le ?_ (Nat.le_succ _))
        exact ih (reached.optional resolved) (ends inner (.optional resolved)) laid rooted enough
      | composite type fields =>
        have behind : bound ≤ bound * (room + 1) := Nat.le_mul_of_pos_right _ (Nat.succ_pos _)
        exact below.composite grounded (by omega) reached resolved laid rooted

/-- The binder allows itself this depth. -/
theorem le_depthBound_of_room (family : Family) (store : Store) (root : Shape) (target : Target) :
    2 * (root.size + family.size + (root.size + family.size) * (store.weight + 1 + 1))
      ≤ depthBound family store root target := by
  have wide : root.size + family.size ≤ family.size + root.size + 2 := by omega
  have deep : store.weight + 3 ≤ store.weight + (target.tag.fallback.getD []).length + 3 := by omega
  calc
    2 * (root.size + family.size + (root.size + family.size) * (store.weight + 1 + 1))
      = 2 * ((store.weight + 3) * (root.size + family.size)) := by
        rw [Nat.add_comm (root.size + family.size), ← Nat.mul_succ, Nat.mul_comm (_ + _)]
    _ ≤ 2 * ((store.weight + (target.tag.fallback.getD []).length + 3)
          * (family.size + root.size + 2)) := Nat.mul_le_mul_left 2 (Nat.mul_le_mul deep wide)
    _ = depthBound family store root target := (Nat.mul_assoc _ _ _).symm

/-- **Recursive shapes are bound to an end.** All fields are nested; no shape comes back to itself
through optional values and through fields that no field in front of them keeps from being reached;
and none comes back to itself through optional values and sequences. Then binding has a result from
some depth on, which is the answer of the binder, for every store and at every target; at the root
everything must have a name. -/
theorem settles_of_acyclic (binder : Binder) (family : Family) (root : Shape)
    (nested : NestedFields family root)
    (unfolding : ∀ shape, family.Reaches root shape →
      ¬ Relation.TransGen (binder.Unfolds family) shape shape)
    (dividing : ∀ shape, family.Reaches root shape →
      ¬ Relation.TransGen (Divides family) shape shape)
    (store : Store) (target : Target) (rooted : target.key = [] → Rooted family root store) :
    binder.Settles family store root target (binder.bind family store root target) := by
  have grounded : Grounded binder family root (family.scope root).length :=
    ⟨nested, fun _ reached => endsIn_of_acyclic Unfolds.mem_inner unfolding reached,
      fun _ reached => endsIn_of_acyclic Divides.mem_inner dividing reached⟩
  have room : store.weight < store.weight + 1 + target.key.length := by omega
  have enough : binder.Suffices family _ store root target :=
    suffices_of_room grounded (store.weight + 1) .root (grounded.divides root .root)
      (.of_plain store target.key) rooted room
  refine bind_settles (enough.of_le ?_)
  rw [Family.length_scope]
  exact le_depthBound_of_room family store root target

/-- The fields of a link: its name, the link after it, and links beside it. -/
def linkFields : List (Field Shape) :=
  [⟨"name", .nested, .scalar "String" .string, []⟩,
    ⟨"next", .nested, .optional "Option" (.named "Link"), []⟩,
    ⟨"beside", .nested, .mapping "Map" (.named "Link"), []⟩]

/-- The family of links. -/
def linkFamily : Family := [("Link", .composite "Link" linkFields)]

/-- Two links in a row, and one beside the first. -/
def linkStore : Store :=
  .ofTable [("beside.other.name", "aside"), ("name", "first"), ("next.name", "last")]

theorem cases_of_reaches_link {shape : Shape} (reached : linkFamily.Reaches (.named "Link") shape) :
    shape = .named "Link" ∨ shape = .scalar "String" .string
      ∨ shape = .optional "Option" (.named "Link") ∨ shape = .mapping "Map" (.named "Link") := by
  induction reached with
  | root => exact .inl rfl
  | step _ inside ih =>
    rcases ih with rfl | rfl | rfl | rfl
    · rcases inside with _ | ⟨_, _ | ⟨_, _ | ⟨_, inside⟩⟩⟩
      · exact .inr (.inl rfl)
      · exact .inr (.inr (.inl rfl))
      · exact .inr (.inr (.inr rfl))
      · cases inside
    · cases inside
    · exact .inl (List.mem_singleton.1 inside)
    · exact .inl (List.mem_singleton.1 inside)

/-- How many steps without progress may follow a shape. -/
def linkRank : Shape → Nat
  | .optional _ _ => 2
  | .named _ => 1
  | _ => 0

theorem linkRank_lt_of_unfolds {shape next : Shape}
    (reached : linkFamily.Reaches (.named "Link") shape)
    (step : Binder.standard.Unfolds linkFamily shape next) : linkRank next < linkRank shape := by
  rcases cases_of_reaches_link reached with rfl | rfl | rfl | rfl
  · cases step with
    | optional other => cases other
    | @field _ front back field other builtin free =>
      have same : linkFields = front ++ field :: back := by
        injection other
      cases front with
      | nil =>
        cases same
        decide
      | cons first front =>
        obtain ⟨rfl, -⟩ := List.cons.inj same
        exact absurd (.own trivial) (free _ List.mem_cons_self)
  · cases step with
    | optional other | field other => cases other
  · cases step with
    | optional other =>
      cases other
      decide
    | field other => cases other
  · cases step with
    | optional other | field other => cases other

theorem linkRank_lt_of_divides {shape next : Shape}
    (reached : linkFamily.Reaches (.named "Link") shape) (step : Divides linkFamily shape next) :
    linkRank next < linkRank shape := by
  rcases cases_of_reaches_link reached with rfl | rfl | rfl | rfl
  · cases step with
    | optional other | sequence other => cases other
  · cases step with
    | optional other | sequence other => cases other
  · cases step with
    | optional other =>
      cases other
      decide
    | sequence other => cases other
  · cases step with
    | optional other | sequence other => cases other

theorem fields_of_reaches_link {shape : Shape} (reached : linkFamily.Reaches (.named "Link") shape)
    {type : Text} {fields : List (Field Shape)}
    (resolved : shape.resolve linkFamily = .composite type fields) : fields = linkFields := by
  rcases cases_of_reaches_link reached with rfl | rfl | rfl | rfl
  · injection resolved.symm
  · cases resolved
  · cases resolved
  · cases resolved

/-- The value of the first link. -/
def linkValue : Value :=
  let last (name : Text) : Value :=
    .object [("beside", .object []), ("name", .string name), ("next", .null)]
  .object [("beside", .object [("other", last "aside")]), ("name", .string "first"),
    ("next", last "last")]

theorem settles_of_acyclic_link :
    NestedFields linkFamily (.named "Link")
      ∧ (∀ shape, linkFamily.Reaches (.named "Link") shape →
        ¬ Relation.TransGen (Binder.standard.Unfolds linkFamily) shape shape
          ∧ ¬ Relation.TransGen (Divides linkFamily) shape shape)
      ∧ Rooted linkFamily (.named "Link") linkStore
      ∧ Binder.standard.bind linkFamily linkStore (.named "Link") (Target.new [] "Link")
        = .ok linkValue
      ∧ Binder.standard.Settles linkFamily linkStore (.named "Link") (Target.new [] "Link")
        (.ok linkValue) := by
  have nested : NestedFields linkFamily (.named "Link") := by
    intro shape reached type fields resolved
    rw [fields_of_reaches_link reached resolved]
    decide
  have unfolding {shape : Shape} (reached : linkFamily.Reaches (.named "Link") shape) :
      ¬ Relation.TransGen (Binder.standard.Unfolds linkFamily) shape shape :=
    acyclic_of_rank Unfolds.mem_inner linkRank linkRank_lt_of_unfolds reached
  have dividing {shape : Shape} (reached : linkFamily.Reaches (.named "Link") shape) :
      ¬ Relation.TransGen (Divides linkFamily) shape shape :=
    acyclic_of_rank Divides.mem_inner linkRank linkRank_lt_of_divides reached
  have rooted : Rooted linkFamily (.named "Link") linkStore := by
    refine ⟨fun shape reached type fields resolved => ?_, by decide⟩
    rw [fields_of_reaches_link reached resolved]
    decide
  have settled := settles_of_acyclic Binder.standard linkFamily (.named "Link") nested
    (fun _ => unfolding) (fun _ => dividing) linkStore (Target.new [] "Link") fun _ => rooted
  have deep : Binder.standard.bindAt linkFamily 12 linkStore (.named "Link") (Target.new [] "Link")
      = .ofExcept (.ok linkValue) := by cbv
  have answer := settled.unique (settles_of_bindAt deep)
  exact ⟨nested, fun _ reached => ⟨unfolding reached, dividing reached⟩, rooted, answer,
    answer ▸ settled⟩

end TypedConfig.Binder
