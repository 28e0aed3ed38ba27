import TypedConfig.Proofs.Binder.Absent
import TypedConfig.Proofs.Binder.Fits
import TypedConfig.Proofs.Placeholder.Scanner

/-!
# Binding reads back what a document left in a store

A document that fits a shape is written to the empty store at a key, and binding the shape at that
key gives the document again.

* `bindLeaf_stored`, `bindSequence_eq`, `bindMapping_eq`, `bindFields_eq`: what each kind of shape
  finds in a store that holds the document.
* `bindAt_of_holds`: binding gives the document, from a depth on that grows with its height. The
  induction is on how the document fits the shape; what the store holds below the key goes down
  with it.
* `bind_extend`: the depth that the binder allows itself is enough.
-/

namespace TypedConfig.Binder

open Key (Within WellFormed child element)
open Value (Keyed HasScalar)

variable {binder : Binder} {family : Family} {store : Store} {key path : Text}

/-! ### Leaves -/

/-- A text without a placeholder is resolved to itself, the empty one as well. -/
theorem resolve_stored {text : Text} (stored : store.get? key = some text)
    (literal : ¬ Placeholder.occursIn text) :
    Placeholder.resolve store (Target.new key path) = .ok text := by
  have look : Source.get? store (Target.new key path).key = some text := stored
  unfold Placeholder.resolve Placeholder.lookUp
  rw [look]
  cases text with
  | nil =>
    have here : Source.has store (Target.new key path).key = true := by
      show store.has key = true
      rw [Store.has, stored]
      rfl
    exact if_pos here
  | cons char text => exact Placeholder.expand_of_not_has store Placeholder.nestingLimit literal

theorem bindLeaf_stored {type text : Text} {kind : Scalar} {value : Value}
    (builtin : binder.registry.converters.get? type = none) (stored : store.get? key = some text)
    (literal : ¬ Placeholder.occursIn text) (read : kind.read text = .ok value) :
    binder.bindLeaf store (.scalar type kind) (Target.new key path) = .ok value := by
  have convert : binder.conversion? (.scalar type kind)
      = some fun text => (kind.read text).mapError Cause.literal := by
    unfold conversion?
    rw [Shape.typeName, builtin]
  unfold bindLeaf
  rw [resolve_stored stored literal, convert]
  simp only [read]
  exact validated_new value

/-! ### Sequences -/

theorem elementSource_eq (first : store.has (element key 0)) (shape : Shape) :
    binder.elementSource store shape (Target.new key path) = .ok (some store) := by
  unfold elementSource
  exact if_pos first

/-- The elements of a sequence are found from first to last. -/
theorem indices_eq {items : List Value} (holds : store.Holds key (.array items))
    (keyed : Keyed (.array items)) (inside : key ≠ []) (found : ∀ item ∈ items, HasScalar item) :
    indices store key = List.range items.length := by
  have few : items.length ≤ store.size := by
    have enough : items.length ≤ ((Value.array items).properties key).length :=
      Value.length_le_itemProperties found
    exact enough.trans (holds.length_le_size keyed inside)
  refine takeWhile_range (Nat.lt_succ_of_le few) (fun index low => ?_) fun here => ?_
  · refine (holds.has_element_iff keyed).2 ⟨items[index], List.getElem?_eq_getElem low, ?_⟩
    exact found _ (List.getElem_mem low)
  · obtain ⟨item, there, _⟩ := (holds.has_element_iff keyed).1 here
    rw [List.getElem?_eq_none (Nat.le_refl _)] at there
    cases there

/-! ### Binding part by part -/

theorem bindSequence_eq {bind : BindPart} {shape : Shape} {items : List Value}
    (holds : store.Holds key (.array items)) (keyed : Keyed (.array items)) (inside : key ≠ [])
    (nonempty : items ≠ []) (found : ∀ item ∈ items, HasScalar item)
    (each : ∀ index item, items[index]? = some item →
      bind store shape (Target.new (element key index) (element path index)) = .done item) :
    binder.bindSequence bind family store shape (Target.new key path) = .done (.array items) := by
  obtain ⟨item, items', rfl⟩ := List.exists_cons_of_ne_nil nonempty
  have first : store.has (element key 0) :=
    (holds.has_element_iff keyed).2 ⟨item, rfl, found item List.mem_cons_self⟩
  have bound : (indices store key).mapM (fun index => bind store shape
      (binder.elementTarget (Target.new key path) ((Target.new key path).element index)))
      = .done (item :: items') := by
    refine Outcome.mapM_eq_done ?_
    rw [indices_eq holds keyed inside found]
    refine List.forall₂_iff_get.2 ⟨List.length_range, fun index low high => ?_⟩
    rw [List.get_eq_getElem, List.get_eq_getElem, List.getElem_range]
    show bind store shape (binder.elementTarget _ (Target.new _ _)) = _
    rw [elementTarget_new]
    exact each index _ (List.getElem?_eq_getElem high)
  unfold bindSequence
  rw [elementSource_eq first, Outcome.ofExcept_ok, Outcome.done_bind]
  show ((indices store key).mapM _ : Outcome (List Value)) >>= _ = _
  rw [bound, Outcome.done_bind, finished_new, Outcome.ofExcept_ok]

theorem bindMapping_eq {bind : BindPart} {shape : Shape} {members : Table Value}
    (holds : store.Holds key (.object members)) (keyed : Keyed (.object members))
    (inside : key ≠ []) (plain : ∀ member ∈ members, Key.isName member.1)
    (sorted : members.Sorted) (found : ∀ member ∈ members, HasScalar member.2)
    (each : ∀ member ∈ members, bind store shape
      (Target.new (child key member.1) (path ++ '.' :: member.1)) = .done member.2) :
    binder.bindMapping bind store shape (Target.new key path) = .done (.object members) := by
  have names : memberNames store (Target.new key path) = .ok members.names := by
    have listed : Source.members? store key = .ok members.names :=
      holds.members?_eq keyed plain sorted found inside
    have plainTarget : ¬ (Target.new key path).tag.fallback.any (· != []) = true :=
      Bool.false_ne_true
    have sameKey : (Target.new key path).key = key := rfl
    unfold memberNames
    rw [if_neg plainTarget, sameKey, listed]
  have bound : (members.names.mapM fun name => do
      let value ← bind store shape
        (binder.elementTarget (Target.new key path) ((Target.new key path).child name))
      pure (name, value)) = Outcome.done members := by
    refine Outcome.mapM_eq_done ?_
    refine List.forall₂_map_left_iff.2 (List.forall₂_same.2 fun member mem => ?_)
    show (bind store shape (binder.elementTarget (Target.new key path)
      (Target.new (child key member.1) (path ++ '.' :: member.1))) >>= _) = _
    rw [elementTarget_new, each member mem, Outcome.done_bind]
    rfl
  unfold bindMapping
  rw [names, Outcome.ofExcept_ok, Outcome.done_bind, bound, Outcome.done_bind, Value.ofMembers,
    Table.ofList_of_sorted sorted, finished_new, Outcome.ofExcept_ok]

theorem bindOptional_eq {bind : BindPart} {shape : Shape} {target : Target} {value : Value}
    (here : bind store shape target = .done value) :
    bindOptional bind store shape target = .done value := by
  unfold bindOptional
  rw [here]

theorem bindOptional_absent {bind : BindPart} {shape : Shape} (absent : ¬ store.has key)
    (missing : bind store shape (Target.new key path) = .failed (.notExist key path)) :
    bindOptional bind store shape (Target.new key path) = .done .null := by
  have nothing : Source.has store (Target.new key path).key = false := Bool.eq_false_iff.2 absent
  unfold bindOptional
  rw [missing, nothing]
  rfl

/-- The member of a field, as binding the field gives it. -/
def fieldMember (members : Table Value) (field : Field Shape) : Text × Value :=
  (field.name, (members.get? field.name).getD .null)

/-- The members of the fields are all members, in whatever order the fields are declared. -/
theorem ofMembers_fieldMember {fields : List (Field Shape)} {members : Table Value}
    (distinct : (fields.map Field.name).Nodup) (sorted : members.Sorted)
    (complete : ∀ name, name ∈ members.names ↔ name ∈ fields.map Field.name) :
    Value.ofMembers (fields.map (fieldMember members)) = .object members := by
  have names : Table.names (fields.map (fieldMember members)) = fields.map Field.name :=
    List.map_map
  have distinctNames : (Table.names (fields.map (fieldMember members))).Nodup :=
    names.symm ▸ distinct
  refine congrArg Value.object (Table.ext_of_sorted (Table.sorted_ofList _) sorted fun name => ?_)
  rw [Table.get?_ofList distinctNames]
  by_cases named : name ∈ fields.map Field.name
  · obtain ⟨value, found⟩ :=
      Option.isSome_iff_exists.1 (Table.isSome_get?_iff.2 ((complete name).2 named))
    obtain ⟨field, mem, rfl⟩ := List.mem_map.1 named
    have listed : (field.name, value) ∈ fields.map (fieldMember members) := by
      refine List.mem_map.2 ⟨field, mem, ?_⟩
      rw [fieldMember, found]
      rfl
    rw [found]
    exact Table.get?_of_mem distinctNames listed
  · rw [Table.get?_eq_none_iff.2 fun mem => named ((complete name).1 mem)]
    exact Table.get?_eq_none_iff.2 fun mem => named (names ▸ mem)

/-- The fields of a composite are bound in turn, and their values are its members. -/
theorem bindFields_eq {bind : BindPart}
    {embed : Source → List (Field Shape) → Target → Outcome Value} {fields : List (Field Shape)}
    {members : Table Value}
    (nested : ∀ field ∈ fields, field.binding = .nested ∧ field.rules = [])
    (distinct : (fields.map Field.name).Nodup) (sorted : members.Sorted)
    (complete : ∀ name, name ∈ members.names ↔ name ∈ fields.map Field.name)
    (each : ∀ field ∈ fields, ∀ value, members.get? field.name = some value →
      bind store field.shape (Target.new (child key field.name) (path ++ '.' :: field.name))
        = .done value) :
    bindFields bind embed family store fields (Target.new key path) = .done (.object members) := by
  have bound : (fields.mapM fun field => do
      let value ← bindField bind embed family store (Target.new key path) field
      pure (field.name, value)) = Outcome.done (fields.map (fieldMember members)) := by
    refine Outcome.mapM_eq_done
      (List.forall₂_map_right_iff.2 (List.forall₂_same.2 fun field mem => ?_))
    obtain ⟨value, found⟩ := Option.isSome_iff_exists.1
      (Table.isSome_get?_iff.2 ((complete field.name).2 (List.mem_map_of_mem mem)))
    have here : bindField bind embed family store (Target.new key path) field = .done value := by
      unfold bindField
      rw [(nested field mem).1, (nested field mem).2]
      exact each field mem value found
    rw [here, fieldMember, found]
    rfl
  have plainTarget : ¬ (Target.new key path).tag.fallback.any (· != []) = true :=
    Bool.false_ne_true
  unfold bindFields
  rw [if_neg plainTarget, bound, Outcome.done_bind, ofMembers_fieldMember distinct sorted complete]
  rfl

/-! ### Every level -/

/-- The depth that a shape takes before it goes down into its value. -/
def detour : Shape → Nat
  | .optional _ _ => 1
  | _ => 0

theorem detour_le_one (shape : Shape) : detour shape ≤ 1 := by
  unfold detour
  split <;> decide

theorem detour_of_isPlain {shape : Shape} (simple : shape.isPlain) : detour shape = 0 := by
  cases shape with
  | scalar | sequence => rfl
  | custom | mapping | optional | composite | named => cases simple

theorem bindAt_scalar_of_holds {shape : Shape} {type : Text} {kind : Scalar} {value : Value}
    {depth : Nat} (fits : Fits binder.registry family shape value)
    (resolved : shape.resolve family = .scalar type kind) (holds : store.Holds key value)
    (deep : 3 * value.height + detour (shape.resolve family) ≤ depth) :
    binder.bindAt family depth store shape (Target.new key path) = .done value := by
  obtain ⟨text, here, literal, read, builtin⟩ := fits.exists_text resolved key
  have stored : store.get? key = some text := (holds key (.refl key) text).2 here
  have positive := value.height_pos
  obtain ⟨depth, rfl⟩ := Nat.exists_eq_add_of_le' (show 1 ≤ depth by omega)
  rw [bindAt_scalar resolved, bindLeaf_stored builtin stored literal read, Outcome.ofExcept_ok]

/-- A scalar or a sequence that nothing is configured for does not exist. -/
theorem bindAt_missing {shape : Shape} (simple : (shape.resolve family).isPlain) (inside : key ≠ [])
    (absent : ¬ store.has key) (depth : Nat) :
    binder.bindAt family (depth + 1) store shape (Target.new key path)
      = .failed (.notExist key path) := by
  have missing : ¬ Source.has store key := absent
  cases same : shape.resolve family with
  | scalar type kind =>
    rw [bindAt_scalar same]
    exact congrArg Outcome.ofExcept (bindLeaf_absent missing _)
  | sequence type inner =>
    have nothing : binder.elementSource store (inner.resolve family) (Target.new key path)
        = .error (.notExist key path) := elementSource_absent inside missing _
    rw [bindAt_sequence same]
    unfold bindSequence
    rw [nothing, Outcome.ofExcept_error, Outcome.failed_bind]
  | custom | mapping | optional | composite | named =>
    rw [same] at simple
    cases simple

/-- **Binding finds a document that a store holds**, at every depth that the levels of the document
ask for. -/
theorem bindAt_of_holds {shape : Shape} {value : Value}
    (fits : Fits binder.registry family shape value) :
    ∀ {key path : Text} {depth : Nat}, store.Holds key value → key ≠ [] →
      3 * value.height + detour (shape.resolve family) ≤ depth →
      binder.bindAt family depth store shape (Target.new key path) = .done value := by
  -- An optional shape takes one level of depth and a composite two before they go down one level of
  -- the value, so three levels of depth pay for each.
  induction fits with
  | signed resolved builtin narrow least greatest =>
    intro key path depth holds _ deep
    exact bindAt_scalar_of_holds (.signed resolved builtin narrow least greatest) resolved holds
      deep
  | unsigned resolved builtin narrow greatest =>
    intro key path depth holds _ deep
    exact bindAt_scalar_of_holds (.unsigned resolved builtin narrow greatest) resolved holds deep
  | boolean resolved builtin =>
    intro key path depth holds _ deep
    exact bindAt_scalar_of_holds (.boolean resolved builtin) resolved holds deep
  | string resolved builtin literal =>
    intro key path depth holds _ deep
    exact bindAt_scalar_of_holds (.string resolved builtin literal) resolved holds deep
  | @sequence shape part type items resolved nonempty found each ih =>
    intro key path depth holds inside deep
    rw [Value.height] at deep
    obtain ⟨depth, rfl⟩ := Nat.exists_eq_add_of_le' (show 1 ≤ depth by omega)
    have keyed : Keyed (.array items) := (Fits.sequence resolved nonempty found each).keyed
    rw [bindAt_sequence resolved]
    refine bindSequence_eq holds keyed inside nonempty found fun index item here => ?_
    have mem := List.mem_of_getElem? here
    have low := Value.itemsHeight_le_iff.1 (Nat.le_refl _) item mem
    have step := detour_le_one (part.resolve family)
    exact ih item mem (holds.item keyed here)
      (Key.ne_nil_of_isBelow (Key.isBelow_element key index)) (by omega)
  | @mapping shape inner type members resolved sorted plain found each ih =>
    intro key path depth holds inside deep
    rw [Value.height] at deep
    obtain ⟨depth, rfl⟩ := Nat.exists_eq_add_of_le' (show 1 ≤ depth by omega)
    have keyed : Keyed (.object members) := (Fits.mapping resolved sorted plain found each).keyed
    rw [bindAt_mapping resolved]
    refine bindMapping_eq holds keyed inside plain sorted found fun member mem => ?_
    have low := Value.membersHeight_le_iff.1 (Nat.le_refl _) member mem
    have step := detour_le_one (inner.resolve family)
    exact ih member mem (holds.member keyed inside mem)
      (Key.ne_nil_of_isBelow (Key.isBelow_child inside member.1)) (by omega)
  | @absent shape inner type resolved simple =>
    intro key path depth holds inside deep
    rw [Value.height, resolved, detour] at deep
    obtain ⟨depth, rfl⟩ := Nat.exists_eq_add_of_le' (show 2 ≤ depth by omega)
    -- Null leaves no property, so what binding the inner shape reports as missing is.
    have absent : ¬ store.has key := by
      rw [holds.has_iff .null inside]
      intro scalar
      cases scalar
    rw [bindAt_optional resolved]
    exact bindOptional_absent absent (bindAt_missing simple inside absent depth)
  | @present shape inner type value resolved simple here ih =>
    intro key path depth holds inside deep
    rw [resolved, detour] at deep
    obtain ⟨depth, rfl⟩ := Nat.exists_eq_add_of_le' (show 1 ≤ depth by omega)
    have noDetour := detour_of_isPlain simple
    rw [bindAt_optional resolved]
    exact bindOptional_eq (ih holds inside (by omega))
  | @composite shape type fields members resolved builtin nested plain distinct sorted complete each
      ih =>
    intro key path depth holds inside deep
    rw [Value.height] at deep
    obtain ⟨depth, rfl⟩ := Nat.exists_eq_add_of_le' (show 2 ≤ depth by omega)
    have keyed : Keyed (.object members) :=
      (Fits.composite resolved builtin nested plain distinct sorted complete each).keyed
    rw [bindAt_composite resolved builtin]
    refine bindFields_eq nested distinct sorted complete fun field mem value found => ?_
    have there := Table.mem_of_get? found
    have low : value.height ≤ Value.membersHeight members :=
      Value.membersHeight_le_iff.1 (Nat.le_refl _) _ there
    have step := detour_le_one (field.shape.resolve family)
    exact ih field mem value found (holds.member keyed inside there)
      (Key.ne_nil_of_isBelow (Key.isBelow_child inside field.name)) (by omega)

/-! ### The round trip -/

/-- The binder allows itself more depth than a document of a bounded height takes. -/
theorem le_depthBound (shape : Shape) {height : Nat}
    (low : height ≤ store.weight + (shape.size + family.size) + 1) :
    3 * height + 1 ≤ depthBound family store shape (Target.new key path) := by
  show _ ≤ 2 * (store.weight + 0 + 3) * (family.size + shape.size + 2)
  have scale : 6 * (family.size + shape.size)
      ≤ 2 * (store.weight + 0 + 3) * (family.size + shape.size) :=
    Nat.mul_le_mul_right _ (by omega)
  rw [Nat.mul_add]
  omega

/-- **A document that fits a shape comes back unchanged** when it is written to the empty store at a
key and the shape is bound at that key. -/
theorem bind_extend (binder : Binder) (family : Family) {shape : Shape} {value : Value}
    (fits : Fits binder.registry family shape value) {key : Text} (wellFormed : WellFormed key)
    (path : Text) :
    (Store.empty.extend key value).2 = none
      ∧ binder.bind family (Store.empty.extend key value).1 shape (Target.new key path)
        = .ok value := by
  have inside := Key.ne_nil_of_wellFormed wellFormed
  obtain ⟨written, holds⟩ := Store.holds_extend fits.keyed wellFormed
  refine ⟨written, ?_⟩
  generalize (Store.empty.extend key value).1 = store at holds
  have short : ∀ entry ∈ value.properties key, entry.1.length ≤ store.weight := by
    intro entry mem
    exact Store.length_le_weight ((holds entry.1 (fits.keyed.within inside entry mem) entry.2).2 mem)
  have low := fits.height_le inside short
  have deep : 3 * value.height + detour (shape.resolve family)
      ≤ depthBound family store shape (Target.new key path) :=
    (Nat.add_le_add_left (detour_le_one _) _).trans (le_depthBound shape low)
  unfold bind
  rw [bindAt_of_holds fits holds inside deep]

/-- A recursive type: a node has a label, flags, maybe a level, and named children. -/
def nodeFamily : Family :=
  [("Node", .composite "Node" [
    ⟨"children", .nested, .mapping "Map" (.named "Node"), []⟩,
    ⟨"flags", .nested, .sequence "Vec" (.scalar "bool" .boolean), []⟩,
    ⟨"label", .nested, .scalar "String" .string, []⟩,
    ⟨"level", .nested, .optional "Option" (.scalar "i8" (.signed 8)), []⟩])]

/-- The document of a node. -/
def node (children : Table Value) (flags : List Bool) (label : Text) (level : Value) : Value :=
  .object [("children", .object children), ("flags", .array (flags.map .boolean)),
    ("label", .string label), ("level", level)]

theorem fits_node {children : Table Value} {flags : List Bool} {label : Text} {level : Value}
    (childrenFit : Fits Registry.standard nodeFamily (.mapping "Map" (.named "Node"))
      (.object children))
    (nonempty : flags ≠ []) (literal : ¬ Placeholder.occursIn label)
    (levelFits : Fits Registry.standard nodeFamily
      (.optional "Option" (.scalar "i8" (.signed 8))) level) :
    Fits Registry.standard nodeFamily (.named "Node") (node children flags label level) := by
  have flagsFit : Fits Registry.standard nodeFamily (.sequence "Vec" (.scalar "bool" .boolean))
      (.array (flags.map .boolean)) := by
    refine .sequence rfl (fun empty => nonempty (List.map_eq_nil_iff.1 empty)) ?_ ?_
    · intro item mem
      obtain ⟨flag, _, rfl⟩ := List.mem_map.1 mem
      exact .boolean flag
    · intro item mem
      obtain ⟨flag, _, rfl⟩ := List.mem_map.1 mem
      exact .boolean rfl rfl
  have sorted : (["children", "flags", "label", "level"] : List Text).Pairwise (· < ·) := by decide
  refine .composite rfl rfl (by decide) (by decide) (by decide) sorted (fun _ => Iff.rfl) ?_
  simp only [List.forall_mem_cons]
  refine ⟨fun value found => ?_, fun value found => ?_, fun value found => ?_,
    fun value found => ?_, fun field mem => nomatch mem⟩
  · cases found
    exact childrenFit
  · cases found
    exact flagsFit
  · cases found
    exact .string rfl rfl literal
  · cases found
    exact levelFits

/-- A node without children and level below one whose level is the least of its width. -/
def nestedNode : Value :=
  node [("left", node [] [true] "" .null)] [false, true] "root" (.number (.integer (-128)))

theorem bind_extend_nestedNode :
    Fits Registry.standard nodeFamily (.named "Node") nestedNode
      ∧ WellFormed "app[0].tree"
      ∧ (Store.empty.extend "app[0].tree" nestedNode).1.get? "app[0].tree.children.left.flags[0]"
        = some "true"
      ∧ (Store.empty.extend "app[0].tree" nestedNode).2 = none
      ∧ Binder.standard.bind nodeFamily (Store.empty.extend "app[0].tree" nestedNode).1
          (.named "Node") (Target.new "app[0].tree" "Node") = .ok nestedNode := by
  have leaf : Fits Registry.standard nodeFamily (.named "Node") (node [] [true] "" .null) :=
    fits_node (.mapping rfl (by decide) nofun nofun nofun) (by decide) (by decide) (.absent rfl rfl)
  have children : Fits Registry.standard nodeFamily (.mapping "Map" (.named "Node"))
      (.object [("left", node [] [true] "" .null)]) := by
    refine .mapping rfl (by decide) (by decide) ?_ ?_
    · intro member mem
      rw [List.mem_singleton.1 mem]
      exact .member (.tail _ (.tail _ (.head _))) (.string [])
    · intro member mem
      rw [List.mem_singleton.1 mem]
      exact leaf
  have level : Fits Registry.standard nodeFamily (.optional "Option" (.scalar "i8" (.signed 8)))
      (.number (.integer (-128))) :=
    .present rfl rfl (.signed rfl rfl (by decide) (by decide) (by decide))
  have fits : Fits Registry.standard nodeFamily (.named "Node") nestedNode :=
    fits_node children (by decide) (by decide) level
  have wellFormed : WellFormed "app[0].tree" := Key.exists_containers?_iff.1 ⟨_, rfl⟩
  exact ⟨fits, wellFormed, by decide, bind_extend Binder.standard nodeFamily fits wellFormed "Node"⟩

end TypedConfig.Binder
