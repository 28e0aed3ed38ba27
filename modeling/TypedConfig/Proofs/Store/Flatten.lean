import TypedConfig.Proofs.Store.Merge

/-!
# Documents in a store

The properties of a document stand at keys that are apart from one another, so a store takes all of
them in, and below the key of the document it then holds nothing else.

* `Keyed`: a document whose member names can stand in keys.
* `Keyed.pairwise_apart`: its properties are at keys that are apart.
* `setAll_of_apart`: properties at such keys are written without an error.
* `Holds`: a store holds a document at a key. `Holds.item` and `Holds.member` go down into the
  document, `Holds.has_iff` says where the store has a key: where the document has a scalar.
-/

namespace TypedConfig.Value

open Key (Within Apart WellFormed child element isName)

/-! ### The keys of a document -/

/-- The members of each object have different names that can stand in a key. -/
inductive Keyed : Value → Prop
  | null : Keyed null
  | boolean (flag : Bool) : Keyed (boolean flag)
  | number (digits : Number) : Keyed (number digits)
  | string (content : Text) : Keyed (string content)
  | array {items : List Value} (each : ∀ item ∈ items, Keyed item) : Keyed (array items)
  | object {members : Table Value} (plain : ∀ member ∈ members, isName member.1)
      (distinct : members.names.Nodup) (each : ∀ member ∈ members, Keyed member.2) :
      Keyed (object members)

theorem mem_itemProperties {key : Text} {index : Nat} {items : List Value} {entry : Text × Text} :
    entry ∈ itemProperties key index items
      ↔ ∃ (offset : Nat) (item : Value), items[offset]? = some item
          ∧ entry ∈ item.properties (element key (index + offset)) := by
  induction items generalizing index with
  | nil => simp [itemProperties]
  | cons first items ih =>
    rw [itemProperties, List.mem_append, ih]
    constructor
    · rintro (here | ⟨offset, item, found, there⟩)
      · exact ⟨0, first, rfl, here⟩
      · refine ⟨offset + 1, item, found, ?_⟩
        rwa [Nat.add_assoc, Nat.add_comm 1 offset] at there
    · rintro ⟨_ | offset, item, found, mem⟩
      · cases found
        exact .inl mem
      · refine .inr ⟨offset, item, found, ?_⟩
        rwa [Nat.add_assoc, Nat.add_comm 1 offset]

theorem mem_memberProperties {key : Text} {members : List (Text × Value)} {entry : Text × Text} :
    entry ∈ memberProperties key members
      ↔ ∃ member ∈ members, entry ∈ member.2.properties (child key member.1) := by
  induction members with
  | nil => simp [memberProperties]
  | cons first members ih =>
    obtain ⟨name, value⟩ := first
    rw [memberProperties, List.mem_append, ih, List.exists_mem_cons_iff]

theorem mem_properties_array {key : Text} {items : List Value} {entry : Text × Text} :
    entry ∈ (array items).properties key
      ↔ ∃ (index : Nat) (item : Value),
          items[index]? = some item ∧ entry ∈ item.properties (element key index) := by
  rw [properties, mem_itemProperties]
  simp only [Nat.zero_add]

theorem mem_properties_object {key : Text} {members : List (Text × Value)} {entry : Text × Text} :
    entry ∈ (object members).properties key
      ↔ ∃ member ∈ members, entry ∈ member.2.properties (child key member.1) := by
  rw [properties, mem_memberProperties]

/-- The properties of a document stand at its key or below it. -/
theorem Keyed.within {document : Value} (keyed : Keyed document) {key : Text} (inside : key ≠ []) :
    ∀ entry ∈ document.properties key, Within key entry.1 := by
  induction keyed generalizing key with
  | null => intro entry mem; cases mem
  | boolean flag => intro entry mem; exact .inl (congrArg Prod.fst (List.mem_singleton.1 mem))
  | number digits => intro entry mem; exact .inl (congrArg Prod.fst (List.mem_singleton.1 mem))
  | string content => intro entry mem; exact .inl (congrArg Prod.fst (List.mem_singleton.1 mem))
  | array each ih =>
    intro entry mem
    obtain ⟨index, item, found, mem⟩ := mem_properties_array.1 mem
    have below := Key.isBelow_element key index
    exact (Within.of_isBelow below).trans
      (ih item (List.mem_of_getElem? found) (Key.ne_nil_of_isBelow below) entry mem)
  | object plain distinct each ih =>
    intro entry mem
    obtain ⟨member, found, mem⟩ := mem_properties_object.1 mem
    have below := Key.isBelow_child inside member.1
    exact (Within.of_isBelow below).trans (ih member found (Key.ne_nil_of_isBelow below) entry mem)

theorem Keyed.items {items : List Value} (keyed : Keyed (.array items)) :
    ∀ item ∈ items, Keyed item := by
  cases keyed with
  | array each => exact each

theorem Keyed.members {members : Table Value} (keyed : Keyed (.object members)) :
    ∀ member ∈ members, Keyed member.2 := by
  cases keyed with
  | object plain distinct each => exact each

theorem Keyed.within_element {item : Value} (keyed : Keyed item) {key : Text} {index : Nat} :
    ∀ entry ∈ item.properties (element key index), Within (element key index) entry.1 :=
  keyed.within (Key.ne_nil_of_isBelow (Key.isBelow_element key index))

theorem Keyed.within_child {value : Value} (keyed : Keyed value) {key name : Text}
    (inside : key ≠ []) :
    ∀ entry ∈ value.properties (child key name), Within (child key name) entry.1 :=
  keyed.within (Key.ne_nil_of_isBelow (Key.isBelow_child inside name))

theorem Keyed.wellFormed {document : Value} (keyed : Keyed document) {key : Text}
    (wellFormed : WellFormed key) : ∀ entry ∈ document.properties key, WellFormed entry.1 := by
  induction keyed generalizing key with
  | null => intro entry mem; cases mem
  | boolean flag => intro entry mem; rwa [List.mem_singleton.1 mem]
  | number digits => intro entry mem; rwa [List.mem_singleton.1 mem]
  | string content => intro entry mem; rwa [List.mem_singleton.1 mem]
  | array each ih =>
    intro entry mem
    obtain ⟨index, item, found, mem⟩ := mem_properties_array.1 mem
    exact ih item (List.mem_of_getElem? found) (wellFormed.element index) entry mem
  | object plain distinct each ih =>
    intro entry mem
    obtain ⟨member, found, mem⟩ := mem_properties_object.1 mem
    exact ih member found (wellFormed.child (plain member found)) entry mem

theorem pairwise_apart_itemProperties {key : Text} {index : Nat} {items : List Value}
    (keyed : ∀ item ∈ items, Keyed item)
    (each : ∀ item ∈ items, ∀ index,
      (item.properties (element key index)).Pairwise fun first second => Apart first.1 second.1) :
    (itemProperties key index items).Pairwise fun first second => Apart first.1 second.1 := by
  induction items generalizing index with
  | nil => exact .nil
  | cons first items ih =>
    rw [itemProperties, List.pairwise_append]
    refine ⟨each first List.mem_cons_self index,
      ih (fun item mem => keyed item (List.mem_cons_of_mem _ mem))
        (fun item mem => each item (List.mem_cons_of_mem _ mem)), fun entry here other there => ?_⟩
    obtain ⟨offset, item, found, mem⟩ := mem_itemProperties.1 there
    have later := List.mem_cons_of_mem first (List.mem_of_getElem? found)
    have apart : Apart (element key index) (element key (index + 1 + offset)) :=
      Key.apart_element (by omega)
    exact apart.of_within ((keyed first List.mem_cons_self).within_element entry here)
      ((keyed item later).within_element other mem)

theorem pairwise_apart_memberProperties {key : Text} {members : Table Value}
    (plain : ∀ member ∈ members, isName member.1) (distinct : members.names.Nodup)
    (keyed : ∀ member ∈ members, Keyed member.2)
    (each : ∀ member ∈ members, (member.2.properties (child key member.1)).Pairwise
      fun first second => Apart first.1 second.1) :
    (memberProperties key members).Pairwise fun first second => Apart first.1 second.1 := by
  induction members with
  | nil => exact .nil
  | cons first members ih =>
    obtain ⟨name, value⟩ := first
    obtain ⟨new, rest⟩ := List.nodup_cons.1 distinct
    rw [memberProperties, List.pairwise_append]
    refine ⟨each _ List.mem_cons_self,
      ih (fun member mem => plain member (List.mem_cons_of_mem _ mem)) rest
        (fun member mem => keyed member (List.mem_cons_of_mem _ mem))
        (fun member mem => each member (List.mem_cons_of_mem _ mem)),
      fun entry here other there => ?_⟩
    obtain ⟨member, found, mem⟩ := mem_memberProperties.1 there
    have different : name ≠ member.1 := fun same => new (List.mem_map.2 ⟨member, found, same.symm⟩)
    have later := List.mem_cons_of_mem (name, value) found
    have apart : Apart (child key name) (child key member.1) :=
      Key.apart_child (plain _ List.mem_cons_self) (plain member later) different
    have inside (other : Text × Value) (plain : isName other.1) : child key other.1 ≠ [] :=
      Key.child_ne_nil (Key.ne_nil_of_isName plain)
    exact apart.of_within
      ((keyed _ List.mem_cons_self).within (inside _ (plain _ List.mem_cons_self)) entry here)
      ((keyed member later).within (inside member (plain member later)) other mem)

/-- **The properties of a document stand at keys that are apart**, so none is in the way of
another. -/
theorem Keyed.pairwise_apart {document : Value} (keyed : Keyed document) {key : Text}
    (inside : key ≠ []) :
    (document.properties key).Pairwise fun first second => Apart first.1 second.1 := by
  induction keyed generalizing key with
  | null => exact .nil
  | boolean flag => exact List.pairwise_singleton _ _
  | number digits => exact List.pairwise_singleton _ _
  | string content => exact List.pairwise_singleton _ _
  | array each ih =>
    exact pairwise_apart_itemProperties each fun item mem index =>
      ih item mem (Key.ne_nil_of_isBelow (Key.isBelow_element key index))
  | object plain distinct each ih =>
    exact pairwise_apart_memberProperties plain distinct each fun member mem =>
      ih member mem (Key.ne_nil_of_isBelow (Key.isBelow_child inside member.1))

/-! ### The scalars of a document -/

/-- A document with a scalar other than null somewhere in it. -/
inductive HasScalar : Value → Prop
  | boolean (flag : Bool) : HasScalar (boolean flag)
  | number (digits : Number) : HasScalar (number digits)
  | string (content : Text) : HasScalar (string content)
  | item {items : List Value} {item : Value} (mem : item ∈ items) (inner : HasScalar item) :
      HasScalar (array items)
  | member {members : List (Text × Value)} {member : Text × Value} (mem : member ∈ members)
      (inner : HasScalar member.2) : HasScalar (object members)

/-- A document leaves a property where it has a scalar. -/
theorem HasScalar.exists_mem {document : Value} (scalar : HasScalar document) (key : Text) :
    ∃ entry, entry ∈ document.properties key := by
  induction scalar generalizing key with
  | boolean flag => exact ⟨_, List.mem_singleton_self _⟩
  | number digits => exact ⟨_, List.mem_singleton_self _⟩
  | string content => exact ⟨_, List.mem_singleton_self _⟩
  | item mem _ ih =>
    obtain ⟨index, found⟩ := List.mem_iff_getElem?.1 mem
    obtain ⟨entry, there⟩ := ih (element key index)
    exact ⟨entry, mem_properties_array.2 ⟨index, _, found, there⟩⟩
  | member mem _ ih =>
    obtain ⟨entry, there⟩ := ih (child key _)
    exact ⟨entry, mem_properties_object.2 ⟨_, mem, there⟩⟩

theorem Keyed.hasScalar_of_mem {document : Value} (keyed : Keyed document) {key : Text}
    {entry : Text × Text} (mem : entry ∈ document.properties key) : HasScalar document := by
  induction keyed generalizing key with
  | null => cases mem
  | boolean flag => exact .boolean flag
  | number digits => exact .number digits
  | string content => exact .string content
  | array each ih =>
    obtain ⟨index, item, found, there⟩ := mem_properties_array.1 mem
    have inItems := List.mem_of_getElem? found
    exact .item inItems (ih item inItems there)
  | object plain distinct each ih =>
    obtain ⟨member, found, there⟩ := mem_properties_object.1 mem
    exact .member found (ih member found there)

theorem length_le_itemProperties {key : Text} {index : Nat} {items : List Value}
    (found : ∀ item ∈ items, HasScalar item) :
    items.length ≤ (itemProperties key index items).length := by
  induction items generalizing index with
  | nil => exact Nat.zero_le _
  | cons item items ih =>
    obtain ⟨entry, mem⟩ := (found item List.mem_cons_self).exists_mem (element key index)
    have some := List.length_pos_of_mem mem
    have rest := @ih (index + 1) fun other mem => found other (List.mem_cons_of_mem _ mem)
    rw [itemProperties, List.length_append, List.length_cons]
    omega

end TypedConfig.Value

namespace TypedConfig.Store

open Key (Within Apart WellFormed child element)
open Value (Keyed HasScalar)

/-! ### Writing properties that are apart -/

/-- **Properties at keys that are apart from one another and from the keys of a store are all
written**, and nothing else changes. -/
theorem setAll_of_apart {store : Store} {entries : List (Text × Text)}
    (wellFormed : ∀ entry ∈ entries, WellFormed entry.1)
    (apart : entries.Pairwise fun first second => Apart first.1 second.1)
    (free : ∀ entry ∈ entries, ∀ key ∈ store.keys, Apart entry.1 key) :
    (store.setAll entries).2 = none
      ∧ ∀ key text, (store.setAll entries).1.get? key = some text
          ↔ (key, text) ∈ entries ∨ store.get? key = some text := by
  have done : (store.setAll entries).2 = none :=
    setAll_of_free wellFormed (apart.imp Apart.not_rivals)
      fun entry mem key keyMem => (free entry mem key keyMem).symm.not_rivals
  have distinct : (entries.map Prod.fst).Nodup := by
    refine List.pairwise_map.2 (apart.imp fun here same => here.left ?_)
    exact same ▸ .refl _
  refine ⟨done, fun key text => ?_⟩
  rw [get?_setAll distinct (Prod.ext rfl done) key]
  cases found : Table.get? key entries with
  | none =>
    have missing : (key, text) ∉ entries := fun mem =>
      Table.get?_eq_none_iff.1 found (List.mem_map_of_mem mem)
    simp [missing]
  | some value =>
    have mem := Table.mem_of_get? found
    -- the key of one of the properties is none of the store's own
    have new : store.get? key = none :=
      get?_eq_none_iff.2 fun old => (free _ mem key old).left (.refl key)
    rw [new, Option.orElse_some, Option.some.injEq]
    constructor
    · rintro rfl
      exact .inl mem
    · rintro (there | old)
      · exact Option.some.inj (found.symm.trans (Table.get?_of_mem distinct there))
      · cases old

/-! ### Documents that a store holds -/

/-- What a store holds at a key and below it are the properties of a document. -/
def Holds (store : Store) (key : Text) (document : Value) : Prop :=
  ∀ inner, Within key inner → ∀ text,
    store.get? inner = some text ↔ (inner, text) ∈ document.properties key

/-- **A document is written to the empty store without an error**, which then holds it. -/
theorem holds_extend {document : Value} (keyed : Keyed document) {key : Text}
    (wellFormed : WellFormed key) :
    (empty.extend key document).2 = none ∧ (empty.extend key document).1.Holds key document := by
  have inside := Key.ne_nil_of_wellFormed wellFormed
  have free : ∀ entry ∈ document.properties key, ∀ other ∈ empty.keys, Apart entry.1 other :=
    fun entry _ other mem => nomatch mem
  obtain ⟨done, stored⟩ :=
    setAll_of_apart (keyed.wellFormed wellFormed) (keyed.pairwise_apart inside) free
  refine ⟨done, fun inner _ text => (stored inner text).trans ?_⟩
  exact or_iff_left fun found => nomatch found

theorem Holds.item {store : Store} {key : Text} {items : List Value}
    (holds : store.Holds key (.array items)) (keyed : Keyed (.array items)) {index : Nat}
    {item : Value} (found : items[index]? = some item) : store.Holds (element key index) item := by
  intro inner within text
  have below := Key.isBelow_element key index
  rw [holds inner ((Within.of_isBelow below).trans within) text, Value.mem_properties_array]
  constructor
  · rintro ⟨other, item', found', mem⟩
    -- A property of another item is apart from this one's, so it cannot stand below its key.
    by_cases same : other = index
    · subst same
      cases found.symm.trans found'
      exact mem
    · have there := (keyed.items item' (List.mem_of_getElem? found')).within_element _ mem
      exact absurd within ((Key.apart_element same).not_within there)
  · exact fun mem => ⟨index, item, found, mem⟩

theorem Holds.member {store : Store} {key : Text} {members : Table Value}
    (holds : store.Holds key (.object members)) (keyed : Keyed (.object members))
    (inside : key ≠ []) {name : Text} {value : Value} (mem : (name, value) ∈ members) :
    store.Holds (child key name) value := by
  intro inner within text
  have below := Key.isBelow_child inside name
  rw [holds inner ((Within.of_isBelow below).trans within) text, Value.mem_properties_object]
  constructor
  · rintro ⟨⟨other, value'⟩, mem', there⟩
    cases keyed with
    | object plain distinct each =>
      by_cases same : other = name
      · subst same
        cases (Table.get?_of_mem distinct mem).symm.trans (Table.get?_of_mem distinct mem')
        exact there
      · have apart : Apart (child key other) (child key name) :=
          Key.apart_child (plain _ mem') (plain _ mem) same
        have inOther := (each _ mem').within_child inside _ there
        exact absurd within (apart.not_within inOther)
  · exact fun there => ⟨(name, value), mem, there⟩

/-- A store has the key of a document where the document has a scalar. -/
theorem Holds.has_iff {store : Store} {key : Text} {document : Value}
    (holds : store.Holds key document) (keyed : Keyed document) (inside : key ≠ []) :
    store.has key ↔ HasScalar document := by
  rw [Store.has_iff inside]
  constructor
  · rintro ⟨inner, mem, within⟩
    obtain ⟨text, found⟩ := Option.isSome_iff_exists.1 (isSome_get?_iff.2 mem)
    exact keyed.hasScalar_of_mem ((holds inner within text).1 found)
  · intro scalar
    obtain ⟨⟨inner, text⟩, mem⟩ := scalar.exists_mem key
    have within := keyed.within inside _ mem
    have found := (holds inner within text).2 mem
    exact ⟨inner, isSome_get?_iff.1 (found ▸ rfl), within⟩

theorem Holds.has_element_iff {store : Store} {key : Text} {items : List Value}
    (holds : store.Holds key (.array items)) (keyed : Keyed (.array items)) {index : Nat} :
    store.has (element key index) ↔ ∃ item, items[index]? = some item ∧ HasScalar item := by
  have inside := Key.ne_nil_of_isBelow (Key.isBelow_element key index)
  cases found : items[index]? with
  | some item =>
    have here := holds.item keyed found
    rw [here.has_iff (keyed.items item (List.mem_of_getElem? found)) inside]
    simp
  | none =>
    rw [Store.has_iff inside]
    simp only [reduceCtorEq, false_and, exists_false, iff_false]
    rintro ⟨inner, mem, within⟩
    obtain ⟨text, stored⟩ := Option.isSome_iff_exists.1 (isSome_get?_iff.2 mem)
    have below := (Within.of_isBelow (Key.isBelow_element key index)).trans within
    obtain ⟨other, item, found', there⟩ :=
      Value.mem_properties_array.1 ((holds inner below text).1 stored)
    have different : other ≠ index := fun same => by rw [same, found] at found'; cases found'
    have inOther := (keyed.items item (List.mem_of_getElem? found')).within_element _ there
    exact (Key.apart_element different).not_within inOther within

theorem mem_sortedNames {names : List Text} {name : Text} :
    name ∈ sortedNames names ↔ name ∈ names := by
  rw [sortedNames, Table.mem_names_ofList, List.map_map]
  exact List.mem_map.trans ⟨fun ⟨_, mem, same⟩ => same ▸ mem, fun mem => ⟨name, mem, rfl⟩⟩

/-- Ascending names are known by which names they are. -/
theorem eq_of_ascending {names others : List Text} (ascending : names.Pairwise (· < ·))
    (ascending' : others.Pairwise (· < ·)) (same : ∀ name, name ∈ names ↔ name ∈ others) :
    names = others := by
  have distinct {list : List Text} (sorted : list.Pairwise (· < ·)) : list.Nodup :=
    sorted.imp fun {_ _} less equal => absurd (equal ▸ less) (List.lt_irrefl _)
  refine List.Perm.eq_of_pairwise (fun _ _ _ _ less greater => ?_) ascending ascending' ?_
  · exact absurd (List.lt_trans less greater) (List.lt_irrefl _)
  · exact (List.perm_ext_iff_of_nodup (distinct ascending) (distinct ascending')).2 same

/-- Sorting the names of a sorted table, in whatever order they come, gives them in its order. -/
theorem sortedNames_eq {names : List Text} {table : Table Value} (sorted : table.Sorted)
    (same : ∀ name, name ∈ names ↔ name ∈ table.names) : sortedNames names = table.names :=
  eq_of_ascending (Table.sorted_ofList _) sorted fun name => mem_sortedNames.trans (same name)

theorem memberName?_of_within {key name inner : Text} (inside : key ≠ []) (plain : Key.isName name)
    (within : Within (child key name) inner) : memberName? key inner = some name := by
  obtain ⟨rest, descends, rfl⟩ := Key.within_iff_exists_append.1 within
  rw [Key.child_eq inside, List.append_assoc, List.cons_append, memberName?, if_neg inside,
    Key.suffixBelow?_append (.inl rfl)]
  exact congrArg some (Key.firstName_append plain descends)

/-- An object leaves no value at its own key. -/
theorem Holds.get?_eq_none {store : Store} {key : Text} {members : Table Value}
    (holds : store.Holds key (.object members)) (keyed : Keyed (.object members))
    (inside : key ≠ []) : store.get? key = none := by
  rw [Option.eq_none_iff_forall_ne_some]
  intro text found
  obtain ⟨member, mem, there⟩ :=
    Value.mem_properties_object.1 ((holds key (.refl key) text).1 found)
  have within := (keyed.members member mem).within_child inside _ there
  have longer := Key.length_lt_of_isBelow (Key.isBelow_child inside member.1)
  exact absurd (Key.length_le_of_within within) (Nat.not_le.2 longer)

/-- **The members of an object are found again**, if there is a scalar in each of them. -/
theorem Holds.members?_eq {store : Store} {key : Text} {members : Table Value}
    (holds : store.Holds key (.object members)) (keyed : Keyed (.object members))
    (plain : ∀ member ∈ members, Key.isName member.1) (sorted : members.Sorted)
    (found : ∀ member ∈ members, HasScalar member.2) (inside : key ≠ []) :
    store.members? key = .ok members.names := by
  have mem_keysBelow {inner : Text} :
      inner ∈ store.keysBelow key ↔ inner ∈ store.keys ∧ Key.isBelow key inner := by
    rw [keysBelow, List.mem_filter, if_neg inside, keys]
  rw [members?, holds.get?_eq_none keyed inside, Option.isSome_none, if_neg Bool.false_ne_true]
  refine congrArg Except.ok (sortedNames_eq sorted fun name => ?_)
  rw [List.mem_filterMap]
  constructor
  · rintro ⟨inner, mem, named⟩
    obtain ⟨inKeys, below⟩ := mem_keysBelow.1 mem
    obtain ⟨text, stored⟩ := Option.isSome_iff_exists.1 (isSome_get?_iff.2 inKeys)
    obtain ⟨member, inMembers, there⟩ :=
      Value.mem_properties_object.1 ((holds inner (.of_isBelow below) text).1 stored)
    have within := (keyed.members member inMembers).within_child inside _ there
    rw [memberName?_of_within inside (plain member inMembers) within] at named
    exact List.mem_map.2 ⟨member, inMembers, Option.some.inj named⟩
  · intro mem
    obtain ⟨member, inMembers, rfl⟩ := List.mem_map.1 mem
    obtain ⟨⟨inner, text⟩, there⟩ := (found member inMembers).exists_mem (child key member.1)
    have within := (keyed.members member inMembers).within_child inside _ there
    have below := Key.isBelow_of_isBelow_of_within (Key.isBelow_child inside member.1) within
    have listed := Value.mem_properties_object.2 ⟨member, inMembers, there⟩
    have stored := (holds inner (.of_isBelow below) text).2 listed
    exact ⟨inner, mem_keysBelow.2 ⟨isSome_get?_iff.1 (stored ▸ rfl), below⟩,
      memberName?_of_within inside (plain member inMembers) within⟩

/-- The properties of a document are no more than those of a store that holds it. -/
theorem Holds.length_le_size {store : Store} {key : Text} {document : Value}
    (holds : store.Holds key document) (keyed : Keyed document) (inside : key ≠ []) :
    (document.properties key).length ≤ store.size := by
  have distinct : ((document.properties key).map Prod.fst).Nodup := by
    refine List.pairwise_map.2 ((keyed.pairwise_apart inside).imp ?_)
    intro first second apart same
    exact apart.left (.inl same.symm)
  have subset : (document.properties key).map Prod.fst ⊆ store.keys := by
    intro inner mem
    obtain ⟨⟨other, text⟩, there, rfl⟩ := List.mem_map.1 mem
    have stored := (holds other (keyed.within inside _ there) text).2 there
    exact isSome_get?_iff.1 (stored ▸ rfl)
  have bounded := distinct.length_le_of_subset subset
  rwa [List.length_map, keys, Table.names, List.length_map] at bounded

end TypedConfig.Store
