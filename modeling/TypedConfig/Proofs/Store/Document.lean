import TypedConfig.Proofs.Store.Flatten
import TypedConfig.Proofs.Store.Write
import TypedConfig.Proofs.Value.Part

/-!
# Documents over a store

A document is laid over a store scalar by scalar, each at the key that its steps lead to. Different
scalars have keys that are apart, so a scalar can only be in the way of what the store held before.

* `ScalarAt`: a document has a scalar other than null at the end of steps.
* `Keyed.mem_properties_iff`: the properties of a document are its scalars.
* `Keyed.eq_of_keyBehind_eq`: different scalars have different keys.
* `Placed`: a document may be laid at a well-formed key, and an object also at the root.
* `extend_stores_each_scalar_once`: when a document can be laid over a store, and what it leaves.
-/

namespace TypedConfig.Value

open Key (Within Apart WellFormed child element isName)
open Step (keyBehind keyBehind_cons within_keyBehind)

/-! ### Scalars -/

/-- The text of a scalar other than null. -/
def scalarText? : Value → Option Text
  | null | array _ | object _ => none
  | boolean flag => some (if flag then "true" else "false")
  | number digits => some digits.text
  | string content => some content

/-- A document has a scalar other than null, with a text, at the end of steps. -/
def ScalarAt (document : Value) (steps : List Step) (text : Text) : Prop :=
  ∃ part, document.part? steps = some part ∧ part.scalarText? = some text

theorem scalarAt_nil_iff {document : Value} {text : Text} :
    document.ScalarAt [] text ↔ document.scalarText? = some text := by
  simp [ScalarAt, part?_nil]

theorem scalarAt_cons_iff {document : Value} {step : Step} {steps : List Step} {text : Text} :
    document.ScalarAt (step :: steps) text
      ↔ ∃ inner, document.inner? step = some inner ∧ inner.ScalarAt steps text := by
  simp only [ScalarAt, part?_cons_eq_some_iff]
  constructor
  · rintro ⟨part, ⟨inner, found, further⟩, scalar⟩
    exact ⟨inner, found, part, further, scalar⟩
  · rintro ⟨inner, found, part, further, scalar⟩
    exact ⟨part, ⟨inner, found, further⟩, scalar⟩

/-- What is no container has a scalar at most at its own place. -/
theorem scalarAt_iff_of_leaf {document : Value} (leaf : ∀ step, document.inner? step = none)
    {steps : List Step} {text : Text} :
    document.ScalarAt steps text ↔ steps = [] ∧ document.scalarText? = some text := by
  cases steps with
  | nil => rw [scalarAt_nil_iff, eq_self, true_and]
  | cons step steps =>
    refine iff_of_false ?_ fun both => List.cons_ne_nil _ _ both.1
    rw [scalarAt_cons_iff]
    rintro ⟨inner, found, -⟩
    cases (leaf step).symm.trans found

theorem scalarAt_array_iff {items : List Value} {steps : List Step} {text : Text} :
    (array items).ScalarAt steps text ↔ ∃ index further item, steps = .index index :: further
      ∧ items[index]? = some item ∧ item.ScalarAt further text := by
  constructor
  · intro scalar
    cases steps with
    | nil => cases scalarAt_nil_iff.1 scalar
    | cons step further =>
      obtain ⟨item, found, inner⟩ := scalarAt_cons_iff.1 scalar
      cases step with
      | name name => cases found
      | index index => exact ⟨index, further, item, rfl, found, inner⟩
  · rintro ⟨index, further, item, rfl, found, inner⟩
    exact scalarAt_cons_iff.2 ⟨item, found, inner⟩

theorem scalarAt_object_iff {members : Table Value} {steps : List Step} {text : Text} :
    (object members).ScalarAt steps text ↔ ∃ name further value, steps = .name name :: further
      ∧ members.get? name = some value ∧ value.ScalarAt further text := by
  constructor
  · intro scalar
    cases steps with
    | nil => cases scalarAt_nil_iff.1 scalar
    | cons step further =>
      obtain ⟨value, found, inner⟩ := scalarAt_cons_iff.1 scalar
      cases step with
      | name name => exact ⟨name, further, value, rfl, found, inner⟩
      | index index => cases found
  · rintro ⟨name, further, value, rfl, found, inner⟩
    exact scalarAt_cons_iff.2 ⟨value, found, inner⟩

/-- A leaf has a property exactly where it has a scalar. -/
theorem mem_properties_iff_of_leaf {document : Value}
    (leaf : ∀ step, document.inner? step = none)
    (listed : ∀ key, document.properties key
      = (document.scalarText?.map fun text => (key, text)).toList)
    {key inner text : Text} :
    (inner, text) ∈ document.properties key
      ↔ ∃ steps, document.ScalarAt steps text ∧ inner = keyBehind key steps := by
  rw [listed, Option.mem_toList, Option.map_eq_some_iff]
  simp only [scalarAt_iff_of_leaf leaf]
  constructor
  · rintro ⟨_, scalar, same⟩
    cases same
    exact ⟨[], ⟨rfl, scalar⟩, rfl⟩
  · rintro ⟨_, ⟨rfl, scalar⟩, rfl⟩
    exact ⟨text, scalar, rfl⟩

/-- **The properties of a document are its scalars**, each at the key that its steps lead to. -/
theorem Keyed.mem_properties_iff {document : Value} (keyed : Keyed document)
    {key inner text : Text} :
    (inner, text) ∈ document.properties key
      ↔ ∃ steps, document.ScalarAt steps text ∧ inner = keyBehind key steps := by
  induction keyed generalizing key with
  | null => exact mem_properties_iff_of_leaf (fun _ => rfl) fun _ => by rw [properties]; rfl
  | boolean flag =>
    refine mem_properties_iff_of_leaf (fun _ => rfl) fun _ => ?_
    rw [properties, Value.text]
    rfl
  | number digits =>
    exact mem_properties_iff_of_leaf (fun _ => rfl) fun _ => by rw [properties]; rfl
  | string content =>
    exact mem_properties_iff_of_leaf (fun _ => rfl) fun _ => by rw [properties]; rfl
  | array each ih =>
    rw [mem_properties_array]
    simp only [scalarAt_array_iff]
    constructor
    · rintro ⟨index, item, found, mem⟩
      obtain ⟨steps, scalar, same⟩ := (ih item (List.mem_of_getElem? found)).1 mem
      exact ⟨.index index :: steps, ⟨index, steps, item, rfl, found, scalar⟩, same⟩
    · rintro ⟨_, ⟨index, steps, item, rfl, found, scalar⟩, same⟩
      exact ⟨index, item, found, (ih item (List.mem_of_getElem? found)).2 ⟨steps, scalar, same⟩⟩
  | object plain distinct each ih =>
    rw [mem_properties_object]
    simp only [scalarAt_object_iff]
    constructor
    · rintro ⟨⟨name, value⟩, found, mem⟩
      obtain ⟨steps, scalar, same⟩ := (ih _ found).1 mem
      exact ⟨.name name :: steps,
        ⟨name, steps, value, rfl, Table.get?_of_mem distinct found, scalar⟩, same⟩
    · rintro ⟨_, ⟨name, steps, value, rfl, found, scalar⟩, same⟩
      have mem := Table.mem_of_get? found
      exact ⟨(name, value), mem, (ih _ mem).2 ⟨steps, scalar, same⟩⟩

theorem Keyed.inner {document inner : Value} (keyed : Keyed document) {step : Step}
    (found : document.inner? step = some inner) : Keyed inner := by
  cases keyed with
  | null | boolean | number | string => cases found
  | array each =>
    cases step with
    | name name => cases found
    | index index => exact each inner (List.mem_of_getElem? found)
  | object plain distinct each =>
    cases step with
    | name name => exact each _ (Table.mem_of_get? found)
    | index index => cases found

/-- A step into a document leads to a key, and different steps to keys that are apart. -/
theorem Keyed.apart_key {document inner other : Value} (keyed : Keyed document)
    {first second : Step} (found : document.inner? first = some inner)
    (found' : document.inner? second = some other) (key : Text) :
    first.key key ≠ [] ∧ (first ≠ second → Apart (first.key key) (second.key key)) := by
  cases keyed with
  | null | boolean | number | string => cases found
  | array each =>
    cases first with
    | name name => cases found
    | index index =>
      cases second with
      | name name => cases found'
      | index index' =>
        refine ⟨Key.ne_nil_of_isBelow (Key.isBelow_element key index), fun different => ?_⟩
        exact Key.apart_element fun same => different (congrArg Step.index same)
  | object plain distinct each =>
    cases first with
    | index index => cases found
    | name name =>
      cases second with
      | index index' => cases found'
      | name name' =>
        have named := plain _ (Table.mem_of_get? found)
        refine ⟨Key.child_ne_nil (Key.ne_nil_of_isName named), fun different => ?_⟩
        exact Key.apart_child named (plain _ (Table.mem_of_get? found'))
          fun same => different (congrArg Step.name same)

theorem inner?_eq_none_of_scalarText? {document : Value} {text : Text}
    (scalar : document.scalarText? = some text) (step : Step) : document.inner? step = none := by
  cases document with
  | null | boolean | number | string => rfl
  | array | object => cases scalar

/-- **Different scalars of a document have different keys.** -/
theorem Keyed.eq_of_keyBehind_eq {document : Value} (keyed : Keyed document)
    {key text other : Text} {first second : List Step} (firstScalar : document.ScalarAt first text)
    (secondScalar : document.ScalarAt second other)
    (same : keyBehind key first = keyBehind key second) : first = second := by
  induction first generalizing document key second with
  | nil =>
    have leaf := inner?_eq_none_of_scalarText? (scalarAt_nil_iff.1 firstScalar)
    exact ((scalarAt_iff_of_leaf leaf).1 secondScalar).1.symm
  | cons step steps ih =>
    cases second with
    | nil =>
      have leaf := inner?_eq_none_of_scalarText? (scalarAt_nil_iff.1 secondScalar)
      exact ((scalarAt_iff_of_leaf leaf).1 firstScalar).1
    | cons step' steps' =>
      obtain ⟨inner, found, scalar⟩ := scalarAt_cons_iff.1 firstScalar
      obtain ⟨inner', found', scalar'⟩ := scalarAt_cons_iff.1 secondScalar
      rw [keyBehind_cons, keyBehind_cons] at same
      by_cases different : step = step'
      · subst different
        cases found.symm.trans found'
        rw [ih (keyed.inner found) scalar scalar' same]
      · -- what lies behind keys that are apart is never the same
        obtain ⟨inside, apart⟩ := keyed.apart_key found found' key
        have inside' := (keyed.apart_key found' found key).1
        have within := within_keyBehind inside' steps'
        exact absurd (same ▸ within) ((apart different).not_within (within_keyBehind inside steps))

/-! ### Places of documents -/

/-- A document may be laid at a well-formed key, and an object also at the root. -/
def Placed (key : Text) (document : Value) : Prop :=
  WellFormed key ∨ key = [] ∧ ∃ members, document = .object members

theorem Keyed.wellFormed_of_placed {document : Value} (keyed : Keyed document) {key : Text}
    (placed : Placed key document) : ∀ entry ∈ document.properties key, WellFormed entry.1 := by
  rcases placed with wellFormed | ⟨rfl, members, rfl⟩
  · exact keyed.wellFormed wellFormed
  · intro entry mem
    obtain ⟨member, found, mem⟩ := mem_properties_object.1 mem
    cases keyed with
    | object plain distinct each =>
      exact (each member found).wellFormed (Key.wellFormed_of_isName (plain member found)) entry mem

theorem Keyed.pairwise_apart_of_placed {document : Value} (keyed : Keyed document) {key : Text}
    (placed : Placed key document) :
    (document.properties key).Pairwise fun first second => Apart first.1 second.1 := by
  rcases placed with wellFormed | ⟨rfl, members, rfl⟩
  · exact keyed.pairwise_apart (Key.ne_nil_of_wellFormed wellFormed)
  · cases keyed with
    | object plain distinct each =>
      rw [properties]
      exact pairwise_apart_memberProperties plain distinct each fun member mem =>
        (each member mem).pairwise_apart (Key.ne_nil_of_isName (plain member mem))

end TypedConfig.Value

namespace TypedConfig.Store

open Key (Rivals WellFormed)
open Step (keyBehind)
open Value (Keyed Placed)

/-! ### Laying a document over a store -/

/-- **A document is stored scalar by scalar, each once and at its place.** Its scalars other than
null have different keys. It can be laid over a consistent store when none of these keys has a rival
there, and then the store holds the texts of the scalars at their keys, and else what it held. -/
theorem extend_stores_each_scalar_once {store : Store} {key : Text} {document : Value}
    (consistent : store.Consistent) (keyed : document.Keyed) (placed : Placed key document) :
    (∀ first second text other, document.ScalarAt first text → document.ScalarAt second other →
        keyBehind key first = keyBehind key second → first = second)
      ∧ ((store.extend key document).2 = none ↔ ∀ steps text, document.ScalarAt steps text →
          ∀ held ∈ store.keys, ¬ Rivals held (keyBehind key steps))
      ∧ ((store.extend key document).2 = none → ∀ inner text,
          (store.extend key document).1.get? inner = some text
            ↔ (∃ steps, document.ScalarAt steps text ∧ inner = keyBehind key steps)
              ∨ (∀ steps other, document.ScalarAt steps other → inner ≠ keyBehind key steps)
                ∧ store.get? inner = some text) := by
  have apart := keyed.pairwise_apart_of_placed placed
  have distinct : ((document.properties key).map Prod.fst).Nodup :=
    List.pairwise_map.2 (apart.imp fun here same => here.left (.inl same.symm))
  have free_iff : (∀ entry ∈ document.properties key, ∀ held ∈ store.keys, ¬ Rivals held entry.1)
      ↔ ∀ steps text, document.ScalarAt steps text →
          ∀ held ∈ store.keys, ¬ Rivals held (keyBehind key steps) := by
    constructor
    · exact fun free steps text scalar => free _ (keyed.mem_properties_iff.2 ⟨steps, scalar, rfl⟩)
    · intro free entry mem
      obtain ⟨steps, scalar, same⟩ := keyed.mem_properties_iff.1 mem
      exact same ▸ free steps entry.2 scalar
  have missing_iff (inner : Text) : inner ∉ (document.properties key).map Prod.fst
      ↔ ∀ steps text, document.ScalarAt steps text → inner ≠ keyBehind key steps := by
    constructor
    · rintro missing steps text scalar rfl
      exact missing (List.mem_map_of_mem (keyed.mem_properties_iff.2 ⟨steps, scalar, rfl⟩))
    · intro different mem
      obtain ⟨⟨_, text⟩, listed, rfl⟩ := List.mem_map.1 mem
      obtain ⟨steps, scalar, same⟩ := keyed.mem_properties_iff.1 listed
      exact different steps text scalar same
  refine ⟨fun _ _ _ _ => keyed.eq_of_keyBehind_eq, ?_, fun done inner text => ?_⟩
  · rw [extend, setAll_eq_none_iff consistent distinct, free_iff]
    refine ⟨fun all => all.2.2, fun free => ?_⟩
    exact ⟨keyed.wellFormed_of_placed placed, apart.imp Key.Apart.not_rivals, free⟩
  · rw [← missing_iff, ← keyed.mem_properties_iff]
    exact get?_setAll_eq_some_iff distinct (Prod.ext rfl done)

/-- A store with a member of `a` and a value. -/
def formerStore : Store := (empty.setAll [("a.b", "old"), ("k", "0")]).1

/-- A list with a null in front of an object. -/
def mixedItems : Value := .array [.null, .object [("d", .boolean true)]]

/-- A document with an empty container and scalars at different depths. -/
def nestedDocument : Value :=
  .object [("a", .object [("b", .string "new"), ("c", mixedItems)]), ("e", .object [])]

theorem keyed_nestedDocument : nestedDocument.Keyed := by
  have mixed : mixedItems.Keyed := by
    refine .array (List.forall_mem_cons.2 ⟨.null, List.forall_mem_singleton.2 ?_⟩)
    exact .object (by decide) (by decide) (List.forall_mem_singleton.2 (.boolean true))
  refine .object (by decide) (by decide)
    (List.forall_mem_cons.2 ⟨?_, List.forall_mem_singleton.2 ?_⟩)
  · exact .object (by decide) (by decide)
      (List.forall_mem_cons.2 ⟨.string "new", List.forall_mem_singleton.2 mixed⟩)
  · exact .object (by decide) (by decide) (List.forall_mem_nil _)

theorem formerStore_extend :
    (formerStore.extend [] nestedDocument).2 = none
      ∧ (formerStore.extend [] nestedDocument).1.get? "a.b" = some ("new" : Text)
      ∧ (formerStore.extend [] nestedDocument).1.get? "a.c[1].d" = some ("true" : Text)
      ∧ (∀ first second text other, nestedDocument.ScalarAt first text →
          nestedDocument.ScalarAt second other → keyBehind [] first = keyBehind [] second →
          first = second)
      ∧ (formerStore.extend "k.x" nestedDocument).2 ≠ none := by
  have consistent : formerStore.Consistent := consistent_empty.setAll _
  have atRoot : Placed [] nestedDocument := .inr ⟨rfl, _, rfl⟩
  have behind : Placed "k.x" nestedDocument := .inl (by decide)
  have done : (formerStore.extend [] nestedDocument).2 = none := by decide
  obtain ⟨apart, -, stored⟩ :=
    extend_stores_each_scalar_once consistent keyed_nestedDocument atRoot
  obtain ⟨-, succeeds, -⟩ := extend_stores_each_scalar_once consistent keyed_nestedDocument behind
  refine ⟨done, (stored done _ _).2 (.inl ⟨[.name "a", .name "b"], ⟨_, rfl, rfl⟩, rfl⟩),
    (stored done _ _).2 (.inl ⟨[.name "a", .name "c", .index 1, .name "d"], ⟨_, rfl, rfl⟩, ?_⟩),
    apart, fun all => ?_⟩
  · decide
  · exact succeeds.1 all [.name "a", .name "b"] _ ⟨_, rfl, rfl⟩ "k" (by decide) (by decide)

end TypedConfig.Store
