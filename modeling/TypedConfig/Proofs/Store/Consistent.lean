import TypedConfig.Layer.Environment
import TypedConfig.Proofs.Key.Grammar
import TypedConfig.Store.Flatten

/-!
# Consistent stores

A store is consistent when its keys are well formed and none is below another, so that every key is
either a value or a container.

* `set_eq_ok_iff`: when a property can be written, and what it leaves behind.
* `exists_set_eq_conflict`, `writable_iff`: what keeps a property from being written is its grammar
  or, in a consistent store, a rival.
* `Consistent.set`, `Consistent.setAll`: writing keeps a store consistent, also when it stops at an
  error midway.
* `Reachable`: the stores that runs of the writing operations lead to.
* `consistent_of_reachable`: these are consistent.
-/

namespace TypedConfig.Store

open Key (isBelow Within WellFormed Rivals)

/-- The keys that hold a value. -/
def keys (store : Store) : List Text := store.entries.names

/-! ### Views -/

theorem isSome_get?_iff {store : Store} {key : Text} : (store.get? key).isSome ↔ key ∈ store.keys :=
  Table.isSome_get?_iff

theorem get?_eq_none_iff {store : Store} {key : Text} : store.get? key = none ↔ key ∉ store.keys :=
  Table.get?_eq_none_iff

theorem hasBelow_iff {store : Store} {top : Text} (inside : top ≠ []) :
    store.hasBelow top ↔ ∃ key ∈ store.keys, isBelow top key := by
  rw [hasBelow, Bool.not_eq_true', List.isEmpty_eq_false_iff_exists_mem]
  refine exists_congr fun key => ?_
  rw [keysBelow, List.mem_filter, if_neg inside, keys]

theorem has_iff {store : Store} {top : Text} (inside : top ≠ []) :
    store.has top ↔ ∃ key ∈ store.keys, Within top key := by
  rw [has, Bool.or_eq_true, isSome_get?_iff, hasBelow_iff inside]
  constructor
  · rintro (here | ⟨key, mem, below⟩)
    · exact ⟨top, here, .refl top⟩
    · exact ⟨key, mem, .of_isBelow below⟩
  · rintro ⟨key, mem, rfl | below⟩
    · exact .inl mem
    · exact .inr ⟨key, mem, below⟩

theorem mem_keys_insert {store : Store} {key value other : Text} :
    other ∈ (store.insert key value).keys ↔ other = key ∨ other ∈ store.keys :=
  Table.mem_names_insert

theorem get?_insert (store : Store) (key value other : Text) :
    (store.insert key value).get? other = if other = key then some value else store.get? other :=
  Table.get?_insert store.entries key other value

/-- A store that is made of a list holds what the list has under its keys. -/
theorem get?_ofTable {entries : List (Text × Text)} (distinct : (entries.map Prod.fst).Nodup)
    {key text : Text} : (ofTable entries).get? key = some text ↔ (key, text) ∈ entries := by
  show Table.get? key (Table.ofList entries) = some text ↔ _
  rw [Table.get?_ofList distinct]
  exact ⟨Table.mem_of_get?, Table.get?_of_mem distinct⟩

theorem length_le_weight {store : Store} {key text : Text} (stored : store.get? key = some text) :
    key.length ≤ store.weight := by
  suffices general : ∀ entries : Table Text, (key, text) ∈ entries →
      key.length ≤ entries.foldr (fun entry total => entry.1.length + entry.2.length + total) 0 from
    general store.entries (Table.mem_of_get? stored)
  intro entries mem
  induction entries with
  | nil => cases mem
  | cons entry entries ih =>
    rw [List.foldr_cons]
    rcases List.mem_cons.1 mem with rfl | later
    · exact Nat.le_add_right_of_le (Nat.le_add_right _ _)
    · exact Nat.le_add_left_of_le (ih later)

/-! ### Writing one property -/

/-- A property may stand at a key: the key is well formed, no container around it holds a value,
and it is no container unless it holds a value already. -/
structure Writable (store : Store) (key : Text) : Prop where
  wellFormed : WellFormed key
  above : ∀ top ∈ store.keys, ¬ isBelow top key
  below : key ∈ store.keys ∨ ∀ inner ∈ store.keys, ¬ isBelow key inner

theorem set_eq_ok_iff {store result : Store} {key value : Text} :
    store.set key value = .ok result ↔ store.Writable key ∧ store.insert key value = result := by
  constructor
  · intro written
    rw [set] at written
    split at written
    next => cases written
    next containers scanned =>
      have wellFormed := Key.exists_containers?_iff.1 ⟨containers, scanned⟩
      split at written
      next => cases written
      next free =>
        split_ifs at written with crowded
        refine ⟨⟨wellFormed, fun top mem below => ?_, ?_⟩, Except.ok.inj written⟩
        · refine List.find?_eq_none.1 free top ?_ (isSome_get?_iff.2 mem)
          exact (Key.mem_containers?_iff scanned).2 below
        · rw [Bool.and_eq_true, not_and_or, Option.isNone_iff_eq_none, get?_eq_none_iff, not_not,
            hasBelow_iff (Key.ne_nil_of_wellFormed wellFormed)] at crowded
          exact crowded.imp_right fun none inner mem below => none ⟨inner, mem, below⟩
  · rintro ⟨⟨wellFormed, above, below⟩, rfl⟩
    obtain ⟨containers, scanned⟩ := Key.exists_containers?_iff.2 wellFormed
    have free : (containers.find? fun container => (store.get? container).isSome) = none := by
      refine List.find?_eq_none.2 fun top mem holds => ?_
      exact above top (isSome_get?_iff.1 holds) ((Key.mem_containers?_iff scanned).1 mem)
    have room : ¬ ((store.get? key).isNone && store.hasBelow key) = true := by
      rw [Bool.and_eq_true, not_and_or, Option.isNone_iff_eq_none, get?_eq_none_iff, not_not,
        hasBelow_iff (Key.ne_nil_of_wellFormed wellFormed)]
      exact below.imp_right fun none ⟨inner, mem, inside⟩ => none inner mem inside
    simp only [set, scanned, free]
    rw [if_neg room]

/-- A well-formed key without rivals can be written. -/
theorem writable_of_free {store : Store} {key : Text} (wellFormed : WellFormed key)
    (free : ∀ other ∈ store.keys, ¬ Rivals other key) : store.Writable key :=
  ⟨wellFormed, fun other mem inside => free other mem (.inl inside),
    .inr fun other mem outside => free other mem (.inr outside)⟩

/-- A well-formed key that cannot be written is in conflict with what the store holds. -/
theorem exists_set_eq_conflict {store : Store} {key : Text} (wellFormed : WellFormed key)
    (blocked : ¬ store.Writable key) (value : Text) :
    ∃ reason, store.set key value = .error (.conflict key reason) := by
  obtain ⟨containers, scanned⟩ := Key.exists_containers?_iff.2 wellFormed
  cases outcome : store.set key value with
  | ok result => exact absurd (set_eq_ok_iff.1 outcome).1 blocked
  | error error =>
    simp only [set, scanned] at outcome
    split at outcome
    next container _ =>
      cases outcome
      exact ⟨_, rfl⟩
    next =>
      split_ifs at outcome
      cases outcome
      exact ⟨_, rfl⟩

/-! ### Consistency -/

/-- The keys of a store are well formed, and none is below another. -/
structure Consistent (store : Store) : Prop where
  wellFormed : ∀ key ∈ store.keys, WellFormed key
  apart : ∀ top ∈ store.keys, ∀ key ∈ store.keys, ¬ isBelow top key

theorem consistent_empty : Consistent empty := by
  constructor <;> intro key mem <;> cases mem

theorem Consistent.set {store result : Store} {key value : Text} (consistent : Consistent store)
    (written : store.set key value = .ok result) : Consistent result := by
  obtain ⟨⟨wellFormed, above, below⟩, rfl⟩ := set_eq_ok_iff.1 written
  constructor
  · intro other mem
    rcases mem_keys_insert.1 mem with rfl | mem
    · exact wellFormed
    · exact consistent.wellFormed other mem
  · intro top topMem inner innerMem inside
    rcases mem_keys_insert.1 topMem with rfl | topOld
    · rcases mem_keys_insert.1 innerMem with rfl | innerOld
      · exact absurd (Key.length_lt_of_isBelow inside) (Nat.lt_irrefl _)
      · rcases below with mem | none
        · exact consistent.apart _ mem inner innerOld inside
        · exact none inner innerOld inside
    · rcases mem_keys_insert.1 innerMem with rfl | innerOld
      · exact above top topOld inside
      · exact consistent.apart top topOld inner innerOld inside

/-- Writing properties keeps a store consistent, wherever it stops. -/
theorem Consistent.setAll {store : Store} (consistent : Consistent store)
    (entries : List (Text × Text)) : Consistent (store.setAll entries).1 := by
  induction entries generalizing store with
  | nil => exact consistent
  | cons entry entries ih =>
    obtain ⟨key, value⟩ := entry
    rw [Store.setAll]
    split
    next result written => exact ih (consistent.set written)
    next => exact consistent

theorem consistent_of_setVariable? {store result : Store} {scope name value : Text}
    (consistent : Consistent store) (written : store.setVariable? scope name value = some result) :
    Consistent result := by
  rw [setVariable?] at written
  split at written
  next => cases written
  next key found =>
    cases outcome : store.set key value with
    | error error =>
      rw [outcome] at written
      cases written
    | ok next =>
      rw [outcome] at written
      cases written
      exact consistent.set outcome

theorem Consistent.loadVariables {store : Store} (consistent : Consistent store) (scope : Text)
    (assignments : List (Text × Text)) : Consistent (store.loadVariables scope assignments).1 := by
  induction assignments generalizing store with
  | nil => exact consistent
  | cons assignment assignments ih =>
    obtain ⟨name, value⟩ := assignment
    rw [Store.loadVariables]
    split
    next => exact ih consistent
    next result written => exact ih (consistent_of_setVariable? consistent written)

/-- **In a consistent store a key can be written when it is well formed and has no rival.** -/
theorem writable_iff {store : Store} {key : Text} (consistent : store.Consistent) :
    store.Writable key ↔ WellFormed key ∧ ∀ other ∈ store.keys, ¬ Rivals other key := by
  refine ⟨?_, fun ⟨wellFormed, free⟩ => writable_of_free wellFormed free⟩
  rintro ⟨wellFormed, above, below⟩
  refine ⟨wellFormed, fun other mem rivals => ?_⟩
  rcases rivals with inside | outside
  · exact above other mem inside
  · rcases below with here | free
    · exact consistent.apart key here other mem outside
    · exact free other mem outside

/-- What has a value can be written again. -/
theorem Consistent.writable_of_mem {store : Store} {key : Text} (consistent : store.Consistent)
    (mem : key ∈ store.keys) : store.Writable key :=
  ⟨consistent.wellFormed key mem, fun top topMem => consistent.apart top topMem key mem, .inl mem⟩

/-- No text of a consistent store has both a value and a key below it. -/
theorem Consistent.not_value_and_container {store : Store} (consistent : Consistent store)
    (text : Text) : ¬ ((store.get? text).isSome ∧ store.hasBelow text) := by
  rintro ⟨value, container⟩
  have mem := isSome_get?_iff.1 value
  have inside := Key.ne_nil_of_wellFormed (consistent.wellFormed text mem)
  obtain ⟨key, keyMem, below⟩ := (hasBelow_iff inside).1 container
  exact consistent.apart text mem key keyMem below

/-! ### Runs -/

/-- The stores that runs of writing operations lead to from the empty store. An operation that fails
midway leads to the store that it leaves behind. -/
inductive Reachable : Store → Prop
  | empty : Reachable empty
  | set {store result : Store} {key value : Text} (reached : Reachable store)
      (written : store.set key value = .ok result) : Reachable result
  | merge {store other : Store} (reached : Reachable store) (otherReached : Reachable other) :
      Reachable (store.merge other).1
  | extend {store : Store} (reached : Reachable store) (key : Text) (document : Value) :
      Reachable (store.extend key document).1
  | loadVariables {store : Store} (reached : Reachable store) (scope : Text)
      (assignments : List (Text × Text)) : Reachable (store.loadVariables scope assignments).1

theorem consistent_of_reachable {store : Store} (reachable : Reachable store) :
    Consistent store := by
  induction reachable with
  | empty => exact consistent_empty
  | set _ written ih => exact ih.set written
  | merge _ _ ih _ => exact ih.setAll _
  | extend _ key document ih => exact ih.setAll _
  | loadVariables _ scope assignments ih => exact ih.loadVariables scope assignments

/-- **Every store that a run leads to is a tree**: its keys are well formed, no key continues
another with a dot or an index, and no text has both a value and a key below it. -/
theorem reachable_store_is_tree {store : Store} (reachable : Reachable store) :
    (∀ key ∈ store.keys, WellFormed key)
      ∧ (∀ top ∈ store.keys, ∀ char rest, (char = '.' ∨ char = '[') →
          top ++ char :: rest ∉ store.keys)
      ∧ ∀ text, ¬ ((store.get? text).isSome ∧ store.hasBelow text) := by
  have consistent := consistent_of_reachable reachable
  refine ⟨consistent.wellFormed, fun top topMem char rest descends mem => ?_,
    consistent.not_value_and_container⟩
  exact consistent.apart top topMem _ mem (Key.isBelow_iff.2 ⟨char, rest, descends, rfl⟩)

/-- A store with a value under `a.b`. -/
def nestedStore : Store := (empty.extend [] (.object [("a", .object [("b", .string "1")])])).1

/-- A store that cannot be merged into it: its second key is a container there. -/
def rivalStore : Store := (empty.extend [] (.object [("A", .string "2"), ("a", .string "3")])).1

theorem stopped_merge_is_tree :
    Reachable (nestedStore.merge rivalStore).1
      ∧ (nestedStore.merge rivalStore).2 = some (.conflict "a" (.containerHere "a"))
      ∧ (nestedStore.merge rivalStore).1.keys = ["A", "a.b"]
      ∧ (∀ key ∈ (nestedStore.merge rivalStore).1.keys, WellFormed key)
      ∧ (∀ top ∈ (nestedStore.merge rivalStore).1.keys, ∀ char rest, (char = '.' ∨ char = '[') →
          top ++ char :: rest ∉ (nestedStore.merge rivalStore).1.keys)
      ∧ ∀ text, ¬ (((nestedStore.merge rivalStore).1.get? text).isSome
          ∧ (nestedStore.merge rivalStore).1.hasBelow text) := by
  have reachable : Reachable (nestedStore.merge rivalStore).1 :=
    .merge (.extend .empty _ _) (.extend .empty _ _)
  exact ⟨reachable, by decide, by decide, reachable_store_is_tree reachable⟩

end TypedConfig.Store
