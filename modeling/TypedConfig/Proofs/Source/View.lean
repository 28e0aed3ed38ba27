import Mathlib.Data.List.Nodup
import TypedConfig.Proofs.Key.Extension
import TypedConfig.Proofs.Store.Flatten
import TypedConfig.Source

/-!
# What a source shows at a key

All that a source shows at a key, for a single store as well as for overlaid ones, is said by the
values that it holds at the key and behind it.

* `has_eq`, `members?_eq`: overlaid stores are seen as one store with the keys of all would be.
* `has_iff`: a key is there when some key within it holds a value.
* `members?_of_isSome`, `exists_members?`: a key with a value has no members; otherwise the members
  are the first names behind the dots that follow the key.
* `has_child_of_members?`: what is listed as a member is there.
* `exists_missing`: no source has all elements of a sequence, since elements of different indices
  have values of their own.
-/

namespace TypedConfig.Source

open Key (Inward Within element)

variable {source : Source} {key : Text}

/-- The keys that hold a value, each as often as stores hold it. -/
def keys : Source → List Text
  | plain store => store.keys
  | overlay top base => top.keys ++ base.keys

theorem length_keys (source : Source) : source.keys.length = source.size := by
  induction source with
  | plain store => exact List.length_map ..
  | overlay top base ih =>
    rw [keys, size, List.length_append, ih]
    exact congrArg (· + base.size) (List.length_map ..)

theorem isSome_get?_iff : (source.get? key).isSome ↔ key ∈ source.keys := by
  induction source with
  | plain store => exact Store.isSome_get?_iff
  | overlay top base ih =>
    rw [get?, keys, List.mem_append, ← ih, ← Store.isSome_get?_iff]
    cases top.get? key <;> simp

/-! ### One store in place of many -/

/-- The keys inside a container; the empty text names the root, which contains every key. -/
def keysBelow (source : Source) (top : Text) : List Text :=
  source.keys.filter fun key => if top = [] then key != [] else Key.isBelow top key

theorem keysBelow_overlay (top : Store) (base : Source) (key : Text) :
    (overlay top base).keysBelow key = top.keysBelow key ++ base.keysBelow key :=
  List.filter_append ..

/-- A source has a key as a store with all its keys would. -/
theorem has_eq (source : Source) (key : Text) :
    source.has key = ((source.get? key).isSome || !(source.keysBelow key).isEmpty) := by
  induction source with
  | plain store => rfl
  | overlay top base ih =>
    rw [has, ih, get?, keysBelow_overlay, Store.has, Store.hasBelow]
    cases top.get? key <;> cases top.keysBelow key <;> simp

theorem sortedNames_append (names others : List Text) :
    Store.sortedNames (Store.sortedNames names ++ Store.sortedNames others)
      = Store.sortedNames (names ++ others) := by
  refine Store.eq_of_ascending (Table.sorted_ofList _) (Table.sorted_ofList _) fun name => ?_
  simp only [Store.mem_sortedNames, List.mem_append]

/-- A source lists the members of a key as a store with all its keys would. -/
theorem members?_eq (source : Source) (key : Text) :
    source.members? key = if (source.get? key).isSome then .error (.conflict key .valueHere)
      else .ok (Store.sortedNames ((source.keysBelow key).filterMap (Store.memberName? key))) := by
  induction source with
  | plain store => rfl
  | overlay top base ih =>
    rw [members?, ih, get?, keysBelow_overlay, List.filterMap_append, ← sortedNames_append,
      Store.members?]
    cases top.get? key with
    | some text => rfl
    | none => cases base.get? key <;> rfl

theorem mem_keysBelow_iff (inside : key ≠ []) {inner : Text} :
    inner ∈ source.keysBelow key ↔ (source.get? inner).isSome ∧ Key.isBelow key inner := by
  rw [keysBelow, List.mem_filter, if_neg inside, isSome_get?_iff]

/-- Sources with the same text at a key and the same keys inside it list the same members. -/
theorem members?_congr {first second : Source} (here : first.get? key = second.get? key)
    (below : ∀ inner, inner ∈ first.keysBelow key ↔ inner ∈ second.keysBelow key) :
    first.members? key = second.members? key := by
  rw [members?_eq, members?_eq, here]
  congr 2
  refine Store.eq_of_ascending (Table.sorted_ofList _) (Table.sorted_ofList _) fun name => ?_
  show name ∈ Store.sortedNames _ ↔ name ∈ Store.sortedNames _
  simp only [Store.mem_sortedNames, List.mem_filterMap, below]

/-! ### Presence -/

theorem has_iff_exists_mem (inside : key ≠ []) :
    source.has key ↔ ∃ inner ∈ source.keys, Within key inner := by
  rw [has_eq, Bool.or_eq_true, isSome_get?_iff, Bool.not_eq_true',
    List.isEmpty_eq_false_iff_exists_mem]
  simp only [keysBelow, List.mem_filter, if_neg inside]
  constructor
  · rintro (here | ⟨inner, mem, below⟩)
    · exact ⟨key, here, .refl key⟩
    · exact ⟨inner, mem, .of_isBelow below⟩
  · rintro ⟨inner, mem, rfl | below⟩
    · exact .inl mem
    · exact .inr ⟨inner, mem, below⟩

/-- The root is there when any key holds a value, and another key when a key within it does. -/
theorem has_iff_exists :
    source.has key ↔ ∃ inner, (source.get? inner).isSome ∧ (key = [] ∨ Within key inner) := by
  by_cases inside : key = []
  · subst inside
    rw [has_eq, Bool.or_eq_true, Bool.not_eq_true', List.isEmpty_eq_false_iff_exists_mem]
    simp only [keysBelow, List.mem_filter, ← isSome_get?_iff, true_or, and_true]
    constructor
    · rintro (here | ⟨inner, found, -⟩)
      · exact ⟨[], here⟩
      · exact ⟨inner, found⟩
    · rintro ⟨inner, found⟩
      by_cases root : inner = []
      · exact .inl (root ▸ found)
      · exact .inr ⟨inner, found, by simp [root]⟩
  · rw [has_iff_exists_mem inside]
    simp only [inside, false_or, isSome_get?_iff]

/-- **A key is there when it, or a key below it, holds a value.** -/
theorem has_iff (inside : key ≠ []) :
    source.has key ↔ ∃ rest, Inward rest ∧ (source.get? (key ++ rest)).isSome := by
  rw [has_iff_exists_mem inside]
  constructor
  · rintro ⟨inner, mem, within⟩
    obtain ⟨rest, inward, rfl⟩ := Key.within_iff_inward.1 within
    exact ⟨rest, inward, isSome_get?_iff.2 mem⟩
  · rintro ⟨rest, inward, found⟩
    exact ⟨key ++ rest, isSome_get?_iff.1 found, Key.within_iff_inward.2 ⟨rest, inward, rfl⟩⟩

/-! ### Members -/

theorem members?_of_isSome (value : (source.get? key).isSome) :
    source.members? key = .error (.conflict key .valueHere) := by
  rw [members?_eq, if_pos value]

/-- A key below another belongs to the member that is named behind the dot. -/
theorem memberName?_append {name rest : Text} (inside : key ≠ []) (inward : Inward rest) :
    Store.memberName? key (key ++ rest) = some name
      ↔ ∃ more, rest = '.' :: more ∧ Key.firstName more = name := by
  cases rest with
  | nil =>
    have nothing : key.dropStart? key = some [] := Text.dropStart?_eq_some_iff.2 (by simp)
    rw [List.append_nil, Store.memberName?, if_neg inside, Key.suffixBelow?, nothing]
    simp
  | cons char rest =>
    have descends := Key.inward_cons.1 inward
    rw [Store.memberName?, if_neg inside, Key.suffixBelow?_append descends]
    rcases descends with rfl | rfl <;> simp

theorem mem_memberNames_iff {name : Text} (inside : key ≠ []) :
    name ∈ (source.keysBelow key).filterMap (Store.memberName? key)
      ↔ ∃ more, (source.get? (key ++ '.' :: more)).isSome ∧ Key.firstName more = name := by
  rw [List.mem_filterMap]
  constructor
  · rintro ⟨inner, mem, named⟩
    rw [keysBelow, List.mem_filter, if_neg inside] at mem
    obtain ⟨rest, inward, rfl⟩ := Key.within_iff_inward.1 (.of_isBelow mem.2)
    obtain ⟨more, rfl, same⟩ := (memberName?_append inside inward).1 named
    exact ⟨more, isSome_get?_iff.2 mem.1, same⟩
  · rintro ⟨more, found, same⟩
    have below : Key.isBelow key (key ++ '.' :: more) := Key.isBelow_iff.2 ⟨_, _, .inl rfl, rfl⟩
    refine ⟨key ++ '.' :: more, ?_, ?_⟩
    · rw [keysBelow, List.mem_filter, if_neg inside]
      exact ⟨isSome_get?_iff.1 found, below⟩
    · exact (memberName?_append inside (Key.inward_cons.2 (.inl rfl))).2 ⟨more, rfl, same⟩

/-- A member is named by what a stored key continues its container with. -/
theorem exists_child_of_mem_memberNames {name : Text}
    (mem : name ∈ (source.keysBelow key).filterMap (Store.memberName? key)) :
    ∃ more, (source.get? (Key.child key more)).isSome ∧ Key.firstName more = name := by
  by_cases root : key = []
  · obtain ⟨inner, found, named⟩ := List.mem_filterMap.1 mem
    rw [Store.memberName?, if_pos root] at named
    refine ⟨inner, ?_, Option.some.inj named⟩
    rw [Key.child, if_pos root]
    exact isSome_get?_iff.2 (List.mem_of_mem_filter found)
  · obtain ⟨more, found, named⟩ := (mem_memberNames_iff root).1 mem
    exact ⟨more, Key.child_eq root ▸ found, named⟩

/-- What is listed as a member is there. -/
theorem has_child_of_members? {names : List Text} {name : Text}
    (listed : source.members? key = .ok names) (mem : name ∈ names) :
    source.has (Key.child key name) := by
  rw [members?_eq] at listed
  split_ifs at listed
  cases listed
  obtain ⟨more, found, rfl⟩ := exists_child_of_mem_memberNames (Store.mem_sortedNames.1 mem)
  obtain ⟨rest, inward, split⟩ := Key.exists_firstName_append more
  refine has_iff_exists.2 ⟨_, found, .inr (Key.within_iff_inward.2 ⟨rest, inward, ?_⟩)⟩
  rw [← Key.child_append, ← split]

/-- **The members of a key without a value** are the first names behind its dots, in order. -/
theorem exists_members? (inside : key ≠ []) (none : source.get? key = none) :
    ∃ names, source.members? key = .ok names ∧ names.Pairwise (· < ·)
      ∧ ∀ name, name ∈ names
        ↔ ∃ more, (source.get? (key ++ '.' :: more)).isSome ∧ Key.firstName more = name := by
  have listed := source.members?_eq key
  rw [none, Option.isSome_none, if_neg Bool.false_ne_true] at listed
  refine ⟨_, listed, Table.sorted_ofList _, fun name => ?_⟩
  exact Store.mem_sortedNames.trans (mem_memberNames_iff inside)

theorem mem_members?_iff (inside : key ≠ []) {names : List Text}
    (listed : source.members? key = .ok names) {name : Text} :
    name ∈ names
      ↔ ∃ more, (source.get? (key ++ '.' :: more)).isSome ∧ Key.firstName more = name := by
  cases found : source.get? key with
  | some text =>
    rw [members?_of_isSome (found ▸ rfl)] at listed
    cases listed
  | none =>
    obtain ⟨others, listed', -, complete⟩ := exists_members? inside found
    cases listed.symm.trans listed'
    exact complete name

/-! ### Elements -/

/-- **Some element of a sequence is missing**, and it is found within as many steps as the source
has properties: the values of different elements stand at different keys. -/
theorem exists_missing (source : Source) (key : Text) :
    ∃ index ≤ source.size, ¬ source.has (element key index) := by
  by_contra all
  push Not at all
  have each (index : Nat) : ∃ inner, index ≤ source.size →
      inner ∈ source.keys ∧ Within (element key index) inner := by
    by_cases low : index ≤ source.size
    · obtain ⟨inner, mem, within⟩ :=
        (has_iff_exists_mem (Key.ne_nil_of_isBelow (Key.isBelow_element key index))).1
          (all index low)
      exact ⟨inner, fun _ => ⟨mem, within⟩⟩
    · exact ⟨[], fun here => absurd here low⟩
  choose inner found using each
  have subset : (List.range (source.size + 1)).map inner ⊆ source.keys := by
    intro other mem
    obtain ⟨index, low, rfl⟩ := List.mem_map.1 mem
    exact (found index (Nat.lt_succ_iff.1 (List.mem_range.1 low))).1
  have distinct : ((List.range (source.size + 1)).map inner).Nodup := by
    refine List.Nodup.map_on (fun first firstLow second secondLow same => ?_) List.nodup_range
    by_contra different
    have inFirst := (found first (Nat.lt_succ_iff.1 (List.mem_range.1 firstLow))).2
    have inSecond := (found second (Nat.lt_succ_iff.1 (List.mem_range.1 secondLow))).2
    rw [← same] at inSecond
    exact (Key.apart_element different).not_within inFirst inSecond
  have bounded := distinct.length_le_of_subset subset
  rw [List.length_map, List.length_range, length_keys] at bounded
  exact absurd bounded (Nat.not_succ_le_self _)

end TypedConfig.Source
