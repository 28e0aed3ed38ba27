import Mathlib
import TypedConfig.Proofs.Layer.Environment
import TypedConfig.Proofs.Text.Parts

/-!
# Environment variables one by one

Loading variables never stops. A variable is passed over when it has no key or when its key cannot
stand beside the keys that are held by then, and else it sets its key and no other one. The keys
that variables can have are found from the names that are made of them.

* `variableKey?_variableName`: the name that is made of a key is the name of a variable of that key.
* `setVariable?_eq_none_iff`: in a consistent store, what passes over a variable is its name, the
  grammar of its key or a rival.
* `loadVariables_sets_or_passes_over`: what loading a list of variables does, variable by variable.
-/

namespace TypedConfig

open Key (Rivals WellFormed)

/-! ### Names of keys -/

section

variable {char : Char}

theorem isUpper_iff : char.isUpper ↔ 65 ≤ char.toNat ∧ char.toNat ≤ 90 := by
  rw [Char.isUpper, decide_eq_true_iff, ge_iff_le, UInt32.le_iff_toNat_le, UInt32.le_iff_toNat_le]
  rfl

theorem toNat_toUpper (small : 'a'.val ≤ char.val ∧ char.val ≤ 'z'.val) :
    char.toUpper.toNat + 32 = char.toNat ∧ 97 ≤ char.toNat ∧ char.toNat ≤ 122 := by
  have bounds : 97 ≤ char.val.toNat ∧ char.val.toNat ≤ 122 := small
  have changed : char.toUpper.toNat = (char.val + ('A'.val - 'a'.val)).toNat := by
    rw [Char.toUpper, dif_pos small]
    rfl
  have shift : ('A'.val - 'a'.val).toNat = 2 ^ 32 - 32 := rfl
  rw [changed, UInt32.toNat_add, shift]
  have same : char.toNat = char.val.toNat := rfl
  omega

theorem toNat_toLower (upper : char.isUpper) : char.toLower.toNat = char.toNat + 32 := by
  have bounds := isUpper_iff.1 upper
  have changed : char.toLower.toNat = (char.val + ('a'.val - 'A'.val)).toNat := by
    rw [Char.toLower, dif_pos (of_decide_eq_true upper)]
    rfl
  have shift : ('a'.val - 'A'.val).toNat = 32 := rfl
  rw [changed, UInt32.toNat_add, shift]
  have same : char.toNat = char.val.toNat := rfl
  omega

theorem isUpper_toUpper (small : 'a'.val ≤ char.val ∧ char.val ≤ 'z'.val) :
    char.toUpper.isUpper := by
  rw [isUpper_iff]
  have changed := toNat_toUpper small
  omega

/-- A character that is no letter is what no other character becomes in upper case. -/
theorem toUpper_eq_iff {mark : Char} (same : mark.toUpper = mark) (plain : ¬ mark.isUpper) :
    char.toUpper = mark ↔ char = mark := by
  refine ⟨?_, fun here => here ▸ same⟩
  rintro rfl
  by_cases small : 'a'.val ≤ char.val ∧ char.val ≤ 'z'.val
  · exact absurd (isUpper_toUpper small) plain
  · rw [Char.toUpper, dif_neg small]

theorem toLower_toUpper (plain : ¬ char.isUpper) : char.toUpper.toLower = char := by
  by_cases small : 'a'.val ≤ char.val ∧ char.val ≤ 'z'.val
  · have there := toNat_toUpper small
    have back := toNat_toLower (isUpper_toUpper small)
    exact Char.toNat_inj.1 (by omega)
  · rw [Char.toUpper, dif_neg small, Char.toLower, dif_neg fun upper => plain (decide_eq_true upper)]

/-- A character of a key in the name of a variable. -/
def variableChar (char : Char) : Char := if char = '.' then '_' else char.toUpper

/-- The name of a variable of a key: behind the scope, the key in capital letters with underscores
in the place of its points. -/
def variableName (scope key : Text) : Text :=
  if scope = [] then key.map variableChar else scope ++ '_' :: key.map variableChar

theorem variableChar_eq_underscore_iff (other : char ≠ '_') :
    variableChar char = '_' ↔ char = '.' := by
  rw [variableChar]
  split
  next here => exact iff_of_true rfl here
  next elsewhere =>
    rw [toUpper_eq_iff rfl (by decide)]
    exact iff_of_false other elsewhere

theorem toLower_variableChar (other : char ≠ '_') (plain : ¬ char.isUpper) :
    (if (variableChar char).toLower = '_' then '.' else (variableChar char).toLower) = char := by
  rw [variableChar]
  split
  next here =>
    rw [here]
    rfl
  next elsewhere => rw [toLower_toUpper plain, if_neg other]

end

theorem unscoped?_variableName (scope key : Text) :
    unscoped? scope (variableName scope key) = some (key.map variableChar) := by
  rw [unscoped?, variableName]
  by_cases all : scope = []
  · rw [if_pos all, if_pos all]
  · rw [if_neg all, if_neg all, Text.dropStart?_append]
    rfl

/-- A segment of a key holds no point. -/
theorem not_mem_segment {segment : Key.Segment} (valid : segment.Valid) : '.' ∉ segment.text := by
  obtain ⟨plain, digits⟩ := valid
  simp only [Key.Segment.text, List.cons_append, List.mem_append, List.mem_flatMap, List.mem_cons,
    List.not_mem_nil, or_false, not_or, not_exists, not_and]
  refine ⟨fun point => Key.not_isMark_of_isName plain _ point rfl, fun index mem => ?_⟩
  refine ⟨by decide, fun point => ?_, by decide⟩
  have isDigits := digits index mem
  rw [Text.isDigits, Bool.and_eq_true, List.all_eq_true] at isDigits
  exact absurd (isDigits.2 '.' point) (by decide)

/-- Between the points of a key there are its segments. -/
theorem ne_nil_of_mem_splitOn {key part : Text} (wellFormed : WellFormed key)
    (mem : part ∈ Text.splitOn key '.') : part ≠ [] := by
  obtain ⟨segments, nonempty, valid, rfl⟩ := wellFormed
  have whole : ∀ text ∈ segments.map Key.Segment.text, '.' ∉ text :=
    List.forall_mem_map.2 fun segment here => not_mem_segment (valid segment here)
  rw [Key.ofSegments, Text.splitOn_join (by simpa using nonempty) whole] at mem
  obtain ⟨segment, here, rfl⟩ := List.mem_map.1 mem
  exact List.append_ne_nil_of_left_ne_nil (Key.ne_nil_of_isName (valid segment here).1) _

/-- **The name that is made of a key** without underscores and capital letters is the name of a
variable of that key. -/
theorem variableKey?_variableName (scope : Text) {key : Text} (wellFormed : WellFormed key)
    (unscored : '_' ∉ key) (plain : ∀ char ∈ key, ¬ char.isUpper) :
    variableKey? scope (variableName scope key) = some key := by
  have other : ∀ char ∈ key, char ≠ '_' := fun char mem same => unscored (same ▸ mem)
  have filled : (Text.splitOn (key.map variableChar) '_').any List.isEmpty = false := by
    rw [Text.splitOn_map fun char mem => variableChar_eq_underscore_iff (other char mem),
      List.any_map, List.any_eq_false]
    intro part mem
    simpa using ne_nil_of_mem_splitOn wellFormed mem
  rw [variableKey?, unscoped?_variableName]
  dsimp only
  rw [filled, if_neg Bool.false_ne_true, Text.lowerAscii, List.map_map, List.map_map]
  refine congrArg some ?_
  calc key.map _ = key.map id :=
        List.map_congr_left fun char mem => toLower_variableChar (other char mem) (plain char mem)
    _ = key := List.map_id key

namespace Store

variable {store : Store} {scope : Text}

/-! ### One variable -/

/-- Whether a variable is passed over: it has no key, or a key that is malformed or that rivals a
key with a value. -/
def PassesOver (store : Store) (scope name : Text) : Prop :=
  variableKey? scope name = none
    ∨ ∃ key ∈ variableKey? scope name, ¬ WellFormed key ∨ ∃ held ∈ store.keys, Rivals held key

instance (store : Store) (scope name : Text) : Decidable (store.PassesOver scope name) :=
  inferInstanceAs (Decidable (variableKey? scope name = none
    ∨ ∃ key ∈ variableKey? scope name, ¬ WellFormed key ∨ ∃ held ∈ store.keys, Rivals held key))

theorem not_passesOver_iff (consistent : store.Consistent) {name : Text} :
    ¬ store.PassesOver scope name
      ↔ ∃ key, variableKey? scope name = some key ∧ store.Writable key := by
  rw [PassesOver]
  cases found : variableKey? scope name with
  | none => simp
  | some key => simp [writable_iff consistent]

/-- **In a consistent store, only the name, the grammar or a rival passes over a variable.** -/
theorem setVariable?_eq_none_iff (consistent : store.Consistent) (scope name value : Text) :
    store.setVariable? scope name value = none ↔ store.PassesOver scope name := by
  constructor
  · intro absent
    by_contra accepted
    obtain ⟨key, found, writable⟩ := (not_passesOver_iff consistent).1 accepted
    rw [setVariable?_of_writable found writable] at absent
    cases absent
  · intro passed
    cases found : variableKey? scope name with
    | none => rw [setVariable?, found]
    | some key =>
      refine setVariable?_of_not_writable found (fun writable => ?_) value
      exact (not_passesOver_iff consistent).2 ⟨key, found, writable⟩ passed

/-! ### All variables -/

/-- The store that the variable at an index is loaded into. -/
def beforeVariable (store : Store) (scope : Text) (assignments : List (Text × Text))
    (index : Nat) : Store :=
  (store.loadVariables scope (assignments.take index)).1

theorem loadVariables_take_succ (store : Store) (scope : Text) {assignments : List (Text × Text)}
    {index : Nat} {name value : Text} (here : assignments[index]? = some (name, value)) :
    store.loadVariables scope (assignments.take (index + 1))
      = match (store.beforeVariable scope assignments index).setVariable? scope name value with
        | none => store.loadVariables scope (assignments.take index)
        | some next => (next, (store.loadVariables scope (assignments.take index)).2 + 1) := by
  rw [List.take_add_one, here, Option.toList_some, loadVariables_append, beforeVariable,
    loadVariables]
  cases (store.loadVariables scope (assignments.take index)).1.setVariable? scope name value <;> rfl

/-- What is counted are the variables that are not passed over. -/
theorem loadVariables_take_snd (consistent : store.Consistent) (assignments : List (Text × Text))
    {count : Nat} (inside : count ≤ assignments.length) :
    (store.loadVariables scope (assignments.take count)).2
      = (List.range count).countP fun index => ∃ assignment ∈ assignments[index]?,
          ¬ (store.beforeVariable scope assignments index).PassesOver scope assignment.1 := by
  induction count with
  | zero => rfl
  | succ count ih =>
    have here := List.getElem?_eq_getElem (Nat.lt_of_succ_le inside)
    have passed := setVariable?_eq_none_iff (consistent.loadVariables scope (assignments.take count))
      scope assignments[count].1 assignments[count].2
    rw [loadVariables_take_succ store scope here, List.range_succ, List.countP_append,
      ← ih (Nat.le_of_succ_le inside), List.countP_singleton, here, beforeVariable]
    cases outcome : (store.loadVariables scope (assignments.take count)).1.setVariable? scope
        assignments[count].1 assignments[count].2 with
    | none => simp [passed.1 outcome]
    | some next =>
      have accepted := mt passed.2 (outcome ▸ Option.some_ne_none next)
      simp [accepted]

/-- **Loading variables does not fail and does not damage the store.** The store stays consistent
and keeps its keys. Each variable is passed over, which leaves the store as it was, when it has no
key or its key is malformed or rivals a key that is held by then, and only then; else it is counted,
sets its key and changes no other one. Which names have a key is told by those that are made of
keys. -/
theorem loadVariables_sets_or_passes_over (consistent : store.Consistent) (scope : Text)
    (assignments : List (Text × Text)) :
    (store.loadVariables scope assignments).1.Consistent
      ∧ (∀ key ∈ store.keys, key ∈ (store.loadVariables scope assignments).1.keys)
      ∧ ((store.loadVariables scope assignments).2
        = (List.range assignments.length).countP fun index => ∃ assignment ∈ assignments[index]?,
            ¬ (store.beforeVariable scope assignments index).PassesOver scope assignment.1)
      ∧ (∀ (index : Nat) (name value : Text), assignments[index]? = some (name, value) →
        let before := store.beforeVariable scope assignments index
        let behind := store.beforeVariable scope assignments (index + 1)
        (before.setVariable? scope name value = none ↔ before.PassesOver scope name)
          ∧ (before.PassesOver scope name → behind = before)
          ∧ (¬ before.PassesOver scope name → ∃ key, variableKey? scope name = some key
            ∧ behind.get? key = some value
            ∧ ∀ other, other ≠ key → behind.get? other = before.get? other))
      ∧ ∀ key, WellFormed key → '_' ∉ key → (∀ char ∈ key, ¬ char.isUpper) →
        variableKey? scope (variableName scope key) = some key := by
  refine ⟨consistent.loadVariables scope assignments, fun key mem => ?_, ?_, ?_,
    fun key => variableKey?_variableName scope⟩
  case refine_1 =>
    rw [← isSome_get?_iff, get?_loadVariables consistent, Option.isSome_or, Bool.or_eq_true]
    exact .inr (isSome_get?_iff.2 mem)
  case refine_2 =>
    conv_lhs => rw [← List.take_length (l := assignments)]
    exact loadVariables_take_snd consistent assignments (Nat.le_refl _)
  case refine_3 =>
    intro index name value here
    have between : (store.beforeVariable scope assignments index).Consistent :=
      consistent.loadVariables scope (assignments.take index)
    have passed := setVariable?_eq_none_iff between scope name value
    have step := congrArg Prod.fst (loadVariables_take_succ store scope here)
    refine ⟨passed, fun skipped => ?_, fun accepted => ?_⟩
    · rw [passed.2 skipped] at step
      exact step
    · obtain ⟨key, found, writable⟩ := (not_passesOver_iff between).1 accepted
      rw [setVariable?_of_writable found writable] at step
      have written : store.beforeVariable scope assignments (index + 1)
          = (store.beforeVariable scope assignments index).insert key value := step
      refine ⟨key, found, ?_, fun other different => ?_⟩
      · rw [written, get?_insert, if_pos rfl]
      · rw [written, get?_insert, if_neg different]

/-- A store with a value under `a.b`. -/
def innerStore : Store := .ofTable [("a.b", "1")]

/-- Variables of one scope: a container, a new key, a key inside it, an empty part, the key that is
held, and a name of another scope. -/
def mixedVariables : List (Text × Text) :=
  [("X_A", "2"), ("X_C[0]", "3"), ("X_C[0]_D", "4"), ("X__E", "5"), ("X_A_B", "6"), ("HOME", "/")]

theorem loadVariables_sets_or_passes_over_mixedVariables :
    innerStore.loadVariables "X" mixedVariables
        = (.ofTable [("a.b", "6"), ("c[0]", "3")], 2)
      ∧ (innerStore.loadVariables "X" mixedVariables).1.Consistent
      ∧ (innerStore.beforeVariable "X" mixedVariables 2).setVariable? "X" "X_C[0]_D" "4" = none
      ∧ variableName "X" "c[0].d" = "X_C[0]_D" ∧ variableKey? "X" "X_C[0]_D" = some "c[0].d" := by
  have consistent : innerStore.Consistent := ⟨by decide, by decide⟩
  have loaded : innerStore.loadVariables "X" mixedVariables
      = (.ofTable [("a.b", "6"), ("c[0]", "3")], 2) := rfl
  have passed : (innerStore.beforeVariable "X" mixedVariables 2).PassesOver "X" "X_C[0]_D" := by
    decide
  have named : variableName "X" "c[0].d" = "X_C[0]_D" := by decide
  obtain ⟨after, -, -, each, names⟩ :=
    loadVariables_sets_or_passes_over consistent "X" mixedVariables
  have wellFormed : WellFormed "c[0].d" := by decide
  have plain := List.any_eq_false.1 (show "c[0].d".toList.any Char.isUpper = false by decide)
  refine ⟨loaded, after, (each 2 "X_C[0]_D" "4" rfl).1.2 passed, named, ?_⟩
  exact named ▸ names "c[0].d" wellFormed (by decide) plain

end Store

end TypedConfig
