import Mathlib.Data.List.Induction
import TypedConfig.Proofs.Store.Consistent

/-!
# What environment variables leave behind

Loading variables does not fail: a variable whose key cannot be written is passed over. Which ones
are depends on the keys that were there before and on the variables in front of it.

* `writable_afterVariable_iff`: what one variable changes about that.
* `Refused`: the keys that variables cannot have, told from the names of the variables alone.
* `loadVariables_append`: variables are loaded one after the other.
* `refused_iff`: these are the keys that cannot be written when the variables are loaded.
* `get?_loadVariables`: a key shows its last variable unless it is refused, and else what it showed
  before.
-/

namespace TypedConfig

open Key (Rivals WellFormed)

/-- The keys that a variable cannot have when keys are `taken` and other variables came before it,
the latest of them first: a key that is malformed, or a rival of a key that is taken or that an
earlier variable was given. -/
def Refused (scope : Text) (taken : List Text) :
    (earlier : List (Text × Text)) → (key : Text) → Prop
  | [], key => ¬ WellFormed key ∨ ∃ other ∈ taken, Rivals other key
  | (name, _) :: earlier, key =>
    Refused scope taken earlier key
      ∨ ∃ other ∈ variableKey? scope name, ¬ Refused scope taken earlier other ∧ Rivals other key

instance decidableRefused (scope : Text) (taken : List Text) :
    (earlier : List (Text × Text)) → (key : Text) → Decidable (Refused scope taken earlier key)
  | [], key => inferInstanceAs (Decidable (¬ WellFormed key ∨ ∃ other ∈ taken, Rivals other key))
  | (name, _) :: earlier, key =>
    have := decidableRefused scope taken earlier
    inferInstanceAs (Decidable (Refused scope taken earlier key
      ∨ ∃ other ∈ variableKey? scope name, ¬ Refused scope taken earlier other ∧ Rivals other key))

/-- The value of the last variable of a key, unless the key is refused; the latest variable comes
first. -/
def variableValue? (scope : Text) (taken : List Text) : List (Text × Text) → Text → Option Text
  | [], _ => none
  | (name, value) :: earlier, key =>
    if variableKey? scope name = some key then
      if Refused scope taken earlier key then none else some value
    else variableValue? scope taken earlier key

/-- The value of the last variable of a key, refused or not; the latest variable comes first. -/
def lastVariable? (scope : Text) (assignments : List (Text × Text)) (key : Text) : Option Text :=
  (assignments.find? fun assignment => variableKey? scope assignment.1 = some key).map Prod.snd

theorem lastVariable?_cons (scope name value : Text) (earlier : List (Text × Text)) (key : Text) :
    lastVariable? scope ((name, value) :: earlier) key
      = if variableKey? scope name = some key then some value
        else lastVariable? scope earlier key := by
  rw [lastVariable?, lastVariable?, List.find?_cons]
  by_cases found : variableKey? scope name = some key
  · simp only [found, decide_true, if_true, Option.map_some]
  · simp only [found, decide_false, if_false]

section

variable {scope : Text} {taken others : List Text}

/-- Only which keys are taken matters. -/
theorem refused_congr (same : ∀ key, key ∈ taken ↔ key ∈ others) (earlier : List (Text × Text))
    (key : Text) : Refused scope taken earlier key ↔ Refused scope others earlier key := by
  induction earlier generalizing key with
  | nil =>
    unfold Refused
    simp only [same]
  | cons assignment earlier ih =>
    unfold Refused
    simp only [ih]

theorem variableValue?_congr (same : ∀ key, key ∈ taken ↔ key ∈ others)
    (earlier : List (Text × Text)) (key : Text) :
    variableValue? scope taken earlier key = variableValue? scope others earlier key := by
  induction earlier with
  | nil => rfl
  | cons assignment earlier ih =>
    unfold variableValue?
    simp only [refused_congr same, ih]

/-- A well-formed key without rivals is not refused. -/
theorem not_refused {earlier : List (Text × Text)} {key : Text} (wellFormed : WellFormed key)
    (free : ∀ other ∈ taken, ¬ Rivals other key)
    (alone : ∀ assignment ∈ earlier, ∀ other ∈ variableKey? scope assignment.1,
      ¬ Rivals other key) : ¬ Refused scope taken earlier key := by
  induction earlier with
  | nil =>
    rintro (malformed | ⟨other, mem, rivals⟩)
    · exact malformed wellFormed
    · exact free other mem rivals
  | cons assignment earlier ih =>
    obtain ⟨here, before⟩ := List.forall_mem_cons.1 alone
    rintro (refused | ⟨other, found, -, rivals⟩)
    · exact ih before refused
    · exact here other found rivals

/-- Such a key shows the last of its variables, whichever other keys are taken. -/
theorem variableValue?_of_alone {assignments : List (Text × Text)} {key : Text}
    (wellFormed : WellFormed key) (free : ∀ other ∈ taken, ¬ Rivals other key)
    (alone : ∀ assignment ∈ assignments, ∀ other ∈ variableKey? scope assignment.1,
      ¬ Rivals other key) :
    variableValue? scope taken assignments key = lastVariable? scope assignments key := by
  induction assignments with
  | nil => rfl
  | cons assignment earlier ih =>
    obtain ⟨name, value⟩ := assignment
    have before := (List.forall_mem_cons.1 alone).2
    rw [variableValue?, lastVariable?_cons, if_neg (not_refused wellFormed free before), ih before]

/-- A key without variables shows none. -/
theorem variableValue?_of_unset {assignments : List (Text × Text)} {key : Text}
    (unset : lastVariable? scope assignments key = none) :
    variableValue? scope taken assignments key = none := by
  induction assignments with
  | nil => rfl
  | cons assignment earlier ih =>
    obtain ⟨name, value⟩ := assignment
    rw [lastVariable?_cons] at unset
    split at unset
    next => cases unset
    next other => rw [variableValue?, if_neg other, ih unset]

end

namespace Store

variable {store : Store} {scope key : Text}

/-! ### One variable -/

/-- The store with a variable, or without it. -/
def afterVariable (store : Store) (scope name value : Text) : Store :=
  (store.setVariable? scope name value).getD store

theorem afterVariable_of_keyless {name : Text} (keyless : variableKey? scope name = none)
    (value : Text) : store.afterVariable scope name value = store := by
  rw [afterVariable, setVariable?, keyless]
  rfl

theorem setVariable?_of_writable {name : Text} (found : variableKey? scope name = some key)
    (writable : store.Writable key) (value : Text) :
    store.setVariable? scope name value = some (store.insert key value) := by
  rw [setVariable?, found]
  dsimp only
  rw [set_eq_ok_iff.2 ⟨writable, rfl⟩]
  rfl

theorem setVariable?_of_not_writable {name : Text} (found : variableKey? scope name = some key)
    (unwritable : ¬ store.Writable key) (value : Text) :
    store.setVariable? scope name value = none := by
  rw [setVariable?, found]
  dsimp only
  cases outcome : store.set key value with
  | ok result => exact absurd (set_eq_ok_iff.1 outcome).1 unwritable
  | error error => rfl

theorem afterVariable_of_writable {name : Text} (found : variableKey? scope name = some key)
    (writable : store.Writable key) (value : Text) :
    store.afterVariable scope name value = store.insert key value := by
  rw [afterVariable, setVariable?_of_writable found writable]
  rfl

theorem afterVariable_of_not_writable {name : Text} (found : variableKey? scope name = some key)
    (unwritable : ¬ store.Writable key) (value : Text) :
    store.afterVariable scope name value = store := by
  rw [afterVariable, setVariable?_of_not_writable found unwritable]
  rfl

/-- A variable changes no key but its own. -/
theorem get?_afterVariable_of_ne {name : Text} (other : variableKey? scope name ≠ some key)
    (value : Text) : (store.afterVariable scope name value).get? key = store.get? key := by
  cases found : variableKey? scope name with
  | none => rw [afterVariable_of_keyless found]
  | some given =>
    by_cases writable : store.Writable given
    · rw [afterVariable_of_writable found writable, get?_insert, if_neg]
      rintro rfl
      exact other found
    · rw [afterVariable_of_not_writable found writable]

/-- **A variable that is accepted takes away the keys that rival its own**, and nothing else. -/
theorem writable_afterVariable_iff (consistent : store.Consistent) (name value : Text) :
    (store.afterVariable scope name value).Writable key ↔ store.Writable key
      ∧ ∀ given ∈ variableKey? scope name, store.Writable given → ¬ Rivals given key := by
  cases found : variableKey? scope name with
  | none =>
    rw [afterVariable_of_keyless found]
    refine (and_iff_left ?_).symm
    intro given absent
    cases absent
  | some given =>
    by_cases writable : store.Writable given
    · have after : (store.insert given value).Consistent :=
        consistent.set (set_eq_ok_iff.2 ⟨writable, rfl⟩)
      rw [afterVariable_of_writable found writable, writable_iff after, writable_iff consistent]
      simp only [mem_keys_insert, forall_eq_or_imp, Option.mem_some_iff, forall_eq', writable,
        true_imp_iff]
      rw [and_assoc, and_congr_right_iff]
      exact fun _ => and_comm
    · rw [afterVariable_of_not_writable found writable]
      refine (and_iff_left ?_).symm
      intro other same accepted
      cases same
      exact absurd accepted writable

/-! ### All variables -/

/-- **Variables are loaded one after the other**, and the numbers of those that were written add
up. -/
theorem loadVariables_append (store : Store) (scope : Text) (front back : List (Text × Text)) :
    store.loadVariables scope (front ++ back)
      = (((store.loadVariables scope front).1.loadVariables scope back).1,
        (store.loadVariables scope front).2
          + ((store.loadVariables scope front).1.loadVariables scope back).2) := by
  induction front generalizing store with
  | nil => rw [List.nil_append, loadVariables, Nat.zero_add]
  | cons assignment front ih =>
    obtain ⟨name, value⟩ := assignment
    rw [List.cons_append, loadVariables, loadVariables]
    cases store.setVariable? scope name value with
    | none => exact ih store
    | some next =>
      dsimp only
      rw [ih next, Nat.add_right_comm]

/-- The variables in front of the last one are loaded first. -/
theorem loadVariables_concat (store : Store) (scope : Text) (assignments : List (Text × Text))
    (name value : Text) :
    (store.loadVariables scope (assignments ++ [(name, value)])).1
      = (store.loadVariables scope assignments).1.afterVariable scope name value := by
  rw [loadVariables_append, loadVariables, loadVariables, afterVariable]
  cases (store.loadVariables scope assignments).1.setVariable? scope name value <;> rfl

/-- **The refused keys are those that cannot be written** once the variables are loaded. The
induction takes away the last variable, which is the first that `Refused` looks at. -/
theorem refused_iff (consistent : store.Consistent) (scope : Text)
    (assignments : List (Text × Text)) (key : Text) :
    Refused scope store.keys assignments.reverse key
      ↔ ¬ (store.loadVariables scope assignments).1.Writable key := by
  induction assignments using List.reverseRecOn generalizing key with
  | nil =>
    show ¬ WellFormed key ∨ _ ↔ ¬ store.Writable key
    rw [writable_iff consistent, not_and_or]
    simp only [not_forall, not_not, exists_prop]
  | append_singleton assignments assignment ih =>
    obtain ⟨name, value⟩ := assignment
    have before := consistent.loadVariables scope assignments
    rw [List.reverse_concat, Refused, loadVariables_concat, writable_afterVariable_iff before,
      not_and_or, ih]
    simp only [ih, not_not, not_forall, exists_prop]

/-- **After variables are loaded, a key shows the last of its variables unless it is refused**, and
else what it showed before. -/
theorem get?_loadVariables (consistent : store.Consistent) (scope : Text)
    (assignments : List (Text × Text)) (key : Text) :
    (store.loadVariables scope assignments).1.get? key
      = (variableValue? scope store.keys assignments.reverse key).or (store.get? key) := by
  induction assignments using List.reverseRecOn with
  | nil => rfl
  | append_singleton assignments assignment ih =>
    obtain ⟨name, value⟩ := assignment
    have before := consistent.loadVariables scope assignments
    have refused := refused_iff consistent scope assignments key
    rw [loadVariables_concat, List.reverse_concat, variableValue?]
    split
    next found =>
      by_cases writable : (store.loadVariables scope assignments).1.Writable key
      · rw [afterVariable_of_writable found writable, get?_insert, if_pos rfl,
          if_neg fun refusal => refused.1 refusal writable]
        rfl
      · rw [afterVariable_of_not_writable found writable, if_pos (refused.2 writable)]
        -- a key that cannot be written has no value, so it had none before
        have absent := get?_eq_none_iff.2 fun mem => writable (before.writable_of_mem mem)
        rw [absent] at ih
        rw [absent, (Option.or_eq_none_iff.1 ih.symm).2]
        rfl
    next other => rw [get?_afterVariable_of_ne other, ih]

end Store

end TypedConfig
