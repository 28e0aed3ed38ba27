import TypedConfig.Proofs.Store.Consistent

/-!
# Merged stores

When all properties of a store can be written into another one, the result holds those of both.

* `setAll_of_free`: properties without rivals are all written.
* `get?_setAll`: properties that are written shadow what was there, and nothing else changes.
* `get?_merge`: a text of a merged store is that of the store that was merged into it, if that has
  one.
* `weight_merge_le`: the texts of a merged store are no longer than those of both together.
-/

namespace TypedConfig.Store

open Key (Rivals WellFormed)

variable {store result : Store} {entries : List (Text × Text)}

/-- Properties without rivals are all written. -/
theorem setAll_of_free (wellFormed : ∀ entry ∈ entries, WellFormed entry.1)
    (apart : entries.Pairwise fun first second => ¬ Rivals first.1 second.1)
    (free : ∀ entry ∈ entries, ∀ key ∈ store.keys, ¬ Rivals key entry.1) :
    (store.setAll entries).2 = none := by
  induction entries generalizing store with
  | nil => rfl
  | cons entry entries ih =>
    obtain ⟨first, rest⟩ := List.pairwise_cons.1 apart
    have writable : store.Writable entry.1 :=
      writable_of_free (wellFormed entry List.mem_cons_self) (free entry List.mem_cons_self)
    rw [setAll, set_eq_ok_iff.2 ⟨writable, rfl⟩]
    refine ih (fun other mem => wellFormed other (List.mem_cons_of_mem _ mem)) rest ?_
    intro other mem key keyMem
    rcases mem_keys_insert.1 keyMem with rfl | old
    · exact first other mem
    · exact free other (List.mem_cons_of_mem _ mem) key old

/-- **Properties that are all written shadow what the store held.** -/
theorem get?_setAll (distinct : (entries.map Prod.fst).Nodup)
    (written : store.setAll entries = (result, none)) (key : Text) :
    result.get? key = (Table.get? key entries).orElse fun _ => store.get? key := by
  induction entries generalizing store with
  | nil =>
    cases written
    rfl
  | cons entry entries ih =>
    obtain ⟨first, value⟩ := entry
    obtain ⟨new, rest⟩ := List.nodup_cons.1 distinct
    rw [setAll] at written
    cases outcome : store.set first value with
    | error error =>
      rw [outcome] at written
      cases written
    | ok next =>
      rw [outcome] at written
      obtain ⟨-, rfl⟩ := set_eq_ok_iff.1 outcome
      rw [ih rest written, get?_insert, Table.get?]
      by_cases here : key = first
      · have later : Table.get? key entries = none := Table.get?_eq_none_iff.2 (here ▸ new)
        rw [if_pos here, if_pos here, later]
        rfl
      · rw [if_neg here, if_neg here]

/-- **A merged store shows the texts of the store that was merged into it**, and its own where that
has none. -/
theorem get?_merge {other : Store} (merged : store.merge other = (result, none)) (key : Text) :
    result.get? key = (other.get? key).orElse fun _ => store.get? key :=
  get?_setAll other.sorted.nodup merged key

/-! ### Weights -/

/-- The length of the keys and values of a list of properties. -/
def weightOf (entries : List (Text × Text)) : Nat :=
  entries.foldr (fun entry total => entry.1.length + entry.2.length + total) 0

theorem weightOf_cons (entry : Text × Text) (entries : List (Text × Text)) :
    weightOf (entry :: entries) = entry.1.length + entry.2.length + weightOf entries := rfl

theorem weight_insert_le (store : Store) (key value : Text) :
    (store.insert key value).weight ≤ key.length + value.length + store.weight := by
  suffices general : ∀ table : Table Text,
      weightOf (table.insert key value) ≤ key.length + value.length + weightOf table from
    general store.entries
  intro table
  induction table with
  | nil => exact Nat.le_refl _
  | cons head table ih =>
    obtain ⟨first, old⟩ := head
    rw [Table.insert]
    split
    · exact Nat.le_refl _
    · split
      next same =>
        simp only [weightOf_cons]
        omega
      next =>
        simp only [weightOf_cons]
        omega

theorem weight_setAll_le (store : Store) (entries : List (Text × Text)) :
    (store.setAll entries).1.weight ≤ weightOf entries + store.weight := by
  induction entries generalizing store with
  | nil => exact Nat.le_add_left _ _
  | cons entry entries ih =>
    obtain ⟨key, value⟩ := entry
    rw [setAll, weightOf_cons]
    cases outcome : store.set key value with
    | error error => exact Nat.le_add_left _ _
    | ok next =>
      obtain ⟨-, rfl⟩ := set_eq_ok_iff.1 outcome
      have here := store.weight_insert_le key value
      have rest := ih (store.insert key value)
      dsimp only at rest ⊢
      omega

theorem weight_merge_le (store other : Store) :
    (store.merge other).1.weight ≤ other.weight + store.weight :=
  weight_setAll_le store other.entries

end TypedConfig.Store
