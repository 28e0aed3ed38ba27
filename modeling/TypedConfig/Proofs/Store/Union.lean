import TypedConfig.Proofs.Store.Merge
import TypedConfig.Proofs.Text.Bytes

/-!
# Merging as a union with checks

The properties of one consistent store are written into another in the order of their keys. Those of
the same store are never in each other's way, so the first key that cannot be written is the least
one with a rival among the keys that were there before.

* `exists_of_setAll_error`: writing properties stops at the first that cannot be written, and leaves
  behind what the properties in front of it do.
* `not_rivals_of_setAll`: properties that are all written have no rivals.
* `Table.get?_front`: the entries in front of a name of a sorted table are those with a lesser name.
* `merge_eq_none_iff`, `exists_of_merge_error`: when a merge succeeds, and where it stops.
* `merge_is_checked_union`: both outcomes of a merge.
-/

namespace TypedConfig

/-- In a sorted table, what stands in front of a name has a lesser name, and what stands behind it
a greater one. -/
theorem Table.sorted_append_cons {Entry : Type} {front back : Table Entry} {name : Text}
    {entry : Entry} (sorted : Table.Sorted (front ++ (name, entry) :: back)) :
    (∀ other ∈ Table.names front, other < name) ∧ ∀ other ∈ Table.names back, name < other := by
  rw [Table.Sorted, Table.names, List.map_append, List.map_cons, List.pairwise_append] at sorted
  obtain ⟨-, behind, inFront⟩ := sorted
  exact ⟨fun other mem => inFront other mem name List.mem_cons_self,
    (List.pairwise_cons.1 behind).1⟩

/-- The entries in front of a name are those with a lesser name. -/
theorem Table.get?_front {Entry : Type} {front back : Table Entry} {name : Text} {entry : Entry}
    (sorted : Table.Sorted (front ++ (name, entry) :: back)) (other : Text) :
    front.get? other = if other < name then Table.get? other (front ++ (name, entry) :: back)
      else none := by
  obtain ⟨lesser, greater⟩ := Table.sorted_append_cons sorted
  split_ifs with less
  · have behind : Table.get? other ((name, entry) :: back) = none := by
      refine Table.get?_eq_none_iff.2 fun mem => ?_
      rcases List.mem_cons.1 mem with rfl | later
      · exact List.lt_irrefl _ less
      · exact List.lt_asymm less (greater other later)
    rw [Table.get?_append, behind, Option.or_none]
  · exact Table.get?_eq_none_iff.2 fun mem => less (lesser other mem)

namespace Store

open Key (Rivals WellFormed isBelow)

variable {store result : Store} {entries : List (Text × Text)} {error : PropertyError}

/-- **Writing properties stops at the first that cannot be written**, in the store that those in
front of it lead to. -/
theorem exists_of_setAll_error (stopped : store.setAll entries = (result, some error)) :
    ∃ front entry back, entries = front ++ entry :: back ∧ store.setAll front = (result, none)
      ∧ result.set entry.1 entry.2 = .error error := by
  induction entries generalizing store with
  | nil => cases stopped
  | cons entry entries ih =>
    rw [setAll] at stopped
    cases outcome : store.set entry.1 entry.2 with
    | error other =>
      rw [outcome] at stopped
      cases stopped
      exact ⟨[], entry, entries, rfl, rfl, outcome⟩
    | ok next =>
      rw [outcome] at stopped
      obtain ⟨front, last, back, rfl, written, blocked⟩ := ih stopped
      refine ⟨entry :: front, last, back, rfl, ?_, blocked⟩
      rw [setAll, outcome]
      exact written

theorem mem_keys_of_setAll (distinct : (entries.map Prod.fst).Nodup)
    (written : store.setAll entries = (result, none)) {key : Text} :
    key ∈ result.keys ↔ key ∈ entries.map Prod.fst ∨ key ∈ store.keys := by
  rw [← isSome_get?_iff, get?_setAll distinct written, ← isSome_get?_iff]
  show _ ↔ key ∈ Table.names entries ∨ _
  rw [← Table.isSome_get?_iff]
  cases Table.get? key entries <;> simp

/-- Properties that are all written have no rivals, because the result is consistent. -/
theorem not_rivals_of_setAll (consistent : store.Consistent)
    (distinct : (entries.map Prod.fst).Nodup) (written : store.setAll entries = (result, none)) :
    ∀ entry ∈ entries, ∀ key ∈ store.keys, ¬ Rivals key entry.1 := by
  have after : result.Consistent := by
    have kept := consistent.setAll entries
    rwa [written] at kept
  intro entry mem key old rivals
  have first := (mem_keys_of_setAll distinct written).2 (.inr old)
  have second := (mem_keys_of_setAll distinct written).2 (.inl (List.mem_map_of_mem mem))
  exact rivals.elim (after.apart key first _ second) (after.apart _ second key first)

/-! ### Both outcomes -/

/-- The least key of a store with a rival in another one stops its merge, and what is merged then is
what it has under lesser keys. -/
theorem exists_of_merge_error {other : Store} (consistent : store.Consistent)
    (otherConsistent : other.Consistent) (stopped : store.merge other = (result, some error)) :
    ∃ key ∈ other.keys, (∃ held ∈ store.keys, Rivals held key)
      ∧ (∀ later ∈ other.keys, (∃ held ∈ store.keys, Rivals held later) →
          key = later ∨ Text.bytes key < Text.bytes later)
      ∧ (∃ reason, error = .conflict key reason)
      ∧ ∀ inner, result.get? inner = if Text.bytes inner < Text.bytes key
          then (other.get? inner).or (store.get? inner) else store.get? inner := by
  obtain ⟨front, ⟨key, value⟩, back, split, written, blocked⟩ := exists_of_setAll_error stopped
  have sorted : Table.Sorted (front ++ (key, value) :: back) := split ▸ other.sorted
  obtain ⟨lesser, greater⟩ := Table.sorted_append_cons sorted
  have names : other.keys = front.map Prod.fst ++ key :: back.map Prod.fst := by
    rw [keys, split, Table.names, List.map_append, List.map_cons]
  have mem : key ∈ other.keys := names ▸ List.mem_append_right _ List.mem_cons_self
  have frontMem : ∀ entry ∈ front, entry.1 ∈ other.keys := fun entry entryMem =>
    names ▸ List.mem_append_left _ (List.mem_map_of_mem entryMem)
  have distinct : (front.map Prod.fst).Nodup := by
    have all : other.keys.Nodup := other.sorted.nodup
    rw [names] at all
    exact (List.nodup_append.1 all).1
  have reached : result.Consistent := by
    have kept := consistent.setAll front
    rwa [written] at kept
  have wellFormed := otherConsistent.wellFormed key mem
  have notWritable : ¬ result.Writable key := fun writable => by
    rw [set_eq_ok_iff.2 ⟨writable, rfl⟩] at blocked
    cases blocked
  refine ⟨key, mem, ?_, ?_, ?_, fun inner => ?_⟩
  · -- the rival is none of the properties in front, which stand in the same store
    rw [writable_iff reached] at notWritable
    push Not at notWritable
    obtain ⟨held, heldMem, rivals⟩ := notWritable wellFormed
    rcases (mem_keys_of_setAll distinct written).1 heldMem with new | old
    · obtain ⟨entry, entryMem, rfl⟩ := List.mem_map.1 new
      have apart := otherConsistent.apart
      exact absurd rivals (not_or.2
        ⟨apart _ (frontMem entry entryMem) key mem, apart key mem _ (frontMem entry entryMem)⟩)
    · exact ⟨held, old, rivals⟩
  · rintro later laterMem ⟨held, old, rivals⟩
    rw [names, List.mem_append, List.mem_cons] at laterMem
    rcases laterMem with inFront | rfl | behind
    · obtain ⟨entry, entryMem, rfl⟩ := List.mem_map.1 inFront
      exact absurd rivals (not_rivals_of_setAll consistent distinct written entry entryMem held old)
    · exact .inl rfl
    · exact .inr (Text.bytes_lt_bytes (greater later behind))
  · obtain ⟨reason, conflict⟩ := exists_set_eq_conflict wellFormed notWritable value
    exact ⟨reason, Except.error.inj (blocked.symm.trans conflict)⟩
  · have shown : Table.get? inner front
        = if Text.bytes inner < Text.bytes key then other.get? inner else none := by
      rw [Table.get?_front sorted, ← split]
      simp only [Text.bytes_lt_bytes_iff]
      rfl
    rw [get?_setAll distinct written, shown]
    split_ifs
    · cases other.get? inner <;> rfl
    · rfl

theorem merge_eq_none_iff {other : Store} (consistent : store.Consistent)
    (otherConsistent : other.Consistent) :
    (store.merge other).2 = none ↔ ∀ held ∈ store.keys, ∀ key ∈ other.keys, ¬ Rivals held key := by
  constructor
  · intro merged held heldMem key mem
    obtain ⟨entry, entryMem, rfl⟩ := List.mem_map.1 mem
    exact not_rivals_of_setAll consistent other.sorted.nodup (Prod.ext rfl merged) entry entryMem
      held heldMem
  · intro free
    have stands : ∀ entry ∈ other.entries, entry.1 ∈ other.keys :=
      fun entry mem => List.mem_map_of_mem mem
    refine setAll_of_free (fun entry mem => otherConsistent.wellFormed _ (stands entry mem)) ?_
      fun entry mem held heldMem => free held heldMem _ (stands entry mem)
    refine List.pairwise_of_forall_mem_list fun first firstMem second secondMem => ?_
    have apart := otherConsistent.apart
    exact not_or.2 ⟨apart _ (stands first firstMem) _ (stands second secondMem),
      apart _ (stands second secondMem) _ (stands first firstMem)⟩

/-- **A merge is a union that checks for conflicts.** It succeeds when no key of either store lies
below a key of the other one, and then the texts of the merged store shadow those that were there.
Otherwise it stops at the least key, by its bytes, with a rival, names that key, and leaves behind
the store that holds what was merged under lesser keys. -/
theorem merge_is_checked_union {store other : Store} (consistent : store.Consistent)
    (otherConsistent : other.Consistent) :
    ((store.merge other).2 = none
        ↔ ∀ held ∈ store.keys, ∀ key ∈ other.keys, ¬ Rivals held key)
      ∧ ((store.merge other).2 = none → ∀ key,
          (store.merge other).1.get? key = (other.get? key).or (store.get? key))
      ∧ ∀ error, (store.merge other).2 = some error →
          ∃ key ∈ other.keys, (∃ held ∈ store.keys, Rivals held key)
            ∧ (∀ later ∈ other.keys, (∃ held ∈ store.keys, Rivals held later) →
                key = later ∨ Text.bytes key < Text.bytes later)
            ∧ (∃ reason, error = .conflict key reason)
            ∧ ∀ inner, (store.merge other).1.get? inner
                = if Text.bytes inner < Text.bytes key then (other.get? inner).or (store.get? inner)
                  else store.get? inner := by
  refine ⟨merge_eq_none_iff consistent otherConsistent, fun merged key => ?_,
    fun error stopped => ?_⟩
  · rw [get?_merge (Prod.ext rfl merged) key]
    cases other.get? key <;> rfl
  · exact exists_of_merge_error consistent otherConsistent (Prod.ext rfl stopped)

/-- A store with the container `a`. -/
def heldStore : Store := (empty.setAll [("a.b", "1"), ("k", "old")]).1

/-- A store in which `a` is a value, between a lesser and a greater key. -/
def blockedStore : Store := (empty.setAll [("A", "2"), ("a", "3"), ("k", "new")]).1

/-- A store with another member of `a`. -/
def joinedStore : Store := (empty.setAll [("a.c", "4"), ("k", "new")]).1

theorem merges_into_heldStore :
    (heldStore.merge blockedStore).2 = some (.conflict "a" (.containerHere "a"))
      ∧ (∀ inner, (heldStore.merge blockedStore).1.get? inner
          = if Text.bytes inner < Text.bytes "a"
            then (blockedStore.get? inner).or (heldStore.get? inner) else heldStore.get? inner)
      ∧ (heldStore.merge joinedStore).2 = none
      ∧ ∀ key, (heldStore.merge joinedStore).1.get? key
          = (joinedStore.get? key).or (heldStore.get? key) := by
  have held : heldStore.Consistent := consistent_empty.setAll _
  have blocked : blockedStore.Consistent := consistent_empty.setAll _
  have joined : joinedStore.Consistent := consistent_empty.setAll _
  have stopped : (heldStore.merge blockedStore).2 = some (.conflict "a" (.containerHere "a")) := by
    decide
  have free : ∀ first ∈ heldStore.keys, ∀ second ∈ joinedStore.keys, ¬ Rivals first second := by
    decide
  obtain ⟨key, -, -, -, ⟨reason, named⟩, left⟩ :=
    (merge_is_checked_union held blocked).2.2 _ stopped
  cases named
  obtain ⟨succeeds, shadowed, -⟩ := merge_is_checked_union held joined
  exact ⟨stopped, left, succeeds.2 free, shadowed (succeeds.2 free)⟩

end Store

end TypedConfig
