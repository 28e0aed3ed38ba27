import TypedConfig.Proofs.Store.Union

/-!
# Writing properties

Whether a key is free is tested in two ways: the containers read off the key are looked up among the
values, and the stored keys are searched for one inside the key. In a consistent store both tests
together ask for a rival, and rivalry is symmetric. So of two properties in each other's way the
later one is refused, whichever it is, and the order of a list does not decide whether all of it can
be written.

* `set_cases`: a key is malformed, or has a rival, or is written.
* `setAll_eq_none_iff`: when all properties of a list are written.
* `setAll_perm`: the order in which they come does not matter.
* `set_is_exact_and_local`: what writing one property does, and what this means for lists.
-/

namespace TypedConfig.Store

open Key (Rivals WellFormed)

variable {store result : Store} {entries others : List (Text × Text)}

/-- Stores are known by what they have under each key. -/
theorem eq_of_get?_eq {first second : Store} (same : ∀ key, first.get? key = second.get? key) :
    first = second := by
  obtain ⟨entries, sorted⟩ := first
  obtain ⟨others, sorted'⟩ := second
  obtain rfl : entries = others := Table.ext_of_sorted sorted sorted' same
  rfl

/-! ### One property -/

theorem exists_set_eq_malformed {key : Text} (malformed : ¬ WellFormed key) (value : Text) :
    ∃ fault, store.set key value = .error (.malformed key (.key fault) []) := by
  cases scanned : Key.containers? key with
  | ok containers => exact absurd (Key.exists_containers?_iff.1 ⟨containers, scanned⟩) malformed
  | error fault =>
    refine ⟨fault, ?_⟩
    rw [set, scanned]

/-- **A key is malformed, or has a rival, or is written.** -/
theorem set_cases (consistent : store.Consistent) (key value : Text) :
    (¬ WellFormed key ∧ ∃ fault, store.set key value = .error (.malformed key (.key fault) []))
      ∨ (WellFormed key ∧ (∃ held ∈ store.keys, Rivals held key)
        ∧ ∃ reason, store.set key value = .error (.conflict key reason))
      ∨ (WellFormed key ∧ (∀ held ∈ store.keys, ¬ Rivals held key)
        ∧ store.set key value = .ok (store.insert key value)) := by
  by_cases wellFormed : WellFormed key
  · by_cases free : ∀ held ∈ store.keys, ¬ Rivals held key
    · have writable := writable_of_free wellFormed free
      exact .inr (.inr ⟨wellFormed, free, set_eq_ok_iff.2 ⟨writable, rfl⟩⟩)
    · have blocked : ¬ store.Writable key := fun writable =>
        free ((writable_iff consistent).1 writable).2
      push Not at free
      exact .inr (.inl ⟨wellFormed, free, exists_set_eq_conflict wellFormed blocked value⟩)
  · exact .inl ⟨wellFormed, exists_set_eq_malformed wellFormed value⟩

/-! ### Lists of properties -/

/-- **Properties are all written when their keys are well formed and no two keys are rivals**, those
of the store included. -/
theorem setAll_eq_none_iff (consistent : store.Consistent)
    (distinct : (entries.map Prod.fst).Nodup) :
    (store.setAll entries).2 = none ↔ (∀ entry ∈ entries, WellFormed entry.1)
      ∧ (entries.Pairwise fun first second => ¬ Rivals first.1 second.1)
      ∧ ∀ entry ∈ entries, ∀ held ∈ store.keys, ¬ Rivals held entry.1 := by
  constructor
  · intro done
    have written : store.setAll entries = ((store.setAll entries).1, none) := Prod.ext rfl done
    have reached := consistent.setAll entries
    have stands : ∀ entry ∈ entries, entry.1 ∈ (store.setAll entries).1.keys :=
      fun entry mem => (mem_keys_of_setAll distinct written).2 (.inl (List.mem_map_of_mem mem))
    refine ⟨fun entry mem => reached.wellFormed _ (stands entry mem), ?_,
      not_rivals_of_setAll consistent distinct written⟩
    refine List.pairwise_of_forall_mem_list fun first firstMem second secondMem => ?_
    exact not_or.2 ⟨reached.apart _ (stands first firstMem) _ (stands second secondMem),
      reached.apart _ (stands second secondMem) _ (stands first firstMem)⟩
  · rintro ⟨wellFormed, apart, free⟩
    exact setAll_of_free wellFormed apart free

/-- A store that a list was written to holds the list, and elsewhere what it held before. -/
theorem get?_setAll_eq_some_iff (distinct : (entries.map Prod.fst).Nodup)
    (written : store.setAll entries = (result, none)) {key text : Text} :
    result.get? key = some text
      ↔ (key, text) ∈ entries ∨ key ∉ entries.map Prod.fst ∧ store.get? key = some text := by
  rw [get?_setAll distinct written]
  cases found : Table.get? key entries with
  | none =>
    have missing : key ∉ entries.map Prod.fst := Table.get?_eq_none_iff.1 found
    have absent : (key, text) ∉ entries := fun mem => missing (List.mem_map_of_mem mem)
    rw [Option.orElse_none, iff_true_intro missing, true_and, or_iff_right absent]
  | some value =>
    have mem := Table.mem_of_get? found
    have present : ¬ key ∉ entries.map Prod.fst := not_not.2 (List.mem_map_of_mem mem)
    rw [Option.orElse_some, Option.some_inj, or_iff_left fun both => present both.1]
    constructor
    · rintro rfl
      exact mem
    · exact fun there => Option.some.inj (found.symm.trans (Table.get?_of_mem distinct there))

/-- **The order in which properties come does not matter**: what all of them lead to in one order,
they lead to in every order. -/
theorem setAll_perm (consistent : store.Consistent) (distinct : (entries.map Prod.fst).Nodup)
    (written : store.setAll entries = (result, none)) (perm : others.Perm entries) :
    store.setAll others = (result, none) := by
  have distinct' : (others.map Prod.fst).Nodup := (perm.map Prod.fst).nodup_iff.2 distinct
  have done : (store.setAll others).2 = none := by
    obtain ⟨wellFormed, apart, free⟩ :=
      (setAll_eq_none_iff consistent distinct).1 (congrArg Prod.snd written)
    rw [setAll_eq_none_iff consistent distinct']
    refine ⟨fun entry mem => wellFormed entry (perm.mem_iff.1 mem), ?_,
      fun entry mem => free entry (perm.mem_iff.1 mem)⟩
    exact (perm.pairwise_iff fun unrelated rivals => unrelated (Or.symm rivals)).2 apart
  refine Prod.ext (eq_of_get?_eq fun key => Option.ext fun text => ?_) done
  rw [get?_setAll_eq_some_iff distinct' (Prod.ext rfl done),
    get?_setAll_eq_some_iff distinct written, perm.mem_iff, (perm.map Prod.fst).mem_iff]

theorem ofList?_eq_ok_iff :
    ofList? entries = .ok result ↔ empty.setAll entries = (result, none) := by
  rw [ofList?]
  split
  next reached done => simp [done]
  next reached error stopped => simp [stopped]

/-- Either no order of a list makes a store, or all of them make the same one. -/
theorem ofList?_perm (distinct : (entries.map Prod.fst).Nodup) :
    (∀ others, others.Perm entries → ∃ error, ofList? others = .error error)
      ∨ ∃ result, ∀ others, others.Perm entries → ofList? others = .ok result := by
  by_cases written : ∃ others result, others.Perm entries ∧ ofList? others = .ok result
  · obtain ⟨first, result, perm, written⟩ := written
    have distinct' : (first.map Prod.fst).Nodup := (perm.map Prod.fst).nodup_iff.2 distinct
    refine .inr ⟨result, fun others perm' => ofList?_eq_ok_iff.2 ?_⟩
    exact setAll_perm consistent_empty distinct' (ofList?_eq_ok_iff.1 written)
      (perm'.trans perm.symm)
  · refine .inl fun others perm => ?_
    cases outcome : ofList? others with
    | error error => exact ⟨error, rfl⟩
    | ok result => exact absurd ⟨others, result, perm, outcome⟩ written

/-- **Writing a property is exact, atomic and local.** A malformed key is refused as such, a
well-formed one is refused for a conflict when it has a rival, and a refusal leaves the store as it
was. Every other key is written, and then no other key has changed. So the properties of a list
under distinct keys lead to the same store in every order, or to an error in every order. -/
theorem set_is_exact_and_local {store : Store} (consistent : store.Consistent) (key value : Text) :
    ((∃ error, store.set key value = .error error ∧ error.kind = .invalidSyntax)
        ↔ ¬ WellFormed key)
      ∧ ((∃ error, store.set key value = .error error ∧ error.kind = .propertyConflict)
        ↔ WellFormed key ∧ ∃ held ∈ store.keys, Rivals held key)
      ∧ (∀ error, store.set key value = .error error →
          store.setAll [(key, value)] = (store, some error))
      ∧ (WellFormed key ∧ (∀ held ∈ store.keys, ¬ Rivals held key) →
          ∃ result, store.set key value = .ok result ∧ result.get? key = some value
            ∧ ∀ other, other ≠ key → result.get? other = store.get? other)
      ∧ ∀ entries : List (Text × Text), (entries.map Prod.fst).Nodup →
          (∀ others, others.Perm entries → ∃ error, ofList? others = .error error)
            ∨ ∃ result, ∀ others, others.Perm entries → ofList? others = .ok result := by
  have refused (error : PropertyError) (outcome : store.set key value = .error error) :
      store.setAll [(key, value)] = (store, some error) := by
    rw [setAll, outcome]
  rcases set_cases consistent key value with
    ⟨malformed, fault, outcome⟩ | ⟨wellFormed, rival, reason, outcome⟩ | ⟨wellFormed, free, outcome⟩
  · refine ⟨?_, ?_, refused, fun free => absurd free.1 malformed, fun _ => ofList?_perm⟩
    · exact iff_of_true ⟨_, outcome, rfl⟩ malformed
    · refine iff_of_false ?_ fun both => malformed both.1
      rintro ⟨error, failed, conflict⟩
      cases outcome.symm.trans failed
      cases conflict
  · refine ⟨?_, ?_, refused, ?_, fun _ => ofList?_perm⟩
    · refine iff_of_false ?_ (not_not.2 wellFormed)
      rintro ⟨error, failed, malformed⟩
      cases outcome.symm.trans failed
      cases malformed
    · exact iff_of_true ⟨_, outcome, rfl⟩ ⟨wellFormed, rival⟩
    · rintro ⟨-, free⟩
      obtain ⟨held, mem, rivals⟩ := rival
      exact absurd rivals (free held mem)
  · have written (kind : ErrorKind) :
        ¬ ∃ error, store.set key value = .error error ∧ error.kind = kind := by
      rintro ⟨error, failed, -⟩
      cases outcome.symm.trans failed
    refine ⟨?_, ?_, refused, fun _ => ⟨_, outcome, ?_, fun other different => ?_⟩,
      fun _ => ofList?_perm⟩
    · exact iff_of_false (written _) (not_not.2 wellFormed)
    · refine iff_of_false (written _) ?_
      rintro ⟨-, held, mem, rivals⟩
      exact free held mem rivals
    · rw [get?_insert, if_pos rfl]
    · rw [get?_insert, if_neg different]

/-- A store with an element and a value beside it. -/
def elementStore : Store := (empty.setAll [("a.b[0]", "1"), ("k", "old")]).1

/-- Two properties in each other's way: a value and an element below it. -/
def rivalEntries : List (Text × Text) := [("a", "1"), ("a[0]", "2")]

theorem elementStore_set :
    (∃ error, elementStore.set "a.b]" "x" = .error error ∧ error.kind = .invalidSyntax)
      ∧ (∃ error, elementStore.set "a.b" "x" = .error error ∧ error.kind = .propertyConflict)
      ∧ (∃ error, elementStore.set "k[1]" "x" = .error error ∧ error.kind = .propertyConflict)
      ∧ (∃ result, elementStore.set "a.b[00]" "x" = .ok result
        ∧ result.get? "a.b[00]" = some ("x" : Text)
        ∧ ∀ other : Text, other ≠ "a.b[00]" → result.get? other = elementStore.get? other)
      ∧ ∀ others, others.Perm rivalEntries → ∃ error, ofList? others = .error error := by
  have consistent : elementStore.Consistent := consistent_empty.setAll _
  have settled (key : Text) := set_is_exact_and_local consistent key "x"
  refine ⟨(settled "a.b]").1.2 (by decide), (settled "a.b").2.1.2 (by decide),
    (settled "k[1]").2.1.2 (by decide), (settled "a.b[00]").2.2.2.1 (by decide), ?_⟩
  rcases (settled "k").2.2.2.2 rivalEntries (by decide) with refused | ⟨result, written⟩
  · exact refused
  · cases written rivalEntries (.refl _)

end TypedConfig.Store
