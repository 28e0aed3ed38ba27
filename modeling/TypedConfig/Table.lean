import TypedConfig.Text.Basic

/-!
# Tables

A table lists entries under names. `insert` keeps the names strictly increasing in the order of
code points, which is also the byte order of UTF-8; the members of an object, the properties of a
store and the callbacks of a registry are such tables.

* `get?_insert`: an insertion changes the entry of its own name and no other.
* `sorted_insert`: an insertion keeps the names sorted and distinct.
* `isSome_get?_iff`, `get?_eq_none_iff`: the names of a table are those that have an entry.
* `ext_of_sorted`: sorted tables with the same entries under all names are the same.
* `get?_ofList`, `ofList_of_sorted`: the table of a list without repeated names, and of a sorted
  list; `get?_ofList_of_last`: of repeated names the last counts.
-/

namespace TypedConfig

/-- Entries under names. -/
abbrev Table (Entry : Type) := List (Text × Entry)

namespace Table

variable {Entry : Type}

/-- The entry under a name. -/
def get? (name : Text) : Table Entry → Option Entry
  | [] => none
  | (other, entry) :: table => if name = other then some entry else get? name table

/-- The table with `entry` under `name`, in place of an earlier entry of that name. -/
def insert (name : Text) (entry : Entry) : Table Entry → Table Entry
  | [] => [(name, entry)]
  | (other, old) :: table =>
    if name < other then (name, entry) :: (other, old) :: table
    else if name = other then (name, entry) :: table
    else (other, old) :: insert name entry table

/-- The entries of a list, a later one replacing an earlier one of the same name. -/
def ofList (entries : List (Text × Entry)) : Table Entry :=
  entries.foldl (fun table entry => table.insert entry.1 entry.2) []

/-- The names of a table, in its order. -/
def names (table : Table Entry) : List Text := table.map Prod.fst

/-- The names are strictly increasing. -/
def Sorted (table : Table Entry) : Prop := table.names.Pairwise (· < ·)

instance (table : Table Entry) : Decidable table.Sorted :=
  inferInstanceAs (Decidable (List.Pairwise _ _))

/-- An insertion changes the entry of its own name and no other. -/
theorem get?_insert (table : Table Entry) (name other : Text) (entry : Entry) :
    (table.insert name entry).get? other =
      if other = name then some entry else table.get? other := by
  induction table with
  | nil => simp [insert, get?]
  | cons head table ih =>
    obtain ⟨first, old⟩ := head
    rw [insert]
    split
    · rfl
    · split
      next same => subst same; by_cases here : other = name <;> simp [get?, here]
      next different =>
        by_cases here : other = first
        · subst here
          simp [get?, Ne.symm different]
        · simp [get?, here, ih]

theorem mem_names_insert {table : Table Entry} {name other : Text} {entry : Entry} :
    other ∈ (table.insert name entry).names ↔ other = name ∨ other ∈ table.names := by
  induction table with
  | nil => simp [insert, names]
  | cons head table ih =>
    obtain ⟨first, old⟩ := head
    rw [insert]
    split
    · simp [names]
    · split
      next same => subst same; simp [names]
      next => simp only [names, List.map_cons, List.mem_cons] at ih ⊢; rw [ih]; grind

theorem isSome_get?_iff {table : Table Entry} {name : Text} :
    (table.get? name).isSome ↔ name ∈ table.names := by
  induction table with
  | nil => simp [get?, names]
  | cons head table ih =>
    obtain ⟨other, entry⟩ := head
    simp only [names, List.map_cons, List.mem_cons] at ih ⊢
    rw [get?, ← ih]
    split <;> simp_all

theorem get?_eq_none_iff {table : Table Entry} {name : Text} :
    table.get? name = none ↔ name ∉ table.names := by
  rw [← isSome_get?_iff, Option.not_isSome_iff_eq_none]

theorem mem_of_get? {table : Table Entry} {name : Text} {entry : Entry}
    (found : table.get? name = some entry) : (name, entry) ∈ table := by
  induction table with
  | nil => cases found
  | cons head table ih =>
    obtain ⟨other, first⟩ := head
    rw [get?] at found
    split at found
    next same =>
      cases found
      exact same ▸ List.mem_cons_self
    next => exact List.mem_cons_of_mem _ (ih found)

theorem get?_of_mem {table : Table Entry} (distinct : table.names.Nodup) {name : Text}
    {entry : Entry} (mem : (name, entry) ∈ table) : table.get? name = some entry := by
  induction table with
  | nil => cases mem
  | cons head table ih =>
    obtain ⟨other, first⟩ := head
    obtain ⟨new, rest⟩ := List.nodup_cons.1 distinct
    rw [get?]
    rcases List.mem_cons.1 mem with same | later
    · cases same
      rw [if_pos rfl]
    · have different : name ≠ other := by
        rintro rfl
        exact new (List.mem_map.2 ⟨_, later, rfl⟩)
      rw [if_neg different, ih rest later]

theorem get?_map {Other : Type} (change : Entry → Other) (table : Table Entry) (name : Text) :
    get? name (table.map fun entry => (entry.1, change entry.2)) = (table.get? name).map change := by
  induction table with
  | nil => rfl
  | cons head table ih =>
    rw [List.map_cons, get?, get?, ih]
    split <;> rfl

/-- The entry of a list in front comes first. -/
theorem get?_append (table more : Table Entry) (name : Text) :
    get? name (table ++ more) = (table.get? name).or (more.get? name) := by
  induction table with
  | nil => rfl
  | cons head table ih =>
    rw [List.cons_append, get?, get?, ih]
    split <;> rfl

theorem mem_insert {table : Table Entry} {name : Text} {entry : Entry} {other : Text × Entry}
    (mem : other ∈ table.insert name entry) : other = (name, entry) ∨ other ∈ table := by
  induction table with
  | nil => exact .inl (List.mem_singleton.1 mem)
  | cons head table ih =>
    obtain ⟨first, old⟩ := head
    rw [insert] at mem
    split at mem
    next => exact List.mem_cons.1 mem
    next =>
      split at mem
      next => exact (List.mem_cons.1 mem).imp_right (List.mem_cons_of_mem _)
      next =>
        rcases List.mem_cons.1 mem with rfl | later
        · exact .inr List.mem_cons_self
        · exact (ih later).imp_right (List.mem_cons_of_mem _)

/-- An insertion keeps the names sorted and distinct. -/
theorem sorted_insert {table : Table Entry} (sorted : table.Sorted) (name : Text) (entry : Entry) :
    (table.insert name entry).Sorted := by
  induction table with
  | nil => simp [insert, Sorted, names]
  | cons head table ih =>
    obtain ⟨first, old⟩ := head
    have above : ∀ other ∈ Table.names table, first < other := (List.pairwise_cons.1 sorted).1
    have rest : Table.Sorted table := (List.pairwise_cons.1 sorted).2
    rw [insert]
    split
    next before =>
      refine List.pairwise_cons.2 ⟨fun other mem => ?_, sorted⟩
      rcases List.mem_cons.1 mem with rfl | mem
      · exact before
      · exact List.lt_trans before (above other mem)
    next notBefore =>
      split
      next same => subst same; exact sorted
      next different =>
        refine List.pairwise_cons.2 ⟨fun other mem => ?_, ih rest⟩
        rcases mem_names_insert.1 mem with rfl | mem
        · refine Decidable.byContradiction fun notAfter => different ?_
          exact List.le_antisymm notAfter notBefore
        · exact above other mem

theorem Sorted.nodup {table : Table Entry} (sorted : table.Sorted) : table.names.Nodup :=
  sorted.imp fun less same => absurd (same ▸ less) (List.lt_irrefl _)

/-- Sorted tables with the same entries under all names are the same. -/
theorem ext_of_sorted {first second : Table Entry} (firstSorted : first.Sorted)
    (secondSorted : second.Sorted) (same : ∀ name, first.get? name = second.get? name) :
    first = second := by
  induction first generalizing second with
  | nil =>
    cases second with
    | nil => rfl
    | cons head _ => simpa [get?] using same head.1
  | cons head first ih =>
    obtain ⟨name, entry⟩ := head
    cases second with
    | nil => simpa [get?] using same name
    | cons head second =>
      obtain ⟨other, last⟩ := head
      obtain ⟨firstBelow, firstRest⟩ := List.pairwise_cons.1 firstSorted
      obtain ⟨secondBelow, secondRest⟩ := List.pairwise_cons.1 secondSorted
      -- each of the two least names is a name of the other table, so neither is less
      have heads : name = other := by
        have left := isSome_get?_iff.1 ((same name).symm ▸ (by simp [get?]) :
          (get? name ((other, last) :: second)).isSome)
        have right := isSome_get?_iff.1 ((same other) ▸ (by simp [get?]) :
          (get? other ((name, entry) :: first)).isSome)
        rcases List.mem_cons.1 left with rfl | left
        · rfl
        · rcases List.mem_cons.1 right with rfl | right
          · rfl
          · exact absurd (List.lt_trans (secondBelow _ left) (firstBelow _ right))
              (List.lt_irrefl _)
      subst heads
      have entries : entry = last := by simpa [get?] using same name
      subst entries
      have rest : first = second := by
        refine ih firstRest secondRest fun inner => ?_
        by_cases here : inner = name
        · subst here
          rw [get?_eq_none_iff.2 fun mem => List.lt_irrefl _ (firstBelow _ mem),
            get?_eq_none_iff.2 fun mem => List.lt_irrefl _ (secondBelow _ mem)]
        · simpa [get?, here] using same inner
      rw [rest]

theorem sorted_nil : Sorted ([] : Table Entry) := List.Pairwise.nil

theorem sorted_ofList (entries : List (Text × Entry)) : (ofList entries).Sorted := by
  suffices general : ∀ table : Table Entry, table.Sorted →
      Sorted (entries.foldl (fun table entry => table.insert entry.1 entry.2) table) from
    general [] sorted_nil
  induction entries with
  | nil => exact fun _ sorted => sorted
  | cons entry entries ih => exact fun table sorted => ih _ (sorted_insert sorted entry.1 entry.2)

theorem mem_names_ofList {entries : List (Text × Entry)} {name : Text} :
    name ∈ (ofList entries).names ↔ name ∈ entries.map Prod.fst := by
  suffices general : ∀ table : Table Entry,
      name ∈ names (entries.foldl (fun table entry => table.insert entry.1 entry.2) table)
        ↔ name ∈ entries.map Prod.fst ∨ name ∈ table.names from
    (general []).trans (or_iff_left List.not_mem_nil)
  induction entries with
  | nil => simp
  | cons entry entries ih =>
    intro table
    rw [List.foldl_cons, ih, mem_names_insert, List.map_cons, List.mem_cons, ← or_assoc,
      @or_comm (name ∈ entries.map Prod.fst)]

/-- Where no name comes twice, a list is the table of its entries. -/
theorem get?_ofList {entries : List (Text × Entry)} (distinct : (entries.map Prod.fst).Nodup)
    (name : Text) : (ofList entries).get? name = get? name entries := by
  suffices general : ∀ table : Table Entry,
      get? name (entries.foldl (fun table entry => table.insert entry.1 entry.2) table)
        = (get? name entries).orElse fun _ => table.get? name by
    rw [ofList, general]
    cases get? name entries <;> rfl
  induction entries with
  | nil => exact fun _ => rfl
  | cons entry entries ih =>
    intro table
    obtain ⟨new, rest⟩ := List.nodup_cons.1 distinct
    rw [List.foldl_cons, ih rest, get?_insert, get?]
    by_cases here : name = entry.1
    · have later : get? name entries = none := get?_eq_none_iff.2 (here ▸ new)
      rw [if_pos here, if_pos here, later]
      rfl
    · rw [if_neg here, if_neg here]

theorem get?_foldl_insert {entries : List (Text × Entry)} {name : Text}
    (other : name ∉ entries.map Prod.fst) (table : Table Entry) :
    get? name (entries.foldl (fun table entry => table.insert entry.1 entry.2) table)
      = table.get? name := by
  induction entries generalizing table with
  | nil => rfl
  | cons entry entries ih =>
    rw [List.map_cons, List.mem_cons, not_or] at other
    obtain ⟨different, rest⟩ := other
    rw [List.foldl_cons, ih rest, get?_insert, if_neg different]

/-- Of the entries of one name in a list, its table has the last. -/
theorem get?_ofList_of_last {front back : List (Text × Entry)} {name : Text} {entry : Entry}
    (last : name ∉ back.map Prod.fst) :
    (ofList (front ++ (name, entry) :: back)).get? name = some entry := by
  rw [ofList, List.foldl_append, List.foldl_cons, get?_foldl_insert last, get?_insert, if_pos rfl]

/-- The table of a list has no entries but those of the list. -/
theorem mem_of_mem_ofList {entries : List (Text × Entry)} {entry : Text × Entry}
    (mem : entry ∈ ofList entries) : entry ∈ entries := by
  suffices general : ∀ table : Table Entry,
      entry ∈ entries.foldl (fun table entry => table.insert entry.1 entry.2) table →
        entry ∈ entries ∨ entry ∈ table from
    (general [] mem).resolve_right List.not_mem_nil
  clear mem
  induction entries with
  | nil => exact fun _ => .inr
  | cons first entries ih =>
    intro table mem
    rcases ih _ mem with later | inserted
    · exact .inl (List.mem_cons_of_mem _ later)
    · rcases mem_insert inserted with rfl | old
      · exact .inl List.mem_cons_self
      · exact .inr old

/-- A sorted table is the table of its own entries. -/
theorem ofList_of_sorted {table : Table Entry} (sorted : table.Sorted) : ofList table = table :=
  ext_of_sorted (sorted_ofList table) sorted (get?_ofList sorted.nodup)

theorem sorted_filter {table : Table Entry} (sorted : table.Sorted) (keep : Text × Entry → Bool) :
    Sorted (table.filter keep) :=
  List.Pairwise.sublist (List.Sublist.map Prod.fst List.filter_sublist) sorted

end Table

end TypedConfig
