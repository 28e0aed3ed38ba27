import TypedConfig.Proofs.Value.Part

/-!
# Values laid over values

What a value that is laid over another leaves at each path of member names.

* `memberAt?`: the part that names of members lead to.
* `get?_mergeMembers`, `sorted_mergeMembers`: joined objects, member by member.
* `memberAt?_merge_of_plain`: what is neither null nor an object takes the place of what is there.
* `memberAt?_merge_of_null`, `memberAt?_merge_of_absent`: under null and beside the members that are
  laid over it, a value stays as it is.
* `merge_self`, `merge_merge`: laying the same value over the result changes nothing.
* `laidOver_merge`: the laws together.
-/

namespace TypedConfig.Value

/-! ### Parts under names -/

/-- The part of a value that names of members lead to. -/
def memberAt? (value : Value) (path : List Text) : Option Value := value.part? (path.map Step.name)

theorem memberAt?_nil (value : Value) : value.memberAt? [] = some value := part?_nil value

theorem memberAt?_object_cons (members : Table Value) (name : Text) (path : List Text) :
    (object members).memberAt? (name :: path)
      = (members.get? name).bind fun inner => inner.memberAt? path := by
  rw [memberAt?, List.map_cons, part?]
  rfl

/-- Only an object has parts under names. -/
theorem memberAt?_cons_eq_some_iff {value part : Value} {name : Text} {path : List Text} :
    value.memberAt? (name :: path) = some part
      ↔ ∃ members inner, value = object members ∧ Table.get? name members = some inner
        ∧ inner.memberAt? path = some part := by
  constructor
  · intro found
    obtain ⟨inner, here, further⟩ := part?_cons_eq_some_iff.1 found
    cases value with
    | object members => exact ⟨members, inner, rfl, here, further⟩
    | null | boolean | number | string | array => cases here
  · rintro ⟨members, inner, rfl, here, further⟩
    exact part?_cons_eq_some_iff.2 ⟨inner, here, further⟩

/-! ### Joined objects -/

theorem merge_null (current : Value) : current.merge null = current := by
  rw [merge, mergeOver]

theorem merge_object (former members : Table Value) :
    (object former).merge (object members) = object (mergeMembers members former) := by
  rw [merge, mergeOver]

/-- Over anything but an object, an object is laid as it is. -/
theorem merge_object_of_ne {current : Value} (other : ∀ former, current ≠ object former)
    (members : Table Value) : current.merge (object members) = object members := by
  cases current with
  | object former => exact absurd rfl (other former)
  | null | boolean | number | string | array => rw [merge, mergeOver]; simp

/-- Anything but null and an object takes the place of what it is laid over. -/
theorem merge_of_plain {bound : Value} (present : bound ≠ null)
    (plain : ∀ members, bound ≠ object members) (current : Value) :
    current.merge bound = bound := by
  cases bound with
  | null => exact absurd rfl present
  | object members => exact absurd rfl (plain members)
  | boolean | number | string | array => rw [merge, mergeOver]

/-- The members that are laid over an object, each over the member of its name. -/
theorem get?_mergeMembers {members : Table Value} (distinct : members.names.Nodup)
    (former : Table Value) (name : Text) :
    Table.get? name (mergeMembers members former) = match members.get? name with
      | some value => some (((former.get? name).getD null).merge value)
      | none => former.get? name := by
  induction members generalizing former with
  | nil => rw [mergeMembers, Table.get?]
  | cons member members ih =>
    obtain ⟨first, value⟩ := member
    obtain ⟨new, rest⟩ := List.nodup_cons.1 distinct
    rw [mergeMembers, ih rest, Table.get?, Table.get?_insert]
    by_cases here : name = first
    · subst here
      rw [Table.get?_eq_none_iff.2 new, if_pos rfl, if_pos rfl]
      rfl
    · rw [if_neg here, if_neg here]

theorem sorted_mergeMembers (members : Table Value) {former : Table Value}
    (sorted : former.Sorted) : Table.Sorted (mergeMembers members former) := by
  induction members generalizing former with
  | nil => rwa [mergeMembers]
  | cons member members ih =>
    rw [mergeMembers]
    exact ih (Table.sorted_insert sorted _ _)

/-! ### What stands at a path -/

/-- Below a name that both objects have, the parts come from the two members of that name. -/
theorem memberAt?_merge_object {members former : Table Value} (tidy : Tidy (object members))
    {name : Text} {inner : Value} (found : members.get? name = some inner) (path : List Text) :
    ((object former).merge (object members)).memberAt? (name :: path)
      = (((former.get? name).getD null).merge inner).memberAt? path := by
  rw [merge_object, memberAt?_object_cons, get?_mergeMembers tidy.sorted.nodup, found]
  rfl

/-- **What is neither null nor an object takes the place** of whatever is there. -/
theorem memberAt?_merge_of_plain {current bound part : Value} {path : List Text}
    (tidy : bound.Tidy) (found : bound.memberAt? path = some part) (present : part ≠ null)
    (plain : ∀ members, part ≠ object members) :
    (current.merge bound).memberAt? path = some part := by
  induction path generalizing current bound with
  | nil =>
    cases found
    rw [merge_of_plain present plain, memberAt?_nil]
  | cons name path ih =>
    obtain ⟨members, inner, rfl, here, further⟩ := memberAt?_cons_eq_some_iff.1 found
    by_cases isObject : ∃ former : Table Value, current = object former
    · obtain ⟨former, rfl⟩ := isObject
      rw [memberAt?_merge_object tidy here]
      exact ih (tidy.inner here) further
    · rwa [merge_object_of_ne (not_exists.1 isObject)]

/-- **Under null, a value stays as it is.** -/
theorem memberAt?_merge_of_null {current bound part : Value} {path : List Text}
    (tidy : bound.Tidy) (found : bound.memberAt? path = some null)
    (held : current.memberAt? path = some part) :
    (current.merge bound).memberAt? path = some part := by
  induction path generalizing current bound with
  | nil =>
    cases found
    rwa [merge_null]
  | cons name path ih =>
    obtain ⟨members, inner, rfl, here, further⟩ := memberAt?_cons_eq_some_iff.1 found
    obtain ⟨former, old, rfl, there, rest⟩ := memberAt?_cons_eq_some_iff.1 held
    rw [memberAt?_merge_object tidy here, there]
    exact ih (tidy.inner here) further rest

/-- **Beside the members that are laid over it, a value stays as it is.** -/
theorem memberAt?_merge_of_absent {current bound part : Value} {front back : List Text}
    {name : Text} {members : Table Value} (tidy : bound.Tidy)
    (found : bound.memberAt? front = some (object members))
    (absent : members.get? name = none)
    (held : current.memberAt? (front ++ name :: back) = some part) :
    (current.merge bound).memberAt? (front ++ name :: back) = some part := by
  induction front generalizing current bound with
  | nil =>
    cases found
    obtain ⟨former, old, rfl, there, rest⟩ := memberAt?_cons_eq_some_iff.1 held
    rw [List.nil_append, merge_object, memberAt?_object_cons, get?_mergeMembers tidy.sorted.nodup,
      absent, there]
    exact rest
  | cons first front ih =>
    obtain ⟨outer, inner, rfl, here, further⟩ := memberAt?_cons_eq_some_iff.1 found
    obtain ⟨former, old, rfl, there, rest⟩ := memberAt?_cons_eq_some_iff.1 held
    rw [List.cons_append, memberAt?_merge_object tidy here, there]
    exact ih (tidy.inner here) further rest

/-! ### Laying a value over twice -/

/-- A value laid over itself is itself. -/
theorem merge_self {value : Value} (tidy : value.Tidy) : value.merge value = value := by
  induction tidy with
  | null => exact merge_null null
  | boolean | number | string | array => exact merge_of_plain (by simp) (by simp) _
  | @object members sorted _ ih =>
    rw [merge_object]
    refine congrArg object (Table.ext_of_sorted (sorted_mergeMembers members sorted) sorted ?_)
    intro name
    rw [get?_mergeMembers sorted.nodup]
    cases found : members.get? name with
    | none => rfl
    | some value => exact congrArg some (ih (name, value) (Table.mem_of_get? found))

/-- **Laying a value over the result once more changes nothing.** -/
theorem merge_merge {current bound : Value} (tidy : current.Tidy) (boundTidy : bound.Tidy) :
    (current.merge bound).merge bound = current.merge bound := by
  induction boundTidy generalizing current with
  | null => exact merge_null _
  | boolean | number | string | array =>
    exact (merge_of_plain (by simp) (by simp) _).trans (merge_of_plain (by simp) (by simp) _).symm
  | @object members sorted each ih =>
    by_cases isObject : ∃ former : Table Value, current = object former
    · obtain ⟨former, rfl⟩ := isObject
      have once := sorted_mergeMembers members tidy.sorted
      rw [merge_object, merge_object]
      refine congrArg object (Table.ext_of_sorted (sorted_mergeMembers members once) once ?_)
      intro name
      rw [get?_mergeMembers sorted.nodup, get?_mergeMembers sorted.nodup]
      cases found : members.get? name with
      | none => rfl
      | some value =>
        have oldTidy : ((former.get? name).getD null).Tidy := by
          cases old : former.get? name with
          | none => exact .null
          | some inner => exact tidy.inner old
        exact congrArg some (ih (name, value) (Table.mem_of_get? found) oldTidy)
    · rw [merge_object_of_ne (not_exists.1 isObject)]
      exact merge_self (.object sorted each)

/-! ### The laws together -/

/-- A value is another with a value laid over it: what is laid over it stands where it stands, and
elsewhere all is as it was. -/
structure LaidOver (current bound result : Value) : Prop where
  takes (path : List Text) (part : Value) (found : bound.memberAt? path = some part)
    (present : part ≠ null) (plain : ∀ members, part ≠ object members) :
    result.memberAt? path = some part
  keeps_null (path : List Text) (part : Value) (found : bound.memberAt? path = some null)
    (held : current.memberAt? path = some part) : result.memberAt? path = some part
  keeps_absent (front : List Text) (name : Text) (back : List Text) (members : Table Value)
    (part : Value) (found : bound.memberAt? front = some (object members))
    (absent : members.get? name = none)
    (held : current.memberAt? (front ++ name :: back) = some part) :
    result.memberAt? (front ++ name :: back) = some part
  settled : result.merge bound = result

theorem laidOver_merge {current bound : Value} (tidy : current.Tidy) (boundTidy : bound.Tidy) :
    LaidOver current bound (current.merge bound) where
  takes _ _ found present plain := memberAt?_merge_of_plain boundTidy found present plain
  keeps_null _ _ found held := memberAt?_merge_of_null boundTidy found held
  keeps_absent _ _ _ _ _ found absent held := memberAt?_merge_of_absent boundTidy found absent held
  settled := merge_merge tidy boundTidy

end TypedConfig.Value
