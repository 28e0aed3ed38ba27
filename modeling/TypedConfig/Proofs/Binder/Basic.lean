import Mathlib.Data.List.Forall2
import Mathlib.Data.Nat.Find
import TypedConfig.Binder.Basic
import TypedConfig.Proofs.Source.View

/-!
# Binding one level

What a level of `bindAt` does once it is known what a shape stands for, and what binding part by
part gives.

* `bindAt_scalar`, `bindAt_sequence`, `bindAt_mapping`, `bindAt_optional`, `bindAt_composite`: one
  equation for each kind of shape.
* `ReadsText`, `bindAt_of_readsText`: the shapes that are bound from one text.
* `exists_indices_eq`: the elements of a sequence are those in front of the first that is missing.
* `Outcome.mapM_eq_done`: parts that are all bound give the list of their values.
-/

namespace TypedConfig

/-- The shape of the elements of a container. -/
def Shape.element? : Shape → Option Shape
  | sequence _ element | mapping _ element => some element
  | scalar _ _ | custom _ | optional _ _ | composite _ _ | named _ => none

namespace Binder

variable {binder : Binder} {family : Family} {depth : Nat} {source : Source} {shape : Shape}
  {target : Target}

theorem bindAt_scalar {type : Text} {kind : Scalar}
    (resolved : shape.resolve family = .scalar type kind) :
    binder.bindAt family (depth + 1) source shape target
      = .ofExcept (binder.bindLeaf source (.scalar type kind) target) := by
  rw [bindAt, resolved]

theorem bindAt_sequence {type : Text} {element : Shape}
    (resolved : shape.resolve family = .sequence type element) :
    binder.bindAt family (depth + 1) source shape target
      = binder.bindSequence (binder.bindAt family depth) family source element target := by
  rw [bindAt, resolved]

theorem bindAt_mapping {type : Text} {member : Shape}
    (resolved : shape.resolve family = .mapping type member) :
    binder.bindAt family (depth + 1) source shape target
      = binder.bindMapping (binder.bindAt family depth) source member target := by
  rw [bindAt, resolved]

theorem bindAt_optional {type : Text} {inner : Shape}
    (resolved : shape.resolve family = .optional type inner) :
    binder.bindAt family (depth + 1) source shape target
      = bindOptional (binder.bindAt family depth) source inner target := by
  rw [bindAt, resolved]

/-- A composite without a converter takes two levels. -/
theorem bindAt_composite {type : Text} {fields : List (Field Shape)}
    (resolved : shape.resolve family = .composite type fields)
    (builtin : binder.registry.converters.get? type = none) :
    binder.bindAt family (depth + 2) source shape target
      = bindFields (binder.bindAt family depth) (binder.bindCompositeAt family depth) family source
          fields target := by
  rw [bindAt, resolved]
  show (if (binder.registry.converters.get? type).isSome then _ else _) = _
  rw [builtin, Option.isSome_none, if_neg Bool.false_ne_true, bindCompositeAt]

/-! ### Values that are read from one text -/

/-- The shapes that are bound from the text of their target. -/
def ReadsText (binder : Binder) : Shape → Prop
  | .scalar _ _ | .custom _ | .named _ => True
  | .composite type _ => (binder.registry.converters.get? type).isSome
  | .sequence _ _ | .mapping _ _ | .optional _ _ => False

theorem ReadsText.element?_eq_none (reads : binder.ReadsText shape) : shape.element? = none := by
  cases shape with
  | sequence | mapping => exact reads.elim
  | scalar | custom | named | optional | composite => rfl

theorem bindAt_of_readsText (reads : binder.ReadsText (shape.resolve family)) (depth : Nat)
    (source : Source) (target : Target) :
    binder.bindAt family (depth + 1) source shape target
      = .ofExcept (binder.bindLeaf source (shape.resolve family) target) := by
  rw [bindAt]
  cases resolved : shape.resolve family with
  | scalar | custom | named => rfl
  | composite type fields =>
    rw [resolved] at reads
    exact if_pos reads
  | sequence | mapping | optional =>
    rw [resolved] at reads
    exact reads.elim

/-! ### Targets -/

/-- The target of an element has its key and its tag, whatever rules are passed on to it. -/
theorem elementTarget_place (binder : Binder) (parent child : Target) :
    (binder.elementTarget parent child).key = child.key
      ∧ (binder.elementTarget parent child).tag = child.tag := by
  unfold elementTarget
  split <;> exact ⟨rfl, rfl⟩

/-- Without rules, a container is accepted. -/
theorem finished_of_ruleless (ruleless : target.rules = []) (value : Value) :
    binder.finished target value = .ok value := by
  unfold finished validated
  rw [ruleless]
  split <;> rfl

theorem elementTarget_of_ruleless (ruleless : target.rules = []) (index : Nat) :
    binder.elementTarget target (target.element index) = target.element index := by
  unfold elementTarget
  rw [ruleless]
  split <;> rfl

section

variable {key path : Text}

theorem validated_new (value : Value) : binder.validated (Target.new key path) value = .ok value :=
  rfl

theorem finished_new (value : Value) : binder.finished (Target.new key path) value = .ok value :=
  finished_of_ruleless rfl value

theorem elementTarget_new (inner innerPath : Text) :
    binder.elementTarget (Target.new key path) (Target.new inner innerPath)
      = Target.new inner innerPath := by
  unfold elementTarget
  split <;> rfl

end

/-! ### The elements of a sequence -/

theorem takeWhile_range {keep : Nat → Bool} {count bound : Nat} (within : count < bound)
    (below : ∀ index < count, keep index) (stops : ¬ keep count) :
    (List.range bound).takeWhile keep = List.range count := by
  obtain ⟨more, rfl⟩ := Nat.exists_eq_add_of_lt within
  rw [Nat.add_assoc, List.range_add,
    List.takeWhile_append_of_pos fun index mem => below index (List.mem_range.1 mem),
    List.range_succ_eq_map, List.map_cons, List.takeWhile_cons_of_neg (by simpa using stops),
    List.append_nil]

/-- **The elements of a sequence are those in front of the first that is missing**: looking no
further than the size of the source leaves none of them out. -/
theorem exists_indices_eq (source : Source) (key : Text) :
    ∃ count, indices source key = List.range count
      ∧ (∀ index < count, source.has (Key.element key index))
      ∧ ¬ source.has (Key.element key count) := by
  have missing : ∃ index, ¬ source.has (Key.element key index) := by
    obtain ⟨index, -, absent⟩ := source.exists_missing key
    exact ⟨index, absent⟩
  have below : ∀ index < Nat.find missing, source.has (Key.element key index) := by
    intro index low
    by_contra absent
    exact Nat.find_min missing low absent
  have within : Nat.find missing < source.size + 1 := by
    obtain ⟨index, low, absent⟩ := source.exists_missing key
    exact Nat.lt_succ_of_le (Nat.le_trans (Nat.find_min' missing absent) low)
  exact ⟨Nat.find missing, takeWhile_range within below (Nat.find_spec missing), below,
    Nat.find_spec missing⟩

theorem indices_eq_range {key : Text} {count : Nat}
    (below : ∀ index < count, source.has (Key.element key index))
    (stops : ¬ source.has (Key.element key count)) : indices source key = List.range count := by
  obtain ⟨count', listed, below', stops'⟩ := exists_indices_eq source key
  rw [listed]
  rcases Nat.lt_trichotomy count count' with less | rfl | greater
  · exact absurd (below' count less) stops
  · rfl
  · exact absurd (below count' greater) stops'

/-- Sequences with the same elements present have the same indices. -/
theorem indices_congr {first second : Source} {left right : Text}
    (same : ∀ index,
      first.has (Key.element left index) = second.has (Key.element right index)) :
    indices first left = indices second right := by
  obtain ⟨count, listed, below, stops⟩ := exists_indices_eq first left
  rw [listed, indices_eq_range (fun index low => same index ▸ below index low) (same count ▸ stops)]

/-! ### The members of a mapping -/

theorem members?_of_memberNames {target : Target} {names : List Text}
    (found : memberNames source target = .ok names) : source.members? target.key = .ok names := by
  unfold memberNames at found
  split at found
  next => cases found
  next =>
    split at found
    next listed => exact listed.trans found
    next => cases found
    next => cases found

end Binder

namespace Outcome

theorem mapM_eq_done {Part Result : Type} {bind : Part → Outcome Result} {parts : List Part}
    {results : List Result}
    (each : List.Forall₂ (fun part result => bind part = .done result) parts results) :
    parts.mapM bind = .done results := by
  induction each with
  | nil => rfl
  | cons here _ ih =>
    rw [List.mapM_cons, here, Outcome.done_bind, ih]
    rfl

/-- Binding in several steps succeeds when each step does. -/
theorem exists_of_bind_eq_done {Result Next : Type} {outcome : Outcome Result}
    {next : Result → Outcome Next} {last : Next} (bound : outcome >>= next = .done last) :
    ∃ result, outcome = .done result ∧ next result = .done last := by
  cases outcome with
  | done result => exact ⟨result, rfl, bound⟩
  | failed error => cases bound
  | exhausted => cases bound

/-- Parts that are bound together are each bound. -/
theorem exists_of_mapM_eq_done {Part Result : Type} {bind : Part → Outcome Result}
    {parts : List Part} {results : List Result} (bound : parts.mapM bind = .done results) :
    ∀ part ∈ parts, ∃ result, bind part = .done result := by
  induction parts generalizing results with
  | nil =>
    intro part mem
    cases mem
  | cons first parts ih =>
    rw [List.mapM_cons] at bound
    obtain ⟨result, here, later⟩ := exists_of_bind_eq_done bound
    obtain ⟨rest, there, -⟩ := exists_of_bind_eq_done later
    intro part mem
    rcases List.mem_cons.1 mem with rfl | mem
    · exact ⟨result, here⟩
    · exact ih there part mem

/-- The results of parts that are bound together are those of the parts, one after the other. -/
theorem forall₂_of_mapM_eq_done {Part Result : Type} {bind : Part → Outcome Result}
    {parts : List Part} {results : List Result} (bound : parts.mapM bind = .done results) :
    List.Forall₂ (fun part result => bind part = .done result) parts results := by
  induction parts generalizing results with
  | nil =>
    cases bound
    exact .nil
  | cons first parts ih =>
    rw [List.mapM_cons] at bound
    obtain ⟨result, here, later⟩ := exists_of_bind_eq_done bound
    obtain ⟨rest, there, same⟩ := exists_of_bind_eq_done later
    cases same
    exact .cons here (ih there)

/-- A result of parts that are bound together is that of the part at its index. -/
theorem exists_getElem?_of_mapM_eq_done {Part Result : Type} {bind : Part → Outcome Result}
    {parts : List Part} {results : List Result} (bound : parts.mapM bind = .done results)
    {index : Nat} {result : Result} (listed : results[index]? = some result) :
    ∃ part, parts[index]? = some part ∧ bind part = .done result := by
  have each := forall₂_of_mapM_eq_done bound
  clear bound
  induction each generalizing index with
  | nil => cases listed
  | cons here _ ih =>
    cases index with
    | zero =>
      cases listed
      exact ⟨_, rfl, here⟩
    | succ index => exact ih listed

/-- A result of parts that are bound together is that of one of the parts. -/
theorem exists_part_of_mapM_eq_done {Part Result : Type} {bind : Part → Outcome Result}
    {parts : List Part} {results : List Result} (bound : parts.mapM bind = .done results) :
    ∀ result ∈ results, ∃ part ∈ parts, bind part = .done result := by
  have each := forall₂_of_mapM_eq_done bound
  clear bound
  induction each with
  | nil => exact List.forall_mem_nil _
  | cons here _ ih =>
    refine List.forall_mem_cons.2 ⟨⟨_, List.mem_cons_self, here⟩, fun result mem => ?_⟩
    obtain ⟨part, found, there⟩ := ih result mem
    exact ⟨part, List.mem_cons_of_mem _ found, there⟩

/-- Parts that are bound under labels keep them. -/
theorem labels_of_mapM_eq_done {Part Label Result : Type} {label : Part → Label}
    {bind : Part → Outcome Result} {parts : List Part} {members : List (Label × Result)}
    (bound : (parts.mapM fun part => do
      let result ← bind part
      pure (label part, result)) = .done members) :
    members.map Prod.fst = parts.map label := by
  have each := forall₂_of_mapM_eq_done bound
  clear bound
  induction each with
  | nil => rfl
  | cons here _ ih =>
    obtain ⟨result, -, same⟩ := exists_of_bind_eq_done here
    cases same
    rw [List.map_cons, List.map_cons, ih]

/-- Parts are bound one after the other, up to the first that is not. When none of the parts that
are reached uses up the depth, they do not together. -/
theorem mapM_ne_exhausted {Part Result : Type} {bind : Part → Outcome Result} {parts : List Part}
    (each : ∀ front part back, parts = front ++ part :: back →
      (∀ earlier ∈ front, ∃ result, bind earlier = .done result) → bind part ≠ .exhausted) :
    parts.mapM bind ≠ .exhausted := by
  induction parts with
  | nil => simp
  | cons first parts ih =>
    rw [List.mapM_cons]
    have here := each [] first parts rfl (by simp)
    cases bound : bind first with
    | exhausted => exact absurd bound here
    | failed error => simp
    | done result =>
      have rest : parts.mapM bind ≠ .exhausted := by
        refine ih fun front part back same reached => ?_
        refine each (first :: front) part back (by rw [same, List.cons_append]) ?_
        intro earlier mem
        rcases List.mem_cons.1 mem with rfl | mem
        · exact ⟨result, bound⟩
        · exact reached earlier mem
      rw [done_bind]
      cases later : parts.mapM bind with
      | exhausted => exact absurd later rest
      | failed error => simp
      | done results => simp

/-- A part that uses up the depth uses it up for all, unless a part in front of it fails. -/
theorem mapM_eq_exhausted {Part Result : Type} {bind : Part → Outcome Result}
    {front back : List Part} {part : Part} (here : bind part = .exhausted)
    (earlier : ∀ part ∈ front, ∀ error, bind part ≠ .failed error) :
    (front ++ part :: back).mapM bind = .exhausted := by
  induction front with
  | nil =>
    rw [List.nil_append, List.mapM_cons, here]
    rfl
  | cons first front ih =>
    rw [List.cons_append, List.mapM_cons]
    cases bound : bind first with
    | exhausted => rfl
    | failed error => exact absurd bound (earlier first List.mem_cons_self error)
    | done result =>
      rw [done_bind, ih fun part mem => earlier part (List.mem_cons_of_mem first mem)]
      rfl

theorem eq_ok_of_ofExcept {Result : Type} {outcome : Except PropertyError Result} {result : Result}
    (same : ofExcept outcome = .done result) : outcome = .ok result := by
  cases outcome <;> cases same
  rfl

theorem eq_error_of_ofExcept {Result : Type} {outcome : Except PropertyError Result}
    {error : PropertyError} (same : ofExcept outcome = .failed error) : outcome = .error error := by
  cases outcome <;> cases same
  rfl

/-- Binding in several steps fails when one of the steps does. -/
theorem cases_of_bind_eq_failed {Result Next : Type} {outcome : Outcome Result}
    {next : Result → Outcome Next} {error : PropertyError}
    (failed : outcome >>= next = .failed error) :
    outcome = .failed error ∨ ∃ result, outcome = .done result ∧ next result = .failed error := by
  cases outcome with
  | done result => exact .inr ⟨result, rfl, failed⟩
  | failed other =>
    cases failed
    exact .inl rfl
  | exhausted => cases failed

/-- Parts are bound one after the other, up to the first that fails. -/
theorem mapM_eq_failed_iff {Part Result : Type} {bind : Part → Outcome Result}
    {parts : List Part} {error : PropertyError} : parts.mapM bind = .failed error
      ↔ ∃ front part back, parts = front ++ part :: back ∧ bind part = .failed error
        ∧ ∀ earlier ∈ front, ∃ result, bind earlier = .done result := by
  constructor
  · intro failed
    induction parts with
    | nil => cases failed
    | cons first parts ih =>
      rw [List.mapM_cons] at failed
      rcases cases_of_bind_eq_failed failed with here | ⟨result, here, later⟩
      · exact ⟨[], first, parts, rfl, here, List.forall_mem_nil _⟩
      rcases cases_of_bind_eq_failed later with there | ⟨_, _, never⟩
      · obtain ⟨front, part, back, rfl, found, earlier⟩ := ih there
        exact ⟨first :: front, part, back, rfl, found,
          List.forall_mem_cons.2 ⟨⟨result, here⟩, earlier⟩⟩
      · cases never
  · rintro ⟨front, part, back, rfl, here, earlier⟩
    induction front with
    | nil =>
      rw [List.nil_append, List.mapM_cons, here]
      rfl
    | cons first front ih =>
      obtain ⟨⟨result, done⟩, later⟩ := List.forall_mem_cons.1 earlier
      rw [List.cons_append, List.mapM_cons, done, done_bind, ih later]
      rfl

/-- Parts that fail together fail with the error of one of them. -/
theorem exists_of_mapM_eq_failed {Part Result : Type} {bind : Part → Outcome Result}
    {parts : List Part} {error : PropertyError} (failed : parts.mapM bind = .failed error) :
    ∃ part ∈ parts, bind part = .failed error := by
  obtain ⟨front, part, back, rfl, here, -⟩ := mapM_eq_failed_iff.1 failed
  exact ⟨part, List.mem_append_right _ List.mem_cons_self, here⟩

end Outcome

end TypedConfig
