import Mathlib.Data.List.Forall2
import TypedConfig.Proofs.Binder.Conforms

/-!
# Rules beside binding

Rules are looked at while a value is bound, but they do not take part in it: at each place the value
is found first, as it is without rules, and is then given or refused.

* `Rule.Accepts`, `Accepts`: a rule has a validator, and it says yes to a value; all rules do.
* `validated_eq_ok_iff`, `finished_eq_ok_iff`: what is given is the value that was to be checked.
* `bindLeaf_eq_bind`: a value that is read from one text is bound first and checked last.
* `bindSequence_filters`, `bindMapping_filters`: if rules only test the elements of a container, they
  only test the container.
-/

namespace TypedConfig

namespace Outcome

variable {Part Result Next : Type}

theorem bind_eq_done_iff {outcome : Outcome Result} {next : Result → Outcome Next} {last : Next} :
    outcome >>= next = .done last ↔ ∃ result, outcome = .done result ∧ next result = .done last :=
  ⟨exists_of_bind_eq_done, fun ⟨_, here, later⟩ => by rw [here, done_bind, later]⟩

theorem mapM_eq_done_iff {bind : Part → Outcome Result} {parts : List Part}
    {results : List Result} :
    parts.mapM bind = .done results
      ↔ List.Forall₂ (fun part result => bind part = .done result) parts results :=
  ⟨forall₂_of_mapM_eq_done, mapM_eq_done⟩

theorem ofExcept_eq_done_iff {outcome : Except PropertyError Result} {result : Result} :
    ofExcept outcome = .done result ↔ outcome = .ok result :=
  ⟨eq_ok_of_ofExcept, fun same => by rw [same, ofExcept_ok]⟩

theorem labelled_eq_done_iff {Label : Type} {label : Label} {outcome : Outcome Result}
    {entry : Label × Result} :
    (do let result ← outcome
        pure (label, result)) = .done entry ↔ outcome = .done entry.2 ∧ label = entry.1 := by
  obtain ⟨name, value⟩ := entry
  cases outcome <;> simp [and_comm]

/-- Parts that are bound alike, but for a test of each result, are bound alike together, but for
the test of all results. -/
theorem mapM_filters {strict plain : Part → Outcome Result} {passes : Result → Prop}
    {parts : List Part} {results : List Result}
    (each : ∀ part result, strict part = .done result ↔ plain part = .done result ∧ passes result) :
    parts.mapM strict = .done results
      ↔ parts.mapM plain = .done results ∧ ∀ result ∈ results, passes result := by
  rw [mapM_eq_done_iff, mapM_eq_done_iff]
  simp only [each]
  constructor
  · intro both
    refine ⟨both.imp fun _ _ here => here.1, ?_⟩
    induction both with
    | nil => simp
    | cons here _ ih => exact List.forall_mem_cons.2 ⟨here.2, ih⟩
  · rintro ⟨bound, passed⟩
    induction bound with
    | nil => exact .nil
    | cons here _ ih =>
      obtain ⟨first, rest⟩ := List.forall_mem_cons.1 passed
      exact .cons ⟨here, first⟩ (ih rest)

end Outcome

/-- The elements of a list, or the values of the members of an object. -/
def Value.elements : Value → List Value
  | array items => items
  | object members => members.map Prod.snd
  | null | boolean _ | number _ | string _ => []

/-- A rule accepts a value when it has a validator that says yes to it. -/
def Rule.Accepts (registry : Registry) (rule : Rule) (value : Value) : Prop :=
  ∃ validator, registry.validators.get? rule.name = some validator
    ∧ validator rule.content value = .ok true

namespace Binder

variable {binder : Binder} {family : Family} {source : Source} {shape : Shape} {target : Target}
  {value : Value} {rules : List Rule}

/-! ### What rules accept -/

/-- The value of a target is accepted by every one of the rules. -/
def Accepts (binder : Binder) (rules : List Rule) (value : Value) : Prop :=
  ∀ rule ∈ rules, rule.Accepts binder.registry value

@[simp]
theorem accepts_nil : binder.Accepts [] value := by simp [Accepts]

theorem checkRule_eq_ok_iff (target : Target) {rule : Rule} :
    binder.checkRule target value rule = .ok () ↔ rule.Accepts binder.registry value := by
  unfold checkRule Rule.Accepts
  cases binder.registry.validators.get? rule.name with
  | none => simp
  | some validator =>
    dsimp only
    cases answer : validator rule.content value with
    | error cause => simp [answer]
    | ok accepted => cases accepted <;> simp [answer]

theorem checkRules_eq_ok_iff (target : Target) :
    binder.checkRules target value rules = .ok () ↔ binder.Accepts rules value := by
  induction rules with
  | nil => simp [checkRules]
  | cons rule rules ih =>
    unfold checkRules
    rw [Accepts, List.forall_mem_cons, ← checkRule_eq_ok_iff target]
    cases binder.checkRule target value rule with
    | ok => simpa [Accepts] using ih
    | error error => simp

/-- **A value is given when all rules of the target accept it**, and then as it is. -/
theorem validated_eq_ok_iff {result : Value} :
    binder.validated target value = .ok result
      ↔ result = value ∧ binder.Accepts target.rules value := by
  rw [validated, ← checkRules_eq_ok_iff target]
  cases binder.checkRules target value target.rules with
  | ok => simp [Except.map, eq_comm]
  | error error => simp [Except.map]

theorem finished_eq_ok_iff {result : Value} :
    binder.finished target value = .ok result
      ↔ result = value ∧ (binder.check.checksContainer → binder.Accepts target.rules value) := by
  unfold finished
  by_cases checked : binder.check.checksContainer
  · rw [if_pos checked, validated_eq_ok_iff]
    simp [checked]
  · rw [if_neg checked]
    simp [checked, eq_comm]

theorem not_isNotExist_of_checkRule {rule : Rule} {error : PropertyError}
    (refused : binder.checkRule target value rule = .error error) : ¬ error.isNotExist := by
  unfold checkRule at refused
  split at refused
  · cases refused
    simp [PropertyError.isNotExist]
  · split at refused <;> cases refused <;> simp [rejection, PropertyError.isNotExist]

/-- A value that is refused is not missing. -/
theorem not_isNotExist_of_validated {error : PropertyError}
    (refused : binder.validated target value = .error error) : ¬ error.isNotExist := by
  replace refused : binder.checkRules target value target.rules = .error error :=
    eq_error_of_map_eq_error refused
  generalize target.rules = rules at refused
  induction rules with
  | nil => cases refused
  | cons rule rules ih =>
    unfold checkRules at refused
    split at refused
    · exact ih refused
    next other here =>
      cases refused
      exact not_isNotExist_of_checkRule here

/-! ### Leaves -/

/-- **A leaf is bound first and checked last**: its rules see the value that it has without them. -/
theorem bindLeaf_eq_bind (source : Source) (shape : Shape) (target : Target) :
    binder.bindLeaf source shape target
      = binder.bindLeaf source shape (target.withRules []) >>= binder.validated target := by
  have resolved : Placeholder.resolve source (target.withRules [])
      = Placeholder.resolve source target := rfl
  unfold bindLeaf
  rw [resolved]
  cases Placeholder.resolve source target with
  | error error => rfl
  | ok text =>
    dsimp only
    cases binder.conversion? shape with
    | none => rfl
    | some convert =>
      dsimp only
      cases convert text with
      | error cause => rfl
      | ok value => rfl

theorem bindLeaf_eq_ok_iff :
    binder.bindLeaf source shape target = .ok value
      ↔ binder.bindLeaf source shape (target.withRules []) = .ok value
        ∧ binder.Accepts target.rules value := by
  rw [bindLeaf_eq_bind]
  cases binder.bindLeaf source shape (target.withRules []) with
  | error error => exact iff_of_false (fun same => by cases same) (fun both => by cases both.1)
  | ok bound =>
    show binder.validated target bound = .ok value ↔ _
    rw [validated_eq_ok_iff, Except.ok.injEq]
    constructor
    · rintro ⟨rfl, accepted⟩
      exact ⟨rfl, accepted⟩
    · rintro ⟨rfl, accepted⟩
      exact ⟨rfl, accepted⟩

/-! ### Containers -/

@[simp]
theorem rules_withRules (target : Target) (rules : List Rule) :
    (target.withRules rules).rules = rules := rfl

variable {bind : BindPart} {element : Shape} {passes : Value → Prop}

/-- An element is bound with the rules of its container as it is bound without them, but for a test
of the result. -/
def FiltersPart (binder : Binder) (bind : BindPart) (element : Shape) (target : Target)
    (passes : Value → Prop) : Prop :=
  ∀ view child item, bind view element (binder.elementTarget target child) = .done item
    ↔ bind view element (binder.elementTarget (target.withRules []) child) = .done item
      ∧ passes item

theorem bindSequence_filters (part : FiltersPart binder bind element target passes) :
    binder.bindSequence bind family source element target = .done value
      ↔ binder.bindSequence bind family source element (target.withRules []) = .done value
        ∧ (∀ item ∈ value.elements, passes item)
        ∧ (binder.check.checksContainer → binder.Accepts target.rules value) := by
  have place : binder.elementSource source (element.resolve family) (target.withRules [])
      = binder.elementSource source (element.resolve family) target := rfl
  unfold bindSequence
  rw [place]
  cases binder.elementSource source (element.resolve family) target with
  | error error => exact iff_of_false (fun same => by cases same) (fun both => by cases both.1)
  | ok view =>
    simp only [Outcome.ofExcept_ok, Outcome.done_bind]
    cases view with
    | none =>
      dsimp only
      simp only [Outcome.ofExcept_eq_done_iff, finished_eq_ok_iff, rules_withRules, accepts_nil,
        implies_true, and_true]
      constructor
      · rintro ⟨rfl, whole⟩
        exact ⟨rfl, by simp [Value.elements], whole⟩
      · rintro ⟨rfl, -, whole⟩
        exact ⟨rfl, whole⟩
    | some view =>
      dsimp only
      simp only [Outcome.bind_eq_done_iff, Outcome.ofExcept_eq_done_iff, finished_eq_ok_iff,
        rules_withRules, accepts_nil, implies_true, and_true,
        Outcome.mapM_filters fun index => part view _]
      constructor
      · rintro ⟨items, ⟨bound, passed⟩, rfl, whole⟩
        exact ⟨⟨items, bound, rfl⟩, passed, whole⟩
      · rintro ⟨⟨items, bound, rfl⟩, passed, whole⟩
        exact ⟨items, ⟨bound, passed⟩, rfl, whole⟩

/-- The members of a mapping are listed in order. -/
theorem pairwise_of_memberNames {names : List Text} (listed : memberNames source target = .ok names) :
    names.Pairwise (· < ·) := by
  unfold memberNames at listed
  rw [Source.members?_eq] at listed
  split at listed
  · cases listed
  · split_ifs at listed
    cases listed
    exact Table.sorted_ofList _

theorem bindMapping_filters (part : FiltersPart binder bind element target passes) :
    binder.bindMapping bind source element target = .done value
      ↔ binder.bindMapping bind source element (target.withRules []) = .done value
        ∧ (∀ item ∈ value.elements, passes item)
        ∧ (binder.check.checksContainer → binder.Accepts target.rules value) := by
  have place : memberNames source (target.withRules []) = memberNames source target := rfl
  unfold bindMapping
  rw [place]
  cases listed : memberNames source target with
  | error error => exact iff_of_false (fun same => by cases same) (fun both => by cases both.1)
  | ok names =>
    have each (name : Text) (entry : Text × Value) :
        (do let value ← bind source element (binder.elementTarget target (target.child name))
            pure (name, value)) = .done entry
          ↔ (do let value ← bind source element
                  (binder.elementTarget (target.withRules []) ((target.withRules []).child name))
                pure (name, value)) = .done entry ∧ passes entry.2 := by
      rw [Outcome.labelled_eq_done_iff, Outcome.labelled_eq_done_iff, part, and_right_comm]
      rfl
    -- The names are listed in order, so the members are the table that they make up.
    have elements {members : List (Text × Value)} (bound : (names.mapM fun name => do
        let value ← bind source element
          (binder.elementTarget (target.withRules []) ((target.withRules []).child name))
        pure (name, value)) = .done members) :
        (Value.ofMembers members).elements = members.map Prod.snd := by
      have labels : members.map Prod.fst = names.map id := Outcome.labels_of_mapM_eq_done bound
      have sorted : Table.Sorted members := by
        rw [Table.Sorted, Table.names, labels, List.map_id]
        exact pairwise_of_memberNames listed
      rw [Value.ofMembers, Table.ofList_of_sorted sorted, Value.elements]
    simp only [Outcome.ofExcept_ok, Outcome.done_bind, Outcome.bind_eq_done_iff,
      Outcome.ofExcept_eq_done_iff, finished_eq_ok_iff, rules_withRules, accepts_nil, implies_true,
      and_true, Outcome.mapM_filters each]
    constructor
    · rintro ⟨members, ⟨bound, passed⟩, rfl, whole⟩
      refine ⟨⟨members, bound, rfl⟩, ?_, whole⟩
      rwa [elements bound, List.forall_mem_map]
    · rintro ⟨⟨members, bound, rfl⟩, passed, whole⟩
      rw [elements bound, List.forall_mem_map] at passed
      exact ⟨members, ⟨bound, passed⟩, rfl, whole⟩

/-- **A container is bound with rules as it is bound without them**, when its elements are, but for
the test of the elements and of the whole. -/
theorem bindAt_container_filters {depth : Nat}
    (container : (shape.resolve family).element? = some element)
    (part : FiltersPart binder (binder.bindAt family depth) element target passes) :
    binder.bindAt family (depth + 1) source shape target = .done value
      ↔ binder.bindAt family (depth + 1) source shape (target.withRules []) = .done value
        ∧ (∀ item ∈ value.elements, passes item)
        ∧ (binder.check.checksContainer → binder.Accepts target.rules value) := by
  cases resolved : shape.resolve family with
  | sequence type inner =>
    rw [resolved] at container
    cases container
    rw [bindAt_sequence resolved, bindAt_sequence resolved, bindSequence_filters part]
  | mapping type inner =>
    rw [resolved] at container
    cases container
    rw [bindAt_mapping resolved, bindAt_mapping resolved, bindMapping_filters part]
  | scalar | custom | named | optional | composite =>
    rw [resolved] at container
    cases container

end Binder

end TypedConfig
