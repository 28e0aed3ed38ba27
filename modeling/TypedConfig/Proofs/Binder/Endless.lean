import TypedConfig.Proofs.Binder.Termination

/-!
# Recursive shapes that do not end

The conditions under which binding ends cannot be weakened. Here the fields are nested and without
rules, so that nothing but a missing property makes them fail where nothing is configured.

* `cases_of_failed_absent`: only shapes that must be configured fail there, and because a property
  does not exist.
* `exhausted_of_absent`: no depth is enough there for a shape whose unfolding does not end.
* `exhausted_of_text`: nor is any for a shape that goes on dividing, at a text that is its own only
  part.
* `settles_iff_acyclic`: binding ends for every store exactly when neither unfolding nor dividing
  comes back to a shape.
* `bindAt_hasty_exhausted`: an optional value of its own type in front of all other fields is never
  bound, even where it is not configured.
-/

namespace TypedConfig.Binder

open Key (Inward WellFormed)

variable {binder : Binder} {family : Family} {source : Source} {shape root : Shape}
  {key path : Text} {rules : List Rule}

/-- The fields of the composites that a shape leads to have no rules. -/
def RuleFree (family : Family) (root : Shape) : Prop :=
  ∀ shape, family.Reaches root shape → ∀ type fields,
    shape.resolve family = .composite type fields → ∀ field ∈ fields, field.rules = []

theorem bindField_plain {bind : BindPart}
    {embed : Source → List (Field Shape) → Target → Outcome Value} {field : Field Shape}
    (nested : field.binding = .nested) (free : field.rules = []) :
    bindField bind embed family source (Target.new key path) field
      = bind source field.shape
        (Target.new (Key.child key field.name) (path ++ '.' :: field.name)) := by
  rw [bindField_nested nested, free]
  rfl

/-! ### Without properties -/

/-- A composite fails with the error of one of its fields. -/
theorem exists_of_bindAt_composite_failed {type : Text} {fields : List (Field Shape)} {depth : Nat}
    {error : PropertyError} (resolved : shape.resolve family = .composite type fields)
    (builtin : binder.registry.converters.get? type = none)
    (failed : binder.bindAt family depth source shape (Target.new key path) = .failed error) :
    ∃ below < depth, ∃ field ∈ fields,
      bindField (binder.bindAt family below) (binder.bindCompositeAt family below) family source
        (Target.new key path) field = .failed error := by
  rcases depth with _ | _ | below
  · cases failed
  · rw [bindAt, resolved] at failed
    dsimp only at failed
    rw [builtin] at failed
    cases failed
  · rw [bindAt_composite resolved builtin, bindFields, if_neg (by exact Bool.false_ne_true)]
      at failed
    rcases Outcome.cases_of_bind_eq_failed failed with listed | ⟨_, _, never⟩
    · obtain ⟨field, mem, here⟩ := Outcome.exists_of_mapM_eq_failed listed
      rcases Outcome.cases_of_bind_eq_failed here with bound | ⟨_, _, never⟩
      · exact ⟨below, by omega, field, mem, bound⟩
      · cases never
    · cases never

/-- A field that uses up the depth uses it up for the composite, unless a field in front of it
fails. -/
theorem bindAt_composite_exhausted {type : Text} {front back : List (Field Shape)}
    {field : Field Shape} {depth : Nat}
    (resolved : shape.resolve family = .composite type (front ++ field :: back))
    (builtin : binder.registry.converters.get? type = none)
    (here : bindField (binder.bindAt family depth) (binder.bindCompositeAt family depth) family
      source (Target.new key path) field = .exhausted)
    (earlier : ∀ other ∈ front, ∀ error,
      bindField (binder.bindAt family depth) (binder.bindCompositeAt family depth) family source
        (Target.new key path) other ≠ .failed error) :
    binder.bindAt family (depth + 2) source shape (Target.new key path) = .exhausted := by
  rw [bindAt_composite resolved builtin, bindFields, if_neg (by exact Bool.false_ne_true)]
  suffices used : (front ++ field :: back).mapM _ = Outcome.exhausted by
    rw [used]
    rfl
  refine Outcome.mapM_eq_exhausted ?_ fun other mem error failed => ?_
  · rw [here]
    rfl
  · rcases Outcome.cases_of_bind_eq_failed failed with bound | ⟨_, _, never⟩
    · exact earlier other mem error bound
    · cases never

/-- **What fails where nothing is configured** is a shape that must be configured, and it fails
because a property does not exist. -/
theorem cases_of_failed_absent (nested : NestedFields family root)
    (ruleFree : RuleFree family root) (depth : Nat) {error : PropertyError} (inside : key ≠ [])
    (absent : ¬ source.has key) (reached : family.Reaches root shape)
    (failed : binder.bindAt family depth source shape (Target.new key path) = .failed error) :
    error.isNotExist ∧ binder.Demands family shape := by
  induction depth using Nat.strongRecOn generalizing shape key path error with
  | _ depth ih =>
    cases depth with
    | zero => cases failed
    | succ depth =>
      by_cases reads : binder.ReadsKey family shape
      · have missing : binder.bindAt family (depth + 1) source shape (Target.new key path)
            = .failed (.notExist key path) := bindAt_absent_of_readsKey reads inside absent depth
        cases failed.symm.trans missing
        exact ⟨rfl, .own reads⟩
      unfold ReadsKey at reads
      cases resolved : shape.resolve family with
      | scalar | custom | named | sequence =>
        rw [resolved] at reads
        exact absurd trivial reads
      | mapping type member =>
        rw [bindAt_mapping resolved, bindMapping] at failed
        have none : memberNames source (Target.new key path) = .ok [] :=
          memberNames_absent inside absent
        rw [none, Outcome.ofExcept_ok, Outcome.done_bind, List.mapM_nil] at failed
        simp only [Outcome.pure_eq, Outcome.done_bind, finished_new] at failed
        cases failed
      | optional type inner =>
        rw [bindAt_optional resolved, bindOptional] at failed
        have further := reached.optional resolved
        split at failed
        next other bound =>
          have missing := (ih depth (Nat.lt_succ_self _) inside absent further bound).1
          have here : source.has key = false := Bool.eq_false_iff.2 absent
          rw [missing, Target.new, here] at failed
          cases failed
        next other =>
          exact absurd failed (other error)
      | composite type fields =>
        rw [resolved] at reads
        have builtin := Option.not_isSome_iff_eq_none.1 reads
        obtain ⟨below, less, field, mem, bound⟩ :=
          exists_of_bindAt_composite_failed resolved builtin failed
        have own := nested shape reached type fields resolved field mem
        have free := ruleFree shape reached type fields resolved field mem
        have further := reached.field resolved mem
        rw [bindField_plain own free] at bound
        obtain ⟨missing, demands⟩ := ih below less
          (Key.ne_nil_of_isBelow (Key.isBelow_child inside field.name))
          (Source.not_has_child inside absent field.name) further bound
        exact ⟨missing, .field resolved builtin mem own demands⟩

/-- Unfolding that does not end uses up every depth: some step goes on with a shape whose unfolding
does not end either, and nothing in front of it fails. -/
theorem exhausted_of_absent (nested : NestedFields family root) (ruleFree : RuleFree family root)
    (depth : Nat) (inside : key ≠ []) (absent : ¬ source.has key)
    (reached : family.Reaches root shape)
    (endless : ¬ Acc (fun next shape => binder.Unfolds family shape next) shape) :
    binder.bindAt family depth source shape (Target.new key path) = .exhausted := by
  induction depth using Nat.strongRecOn generalizing shape key path with
  | _ depth ih =>
    obtain ⟨next, step, further⟩ :
        ∃ next, binder.Unfolds family shape next
          ∧ ¬ Acc (fun next shape => binder.Unfolds family shape next) next := by
      by_contra none
      exact endless (.intro _ fun next step => by_contra fun more => none ⟨next, step, more⟩)
    have later := reached.step step.mem_inner
    cases step with
    | optional resolved =>
      cases depth with
      | zero => rfl
      | succ depth =>
        rw [bindAt_optional resolved, bindOptional,
          ih depth (Nat.lt_succ_self depth) inside absent later further]
    | @field _ front back field resolved builtin free =>
      rcases depth with _ | _ | depth
      · rfl
      · rw [bindAt, resolved]
        dsimp only
        rw [builtin]
        rfl
      · have own := nested shape reached _ _ resolved
        have ruled := ruleFree shape reached _ _ resolved
        have below (name : Text) := Key.ne_nil_of_isBelow (Key.isBelow_child inside name)
        refine bindAt_composite_exhausted resolved builtin ?_ fun earlier mem error failed => ?_
        · have mem : field ∈ front ++ field :: back := by simp
          rw [bindField_plain (own field mem) (ruled field mem)]
          exact ih depth (by omega) (below field.name)
            (Source.not_has_child inside absent field.name) later further
        · have among : earlier ∈ front ++ field :: back := List.mem_append_left _ mem
          rw [bindField_plain (own earlier among) (ruled earlier among)] at failed
          have demands := (cases_of_failed_absent nested ruleFree depth (below earlier.name)
            (Source.not_has_child inside absent earlier.name)
            (reached.field resolved among) failed).2
          exact free earlier mem demands

/-! ### With one text -/

/-- A sequence divides a text that is its own only part into one element with the same text. -/
theorem bindSequence_eq_exhausted {bind : BindPart} {element : Shape} {text : Text}
    (wellFormed : WellFormed key) (laid : Laid source .empty key)
    (found : source.get? key = some text) (nonempty : text ≠ [])
    (single : (text.splitOn ',').map Text.trim = [text])
    (exhausted : ∀ view, Laid view .empty (Key.element key 0) →
      view.get? (Key.element key 0) = some text → ∀ place checked,
        bind view element ⟨Key.element key 0, place, Tag.empty, checked⟩ = .exhausted) :
    binder.bindSequence bind family source element ⟨key, path, Tag.empty, rules⟩ = .exhausted := by
  obtain ⟨top, written, stored⟩ := exists_store_partEntries wellFormed [text]
  have here : top.get? (Key.element key 0) = some text := (stored _ _).2 ⟨0, rfl, rfl⟩
  have none : ¬ source.has (Key.element key 0) := by
    rw [Key.element_eq]
    intro present
    have bounded :=
      laid.length_le_weight (Key.inward_cons.2 (.inr rfl)) (List.cons_ne_nil _ _) present
    have nothing : Store.empty.weight = 0 := rfl
    rw [List.length_append, List.length_cons, nothing] at bounded
    omega
  have inside : key ≠ [] := Key.ne_nil_of_wellFormed wellFormed
  have present : source.has key := by
    refine (Source.has_iff inside).2 ⟨[], Key.inward_nil, ?_⟩
    rw [List.append_nil, found]
    rfl
  have viewed : binder.elementSource source (element.resolve family) ⟨key, path, Tag.empty, rules⟩
      = .ok (some (.overlay top source)) := by
    unfold elementSource sequenceText sequenceParts
    dsimp only [Tag.empty]
    rw [if_neg none, if_pos present, found, Option.getD_some]
    dsimp only
    rw [if_neg nonempty, single, written]
  have first : Source.get? (.overlay top source) (Key.element key 0) = some text := by
    rw [Source.get?, here]
    rfl
  obtain ⟨count, listed, -, missing⟩ := exists_indices_eq (.overlay top source) key
  unfold bindSequence
  rw [viewed, Outcome.ofExcept_ok, Outcome.done_bind]
  dsimp only
  rw [listed]
  cases count with
  | zero =>
    refine absurd ((Source.has_iff (Key.ne_nil_of_isBelow (Key.isBelow_element key 0))).2
      ⟨[], Key.inward_nil, ?_⟩) missing
    rw [List.append_nil, first]
    rfl
  | succ count =>
    have used : bind (.overlay top source) element
        (binder.elementTarget ⟨key, path, Tag.empty, rules⟩
          (Target.element ⟨key, path, Tag.empty, rules⟩ 0)) = .exhausted := by
      obtain ⟨checked, same⟩ := binder.exists_elementTarget_eq ⟨key, path, Tag.empty, rules⟩
        (Key.element key 0) (Key.element path 0)
      exact same ▸ exhausted _ (laid.overlay written 0) first (Key.element path 0) checked
    rw [List.range_succ_eq_map, List.mapM_cons, used]
    rfl

/-- **Dividing that does not end uses up every depth**, at a text that is its own only part. -/
theorem exhausted_of_text (depth : Nat) {text : Text} (wellFormed : WellFormed key)
    (laid : Laid source .empty key) (found : source.get? key = some text) (nonempty : text ≠ [])
    (single : (text.splitOn ',').map Text.trim = [text])
    (endless : ¬ Acc (fun next shape => Divides family shape next) shape) :
    binder.bindAt family depth source shape ⟨key, path, Tag.empty, rules⟩ = .exhausted := by
  induction depth generalizing source shape key path rules with
  | zero => rfl
  | succ depth ih =>
    obtain ⟨next, step, further⟩ :
        ∃ next, Divides family shape next
          ∧ ¬ Acc (fun next shape => Divides family shape next) next := by
      by_contra none
      exact endless (.intro _ fun next step => by_contra fun more => none ⟨next, step, more⟩)
    cases step with
    | optional resolved =>
      rw [bindAt_optional resolved, bindOptional, ih wellFormed laid found further]
    | sequence resolved =>
      rw [bindAt_sequence resolved]
      exact bindSequence_eq_exhausted wellFormed laid found nonempty single
        fun view below here place checked => ih (wellFormed.element 0) below here further

/-! ### Cycles -/

theorem not_acc_of_cycle {step : Shape → Shape → Prop}
    (cycle : Relation.TransGen step shape shape) :
    ¬ Acc (fun next shape => step shape next) shape := by
  intro ends
  induction ends with
  | intro shape _ ih =>
    obtain ⟨next, taken, back⟩ := Relation.TransGen.head'_iff.1 cycle
    exact ih next taken (.tail' back taken)

theorem not_settles_of_exhausted {target : Target}
    (used : ∀ depth, binder.bindAt family depth source shape target = .exhausted)
    (result : Except PropertyError Value) :
    ¬ binder.Settles family source shape target result := by
  rintro ⟨depth, settled⟩
  have reached := (used depth).symm.trans (settled depth (Nat.le_refl depth))
  cases result <;> cases reached

/-- A store with one property, whose value is its own only part. -/
def loneStore : Store := .ofTable [("x", "x")]

theorem laid_loneStore : Laid loneStore .empty "x" where
  plain root := by cases root
  below rest _ below := by
    show loneStore.get? _ = none
    rw [Option.eq_none_iff_forall_ne_some]
    intro text found
    rw [loneStore, Store.get?_ofTable (by decide), List.mem_singleton] at found
    exact below (List.append_right_eq_self.1 (congrArg Prod.fst found))

/-- **The shapes that are bound to an end**: when the fields are nested and have no rules, binding
all that a shape leads to has results for every store exactly when neither unfolding nor dividing
comes back to a shape. -/
theorem settles_iff_acyclic (binder : Binder) (nested : NestedFields family root)
    (ruleFree : RuleFree family root) :
    (∀ shape, family.Reaches root shape → ∀ (store : Store) (target : Target), target.key ≠ [] →
        ∃ result, binder.Settles family store shape target result)
      ↔ ∀ shape, family.Reaches root shape →
        ¬ Relation.TransGen (binder.Unfolds family) shape shape
          ∧ ¬ Relation.TransGen (Divides family) shape shape := by
  constructor
  · intro settles shape reached
    constructor
    · intro cycle
      obtain ⟨result, settled⟩ := settles shape reached .empty (Target.new "x" []) (by decide)
      refine not_settles_of_exhausted (fun depth => ?_) result settled
      exact exhausted_of_absent nested ruleFree depth (by decide) (by decide) reached
        (not_acc_of_cycle cycle)
    · intro cycle
      obtain ⟨result, settled⟩ := settles shape reached loneStore (Target.new "x" []) (by decide)
      refine not_settles_of_exhausted (fun depth => ?_) result settled
      have wellFormed : WellFormed "x" := Key.exists_containers?_iff.1 ⟨_, rfl⟩
      exact exhausted_of_text depth wellFormed laid_loneStore rfl (by decide) (by decide)
        (not_acc_of_cycle cycle)
  · intro acyclic shape reached store target inside
    exact ⟨_, settles_of_acyclic binder family shape
      (fun next further => nested next (reached.trans further))
      (fun next further => (acyclic next (reached.trans further)).1)
      (fun next further => (acyclic next (reached.trans further)).2)
      store target fun nil => absurd nil inside⟩

/-! ### Optional values in front -/

/-- A composite has a field of a shape. -/
def HasField (family : Family) (shape part : Shape) : Prop :=
  ∃ type fields, shape.resolve family = .composite type fields
    ∧ ∃ field ∈ fields, field.shape = part

/-- The fields of a node, with the node after it in front of its name. -/
def hastyFields : List (Field Shape) :=
  [⟨"next", .nested, .optional "Option" (.named "Node"), []⟩,
    ⟨"name", .nested, .scalar "String" .string, []⟩]

/-- The family of nodes. -/
def hastyFamily : Family := [("Node", .composite "Node" hastyFields)]

/-- The name of a node that no other comes after. -/
def hastyStore : Store := .ofTable [("a.name", "x")]

theorem cases_of_reaches_hasty {shape : Shape}
    (reached : hastyFamily.Reaches (.named "Node") shape) :
    shape = .named "Node" ∨ shape = .optional "Option" (.named "Node")
      ∨ shape = .scalar "String" .string := by
  induction reached with
  | root => exact .inl rfl
  | step _ inside ih =>
    rcases ih with rfl | rfl | rfl
    · rcases inside with _ | ⟨_, _ | ⟨_, inside⟩⟩
      · exact .inr (.inl rfl)
      · exact .inr (.inr rfl)
      · cases inside
    · exact .inl (List.mem_singleton.1 inside)
    · cases inside

theorem cycle_hasty : Relation.TransGen (Binder.standard.Unfolds hastyFamily)
    (.optional "Option" (.named "Node")) (.optional "Option" (.named "Node")) := by
  have content : Binder.standard.Unfolds hastyFamily (.optional "Option" (.named "Node"))
      (.named "Node") := .optional rfl
  have resolved : Shape.resolve hastyFamily (.named "Node") = .composite "Node" hastyFields := rfl
  exact .tail (.single content) (.first resolved rfl)

theorem fields_of_reaches_hasty {shape : Shape}
    (reached : hastyFamily.Reaches (.named "Node") shape) {type : Text}
    {fields : List (Field Shape)} (resolved : shape.resolve hastyFamily = .composite type fields) :
    shape = .named "Node" ∧ fields = hastyFields := by
  rcases cases_of_reaches_hasty reached with rfl | rfl | rfl
  · injection resolved with _ same
    exact ⟨rfl, same.symm⟩
  · cases resolved
  · cases resolved

/-- No node is a field of a node. -/
theorem not_hasField_hasty {shape next part : Shape}
    (reached : hastyFamily.Reaches (.named "Node") shape) (has : HasField hastyFamily shape next) :
    ¬ HasField hastyFamily next part := by
  obtain ⟨type, fields, resolved, field, mem, rfl⟩ := has
  rintro ⟨type', fields', resolved', -⟩
  obtain ⟨-, rfl⟩ := fields_of_reaches_hasty reached resolved
  have further := reached.field resolved mem
  obtain ⟨same, -⟩ := fields_of_reaches_hasty further resolved'
  rcases mem with _ | ⟨_, _ | ⟨_, mem⟩⟩
  · cases same
  · cases same
  · cases mem

theorem bindAt_hasty_exhausted :
    NestedFields hastyFamily (.named "Node")
      ∧ (∀ shape, hastyFamily.Reaches (.named "Node") shape →
        ¬ Relation.TransGen (HasField hastyFamily) shape shape)
      ∧ Store.empty.set "a.name" "x" = .ok hastyStore
      ∧ (∀ depth, Binder.standard.bindAt hastyFamily depth hastyStore (.named "Node")
        (Target.new "a" "p") = .exhausted)
      ∧ ¬ ∃ result, Binder.standard.Settles hastyFamily hastyStore (.named "Node")
        (Target.new "a" "p") result := by
  have nested : NestedFields hastyFamily (.named "Node") := by
    intro shape reached type fields resolved
    rw [(fields_of_reaches_hasty reached resolved).2]
    decide
  have ruleFree : RuleFree hastyFamily (.named "Node") := by
    intro shape reached type fields resolved
    rw [(fields_of_reaches_hasty reached resolved).2]
    decide
  have guarded : ∀ shape, hastyFamily.Reaches (.named "Node") shape →
        ¬ Relation.TransGen (HasField hastyFamily) shape shape := by
    intro shape reached cycle
    obtain ⟨next, taken, back⟩ := Relation.TransGen.head'_iff.1 cycle
    obtain ⟨further, again, -⟩ := Relation.TransGen.head'_iff.1 (.tail' back taken)
    exact not_hasField_hasty reached taken again
  have used (depth : Nat) : Binder.standard.bindAt hastyFamily depth hastyStore (.named "Node")
      (Target.new "a" "p") = .exhausted := by
    rcases depth with _ | _ | depth
    · rfl
    · rfl
    · have reached : hastyFamily.Reaches (.named "Node") (.optional "Option" (.named "Node")) :=
        .step .root (.head _)
      have next : Binder.standard.bindAt hastyFamily depth hastyStore
          (.optional "Option" (.named "Node")) (Target.new "a.next" "p.next") = .exhausted :=
        exhausted_of_absent nested ruleFree depth (by decide) (by decide) reached
          (not_acc_of_cycle cycle_hasty)
      have resolved : Shape.resolve hastyFamily (.named "Node")
          = .composite "Node" ([] ++ hastyFields) := rfl
      exact bindAt_composite_exhausted resolved rfl next (by simp)
  refine ⟨nested, guarded, rfl, used, ?_⟩
  rintro ⟨result, settled⟩
  exact not_settles_of_exhausted used result settled

end TypedConfig.Binder
