import TypedConfig.Binder.Typed
import TypedConfig.Proofs.Binder.Conforms
import TypedConfig.Proofs.Value.Merge

/-!
# Binding into data

What is bound is laid over the written data, and the data are replaced by what the result is read
as. Where any of this fails, they stay as they are.

* `Registry.Tidy`: the objects that converters give are tables.
* `tidy_of_bind`: the objects inside a bound value are tables, by induction on the depth.
* `Prepared`, `FailsInto`: the values that are laid over each other, and the ways to fail.
* `bindInto_eq_done_iff`, `bindInto_eq_failed_iff`: the data afterwards.
* `bindInto_changes_what_is_bound`: together with the laws of what is laid over the data.
-/

namespace TypedConfig

/-- The objects that the converters of a registry give are tables. -/
def Registry.Tidy (registry : Registry) : Prop :=
  ∀ type converter text value, registry.converters.get? type = some converter →
    converter text = .ok value → value.Tidy

theorem Scalar.tidy_of_admits {kind : Scalar} {value : Value} (admitted : kind.Admits value) :
    value.Tidy := by
  cases value with
  | null => exact .null
  | boolean flag => exact .boolean flag
  | number digits => exact .number digits
  | string content => exact .string content
  | array | object => cases kind <;> cases admitted

namespace Binder

variable {binder : Binder} {family : Family} {source : Source} {shape entry : Shape}
  {target : Target} {value : Value} {bind : BindPart}
  {embed : Source → List (Field Shape) → Target → Outcome Value}

/-! ### Bound objects are tables -/

theorem tidy_bindLeaf (tidy : binder.registry.Tidy)
    (bound : binder.bindLeaf source shape target = .ok value) : value.Tidy := by
  rcases cases_of_bindLeaf_eq_ok bound with
    ⟨convert, text, registered, converted⟩ | ⟨-, type, kind, text, -, read⟩
  · exact tidy _ _ _ _ registered converted
  · exact Scalar.tidy_of_admits (Scalar.admits_of_read read)

/-- What binding parts gives is tidy. -/
def TidyInside (bind : BindPart) : Prop :=
  ∀ source shape target value, bind source shape target = .done value → value.Tidy

/-- What binding the fields of a composite gives is tidy. -/
def TidyEmbedded (embed : Source → List (Field Shape) → Target → Outcome Value) : Prop :=
  ∀ source fields target value, embed source fields target = .done value → value.Tidy

theorem tidy_bindSequence (parts : TidyInside bind)
    (bound : binder.bindSequence bind family source entry target = .done value) : value.Tidy := by
  obtain ⟨items, rfl, each⟩ := exists_of_bindSequence_eq_done bound
  refine .array fun item mem => ?_
  obtain ⟨index, listed⟩ := List.mem_iff_getElem?.1 mem
  obtain ⟨view, -, -, here⟩ := each item index listed
  exact parts _ _ _ _ here

theorem tidy_bindMapping (parts : TidyInside bind)
    (bound : binder.bindMapping bind source entry target = .done value) : value.Tidy := by
  obtain ⟨members, rfl, sorted, each⟩ := exists_of_bindMapping_eq_done bound
  refine .object sorted fun member mem => ?_
  exact parts _ _ _ _ (each member.1 member.2 mem).2

theorem tidy_bindOptional (parts : TidyInside bind)
    (bound : bindOptional bind source entry target = .done value) : value.Tidy := by
  unfold bindOptional at bound
  split at bound
  next =>
    split_ifs at bound
    cases bound
    exact .null
  next => exact parts _ _ _ _ bound

theorem tidy_bindField {field : Field Shape} (parts : TidyInside bind)
    (embedded : TidyEmbedded embed)
    (bound : bindField bind embed family source target field = .done value) : value.Tidy := by
  unfold bindField at bound
  cases binding : field.binding with
  | tagged tag =>
    rw [binding] at bound
    dsimp only at bound
    split at bound
    next => exact parts _ _ _ _ bound
    next => cases bound
  | embedded =>
    rw [binding] at bound
    dsimp only at bound
    split at bound
    next => exact embedded _ _ _ _ bound
    next => cases bound
  | nested =>
    rw [binding] at bound
    exact parts _ _ _ _ bound

theorem tidy_bindFields {fields : List (Field Shape)} (parts : TidyInside bind)
    (embedded : TidyEmbedded embed)
    (bound : bindFields bind embed family source fields target = .done value) : value.Tidy := by
  unfold bindFields at bound
  split_ifs at bound
  obtain ⟨members, each, same⟩ := Outcome.exists_of_bind_eq_done bound
  cases same
  refine .object (Table.sorted_ofList members) fun member mem => ?_
  obtain ⟨field, -, step⟩ :=
    Outcome.exists_part_of_mapM_eq_done each _ (Table.mem_of_mem_ofList mem)
  obtain ⟨content, here, same⟩ := Outcome.exists_of_bind_eq_done step
  cases same
  exact tidy_bindField parts embedded here

/-- To every depth, shapes and embedded fields together. -/
theorem tidy_bindAt (tidy : binder.registry.Tidy) (family : Family) (depth : Nat) :
    TidyInside (binder.bindAt family depth)
      ∧ TidyEmbedded (binder.bindCompositeAt family depth) := by
  induction depth with
  | zero =>
    constructor
    · intro source shape target value bound
      cases bound
    · intro source fields target value bound
      cases bound
  | succ depth ih =>
    obtain ⟨parts, embedded⟩ := ih
    constructor
    · intro source shape target value bound
      rw [bindAt] at bound
      split at bound
      next => exact tidy_bindMapping parts bound
      next => exact tidy_bindSequence parts bound
      next => exact tidy_bindOptional parts bound
      next =>
        split_ifs at bound
        · exact tidy_bindLeaf tidy (Outcome.eq_ok_of_ofExcept bound)
        · exact embedded _ _ _ _ bound
      next => exact tidy_bindLeaf tidy (Outcome.eq_ok_of_ofExcept bound)
    · intro source fields target value bound
      rw [bindCompositeAt] at bound
      exact tidy_bindFields parts embedded bound

/-- **The objects inside a bound value are tables.** -/
theorem tidy_of_bind (tidy : binder.registry.Tidy)
    (bound : binder.bind family source shape target = .ok value) : value.Tidy := by
  unfold Binder.bind at bound
  split at bound
  next content reached =>
    cases bound
    exact (tidy_bindAt tidy family _).1 _ _ _ _ reached
  next => cases bound
  next => cases bound

/-- The objects of durations are tables. -/
theorem tidy_standard : Registry.standard.Tidy := by
  intro type converter text value registered converted
  obtain ⟨-, rfl⟩ := Prod.mk.inj (List.mem_singleton.1 (Table.mem_of_get? registered))
  rw [Registry.convertDuration] at converted
  split at converted
  next duration _ =>
    cases converted
    refine .object (Table.sorted_ofList _) fun member mem => ?_
    have listed := Table.mem_of_mem_ofList mem
    simp only [List.mem_cons, List.not_mem_nil, or_false] at listed
    rcases listed with rfl | rfl <;> exact .number _
  next => cases converted

/-! ### Stages -/

section

variable {Data : Type} (binder : Binder) (described : Described Data) (source : Source)
  (tag : Text) (current : Data)

/-- A tag that names a target, the value that is bound there, and the value that the current data
are written as. -/
structure Prepared (target : Target) (bound former : Value) : Prop where
  placed : Target.ofTag? tag (shortTypeName described.typeName) = .ok target
  binds : binder.bind described.family source described.shape target = .ok bound
  writes : described.written? current = some former

/-- The ways in which laying what is bound over current data fails, each with its error. -/
inductive FailsInto : PropertyError → Prop
  | tag {error : PropertyError}
      (misplaced : Target.ofTag? tag (shortTypeName described.typeName) = .error error) :
      FailsInto error
  | binding {target : Target} {error : PropertyError}
      (placed : Target.ofTag? tag (shortTypeName described.typeName) = .ok target)
      (failed : binder.bind described.family source described.shape target = .error error) :
      FailsInto error
  | writing {target : Target} {bound : Value}
      (placed : Target.ofTag? tag (shortTypeName described.typeName) = .ok target)
      (binds : binder.bind described.family source described.shape target = .ok bound)
      (unwritable : described.written? current = none) :
      FailsInto (.conversion target.key target.path described.typeName [] none)
  | reading {target : Target} {bound former : Value}
      (prepared : Prepared binder described source tag current target bound former)
      (unreadable : described.ofValue? (former.merge bound) = none) :
      FailsInto (.conversion target.key target.path described.typeName (former.merge bound).text
        none)

end

variable {Data : Type} {described : Described Data} {tag : Text} {current : Data}

theorem overlaid_of_prepared {bound former : Value}
    (prepared : Prepared binder described source tag current target bound former) :
    binder.overlaid described source tag current
      = read described target (former.merge bound) := by
  unfold overlaid
  simp only [prepared.placed, prepared.binds, prepared.writes]

theorem overlaid_of_failsInto {error : PropertyError}
    (fails : FailsInto binder described source tag current error) :
    binder.overlaid described source tag current = .error error := by
  cases fails with
  | tag misplaced =>
    unfold overlaid
    rw [misplaced]
  | binding placed failed =>
    unfold overlaid
    simp only [placed, failed]
  | writing placed binds unwritable =>
    unfold overlaid
    simp only [placed, binds, unwritable]
  | reading prepared unreadable => rw [overlaid_of_prepared prepared, read, unreadable]

/-- Either there are two values to lay over each other, or an earlier stage fails. -/
theorem prepared_or_failsInto (binder : Binder) (described : Described Data) (source : Source)
    (tag : Text) (current : Data) :
    (∃ target bound former, Prepared binder described source tag current target bound former)
      ∨ ∃ error, FailsInto binder described source tag current error := by
  cases placed : Target.ofTag? tag (shortTypeName described.typeName) with
  | error error => exact .inr ⟨error, .tag placed⟩
  | ok target =>
    cases binds : binder.bind described.family source described.shape target with
    | error error => exact .inr ⟨error, .binding placed binds⟩
    | ok bound =>
      cases writes : described.written? current with
      | none => exact .inr ⟨_, .writing placed binds writes⟩
      | some former => exact .inl ⟨target, bound, former, placed, binds, writes⟩

theorem overlaid_eq_ok_iff {data : Data} :
    binder.overlaid described source tag current = .ok data
      ↔ ∃ target bound former, Prepared binder described source tag current target bound former
        ∧ described.ofValue? (former.merge bound) = some data := by
  constructor
  · intro done
    rcases prepared_or_failsInto binder described source tag current with
      ⟨target, bound, former, prepared⟩ | ⟨error, fails⟩
    · refine ⟨target, bound, former, prepared, ?_⟩
      rw [overlaid_of_prepared prepared, read] at done
      split at done
      next readable =>
        cases done
        exact readable
      next => cases done
    · cases (overlaid_of_failsInto fails).symm.trans done
  · rintro ⟨target, bound, former, prepared, readable⟩
    rw [overlaid_of_prepared prepared, read, readable]

theorem overlaid_eq_error_iff {error : PropertyError} :
    binder.overlaid described source tag current = .error error
      ↔ FailsInto binder described source tag current error := by
  refine ⟨fun failed => ?_, overlaid_of_failsInto⟩
  rcases prepared_or_failsInto binder described source tag current with
    ⟨target, bound, former, prepared⟩ | ⟨other, fails⟩
  · rw [overlaid_of_prepared prepared, read] at failed
    split at failed
    next => cases failed
    next unreadable =>
      cases failed
      exact .reading prepared unreadable
  · cases (overlaid_of_failsInto fails).symm.trans failed
    exact fails

/-- The data are replaced by what the written data are read as with the bound value laid over
them. -/
theorem bindInto_eq_done_iff {data : Data} :
    binder.bindInto described source tag current = (data, none)
      ↔ ∃ target bound former, Prepared binder described source tag current target bound former
        ∧ described.ofValue? (former.merge bound) = some data := by
  rw [← overlaid_eq_ok_iff, bindInto]
  cases binder.overlaid described source tag current <;> simp

/-- On every error the data stay as they are. -/
theorem bindInto_eq_failed_iff {data : Data} {error : PropertyError} :
    binder.bindInto described source tag current = (data, some error)
      ↔ data = current ∧ FailsInto binder described source tag current error := by
  rw [← overlaid_eq_error_iff, bindInto]
  cases binder.overlaid described source tag current <;> simp [eq_comm]

/-- **Binding into data changes only what is bound.** A value laid over another takes the place of
what it has parts for and leaves the rest, and laying it over the result changes nothing. The data
are replaced by what is read from the written data with the bound value laid over them, and on every
error they stay as they are. -/
theorem bindInto_changes_what_is_bound (binder : Binder) (described : Described Data)
    (source : Source) (tag : Text) (current : Data) (converts : binder.registry.Tidy)
    (writes : ∀ former, described.written? current = some former → former.Tidy) :
    (∀ first second : Value, first.Tidy → second.Tidy →
        Value.LaidOver first second (first.merge second))
      ∧ (∀ data, binder.bindInto described source tag current = (data, none)
        ↔ ∃ target bound former,
          Prepared binder described source tag current target bound former
            ∧ Value.LaidOver former bound (former.merge bound)
            ∧ described.ofValue? (former.merge bound) = some data)
      ∧ ∀ data error, binder.bindInto described source tag current = (data, some error)
        ↔ data = current ∧ FailsInto binder described source tag current error := by
  refine ⟨fun first second => Value.laidOver_merge, fun data => ?_,
    fun data error => bindInto_eq_failed_iff⟩
  rw [bindInto_eq_done_iff]
  constructor
  · rintro ⟨target, bound, former, prepared, readable⟩
    have laid := Value.laidOver_merge (writes former prepared.writes)
      (tidy_of_bind converts prepared.binds)
    exact ⟨target, bound, former, prepared, laid, readable⟩
  · rintro ⟨target, bound, former, prepared, -, readable⟩
    exact ⟨target, bound, former, prepared, readable⟩

/-- A server whose port is optional, as a type whose data are values. -/
def relayType : Described Value :=
  Shape.described [] (.composite "Relay" [
    ⟨"host", .nested, .scalar "String" .string, []⟩,
    ⟨"limits", .nested, .mapping "Map" (.scalar "u8" (.unsigned 8)), []⟩,
    ⟨"port", .nested, .optional "Option" (.scalar "u16" (.unsigned 16)), []⟩])

/-- The value of a server. -/
def relayValue (host : Text) (limits : Table Value) (port : Value) : Value :=
  .object [("host", .string host), ("limits", .object limits), ("port", port)]

/-- The properties of a server without a port. -/
def relayStore : Store := .ofTable [("relay.host", "b"), ("relay.limits.users", "5")]

/-- The current value of the server. -/
def formerRelay : Value := relayValue "a" [("conns", .ofInt 9)] (.ofInt 80)

theorem tidy_formerRelay : formerRelay.Tidy := by
  refine .object (by decide) ?_
  simp only [List.forall_mem_cons, List.not_mem_nil, false_implies, implies_true, and_true]
  refine ⟨.string _, .object (by decide) ?_, .number _⟩
  simpa using .number _

/-- The host and one more limit are bound, the port and the other limit stay; and where the host is
missing, all stays. -/
theorem formerRelay_bindInto :
    Binder.standard.registry.Tidy
      ∧ formerRelay.Tidy
      ∧ Binder.standard.bindInto relayType relayStore "$\x7brelay\x7d" formerRelay
        = (relayValue "b" [("conns", .ofInt 9), ("users", .ofInt 5)] (.ofInt 80), none)
      ∧ Binder.standard.bindInto relayType relayStore "$\x7brelay.limits\x7d" formerRelay
        = (formerRelay, some (.notExist "relay.limits.host" "Relay.host")) := by
  have bound : Binder.standard.bind [] relayStore relayType.shape
      (.apply (.new [] "Relay") ⟨"relay", none, none⟩ [])
      = .ok (relayValue "b" [("users", .ofInt 5)] .null) := by with_unfolding_all rfl
  have missing : Binder.standard.bind [] relayStore relayType.shape
      (.apply (.new [] "Relay") ⟨"relay.limits", none, none⟩ [])
      = .error (.notExist "relay.limits.host" "Relay.host") := by with_unfolding_all rfl
  have writes : ∀ former, relayType.written? formerRelay = some former → former.Tidy := by
    intro former written
    cases written
    exact tidy_formerRelay
  refine ⟨tidy_standard, tidy_formerRelay, ?_, ?_⟩
  · obtain ⟨laws, done, -⟩ := bindInto_changes_what_is_bound Binder.standard relayType relayStore
      "$\x7brelay\x7d" formerRelay tidy_standard writes
    have laid := laws formerRelay _ tidy_formerRelay (tidy_of_bind tidy_standard bound)
    exact (done _).2 ⟨_, _, formerRelay, ⟨rfl, bound, rfl⟩, laid, by with_unfolding_all rfl⟩
  · obtain ⟨-, -, failed⟩ := bindInto_changes_what_is_bound Binder.standard relayType relayStore
      "$\x7brelay.limits\x7d" formerRelay tidy_standard writes
    exact (failed _ _).2 ⟨rfl, .binding rfl missing⟩

end Binder

end TypedConfig
