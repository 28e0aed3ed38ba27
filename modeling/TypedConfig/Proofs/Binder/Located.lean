import Mathlib
import TypedConfig.Proofs.Binder.Depth
import TypedConfig.Proofs.Binder.Honest
import TypedConfig.Proofs.Value.Part

/-!
# Where bindings fail

A binding that fails does so at one place inside the bound type, and its error stands at the path
that leads there.

* `Enters`: the steps by which binding goes on from a place to a place inside it.
* `FailsHere`: the errors that arise at a place itself.
* `FailsAt`: an error that arises at the end of steps.
* `exists_failsAt`: every failed binding fails at some place, by induction on the depth, with one
  lemma for each kind of shape.
* `Enters.path`, `Enters.has`, `FailsHere.honest`: what one step does to paths and to the keys that
  are there, and what the errors of a place say.
* `failed_is_located`: the error of a binding is no conflict, stands at the path of the place where
  it arose, and calls nothing missing that the source has.
-/

namespace TypedConfig

namespace Binder

/-! ### Places -/

/-- What is bound at a place: a shape, or the fields of a composite. -/
inductive Subject where
  | whole (shape : Shape)
  | fields (fields : List (Field Shape))

/-- A subject that is bound at a target, from a source. -/
structure Place where
  source : Source
  subject : Subject
  target : Target

/-- The path of a field of a composite that is bound at a target. -/
def fieldPath (target : Target) (field : Field Shape) : Text := target.path ++ '.' :: field.name

/-- The shapes whose values hold the values of elements or members. -/
def IsContainer : Shape → Prop
  | .sequence _ _ | .mapping _ _ => True
  | _ => False

section

variable (binder : Binder) (family : Family)

/-- Binding goes on from a place, by steps in the bound type, to a place inside. -/
inductive Enters : Place → List Step → Place → Prop
  | element {source view : Source} {shape element : Shape} {type : Text} {target : Target}
      {index : Nat} (resolved : shape.resolve family = .sequence type element)
      (found : binder.elementSource source (element.resolve family) target = .ok (some view))
      (present : view.has (Key.element target.key index)) :
      Enters ⟨source, .whole shape, target⟩ [.index index]
        ⟨view, .whole element, binder.elementTarget target (target.element index)⟩
  | member {source : Source} {shape member : Shape} {type name : Text} {target : Target}
      {names : List Text} (resolved : shape.resolve family = .mapping type member)
      (listed : memberNames source target = .ok names) (mem : name ∈ names) :
      Enters ⟨source, .whole shape, target⟩ [.name name]
        ⟨source, .whole member, binder.elementTarget target (target.child name)⟩
  | inner {source : Source} {shape inner : Shape} {type : Text} {target : Target}
      (resolved : shape.resolve family = .optional type inner) :
      Enters ⟨source, .whole shape, target⟩ [] ⟨source, .whole inner, target⟩
  | composite {source : Source} {shape : Shape} {type : Text} {fields : List (Field Shape)}
      {target : Target} (resolved : shape.resolve family = .composite type fields)
      (builtin : binder.registry.converters.get? type = none) :
      Enters ⟨source, .whole shape, target⟩ [] ⟨source, .fields fields, target⟩
  | tagged {source : Source} {fields : List (Field Shape)} {field : Field Shape} {tag : Text}
      {target child : Target} (plain : ¬ target.tag.fallback.any (· != [])) (mem : field ∈ fields)
      (tagged : field.binding = .tagged tag)
      (read : (Target.new target.key (fieldPath target field)).applyTag? tag field.rules
        = .ok child) :
      Enters ⟨source, .fields fields, target⟩ [.name field.name] ⟨source, .whole field.shape, child⟩
  | embedded {source : Source} {fields inner : List (Field Shape)} {field : Field Shape}
      {type : Text} {target : Target} (plain : ¬ target.tag.fallback.any (· != []))
      (mem : field ∈ fields) (embedded : field.binding = .embedded)
      (resolved : field.shape.resolve family = .composite type inner) :
      Enters ⟨source, .fields fields, target⟩ [.name field.name]
        ⟨source, .fields inner, .new target.key (fieldPath target field)⟩
  | nested {source : Source} {fields : List (Field Shape)} {field : Field Shape} {target : Target}
      (plain : ¬ target.tag.fallback.any (· != [])) (mem : field ∈ fields)
      (nested : field.binding = .nested) :
      Enters ⟨source, .fields fields, target⟩ [.name field.name]
        ⟨source, .whole field.shape, (target.child field.name).withRules field.rules⟩

/-- Binding at a place fails with an error of its own, or with that of a field which has no place
because its tag is malformed or because it cannot be embedded. -/
inductive FailsHere : Place → List Step → PropertyError → Prop
  | leaf {source : Source} {shape : Shape} {target : Target} {error : PropertyError}
      (reads : binder.ReadsText (shape.resolve family))
      (failed : binder.bindLeaf source (shape.resolve family) target = .error error) :
      FailsHere ⟨source, .whole shape, target⟩ [] error
  | elements {source : Source} {shape element : Shape} {type : Text} {target : Target}
      {error : PropertyError} (resolved : shape.resolve family = .sequence type element)
      (failed : binder.elementSource source (element.resolve family) target = .error error) :
      FailsHere ⟨source, .whole shape, target⟩ [] error
  | members {source : Source} {shape member : Shape} {type : Text} {target : Target}
      {error : PropertyError} (resolved : shape.resolve family = .mapping type member)
      (failed : memberNames source target = .error error) :
      FailsHere ⟨source, .whole shape, target⟩ [] error
  | rules {source : Source} {shape : Shape} {target : Target} {value : Value}
      {error : PropertyError} (container : IsContainer (shape.resolve family))
      (failed : binder.finished target value = .error error) :
      FailsHere ⟨source, .whole shape, target⟩ [] error
  | fallback {source : Source} {fields : List (Field Shape)} {target : Target}
      (given : target.tag.fallback.any (· != [])) :
      FailsHere ⟨source, .fields fields, target⟩ []
        (.unsupported target.key target.path .compositeFallback)
  | tag {source : Source} {fields : List (Field Shape)} {field : Field Shape} {tag : Text}
      {target : Target} {error : PropertyError} (plain : ¬ target.tag.fallback.any (· != []))
      (mem : field ∈ fields) (tagged : field.binding = .tagged tag)
      (unread : (Target.new target.key (fieldPath target field)).applyTag? tag field.rules
        = .error error) :
      FailsHere ⟨source, .fields fields, target⟩ [.name field.name]
        (error.atPath (fieldPath target field))
  | embedded {source : Source} {fields : List (Field Shape)} {field : Field Shape}
      {target : Target} (plain : ¬ target.tag.fallback.any (· != [])) (mem : field ∈ fields)
      (embedded : field.binding = .embedded)
      (other : ∀ type inner, field.shape.resolve family ≠ .composite type inner) :
      FailsHere ⟨source, .fields fields, target⟩ [.name field.name]
        (.unsupported target.key (fieldPath target field)
          (.embedded field.name (field.shape.resolve family).typeName))

/-- Binding at a place fails with an error that arises at the end of steps. -/
inductive FailsAt (error : PropertyError) : Place → List Step → Prop
  | here {place : Place} {steps : List Step} (fails : FailsHere binder family place steps error) :
      FailsAt error place steps
  | inside {place inner : Place} {steps more : List Step}
      (enters : Enters binder family place steps inner) (fails : FailsAt error inner more) :
      FailsAt error place (steps ++ more)

end

variable {binder : Binder} {family : Family} {source : Source} {shape : Shape} {target : Target}
  {error : PropertyError} {place inner : Place} {steps : List Step}

/-! ### What an error says -/

theorem path_elementTarget (parent child : Target) :
    (binder.elementTarget parent child).path = child.path := by
  unfold elementTarget
  split <;> rfl

/-- The path of a place inside follows the steps to it. -/
theorem Enters.path (enters : Enters binder family place steps inner) :
    inner.target.path = place.target.path ++ Step.pathText steps := by
  cases enters with
  | element =>
    rw [path_elementTarget, Step.pathText_index]
    rfl
  | member =>
    rw [path_elementTarget, Step.pathText_name]
    rfl
  | inner | composite => exact (Step.pathText_nil _).symm
  | tagged _ _ _ read =>
    rw [Placeholder.path_of_applyTag? read, Step.pathText_name]
    rfl
  | embedded | nested =>
    rw [Step.pathText_name]
    rfl

/-- A place inside sees every key that is there outside. -/
theorem Enters.has (enters : Enters binder family place steps inner) {key : Text}
    (present : place.source.has key) : inner.source.has key := by
  cases enters with
  | element _ found => exact has_of_elementSource found present
  | member | inner | composite | tagged | embedded | nested => exact present

/-- An error that arises at a place stands at its path, or at that of the field. -/
theorem FailsHere.honest (fails : FailsHere binder family place steps error) :
    error.Honest place.source (place.target.path ++ Step.pathText steps) := by
  cases fails with
  | leaf _ failed =>
    rw [Step.pathText_nil]
    exact honest_of_bindLeaf failed
  | elements _ failed =>
    rw [Step.pathText_nil]
    exact honest_of_elementSource failed
  | members _ failed =>
    rw [Step.pathText_nil]
    exact honest_of_memberNames failed
  | rules _ failed =>
    rw [Step.pathText_nil]
    exact honest_of_finished failed
  | fallback =>
    rw [Step.pathText_nil]
    exact PropertyError.IsPlain.honest trivial
  | tag _ _ _ unread =>
    rw [Step.pathText_name]
    exact (Placeholder.honest_of_applyTag? unread).atPath _ (.inl rfl)
  | embedded =>
    rw [Step.pathText_name]
    exact PropertyError.IsPlain.honest trivial

/-- **An error stands at the path of the place where it arose** and tells the truth about the source
from which the whole is bound. -/
theorem FailsAt.honest (fails : FailsAt binder family error place steps) :
    error.Honest place.source (place.target.path ++ Step.pathText steps) := by
  induction fails with
  | here fails => exact fails.honest
  | inside enters _ ih =>
    rw [enters.path, List.append_assoc, ← Step.pathText_append] at ih
    -- The place inside may see the parts of a text as well, but never less than the place outside.
    exact ih.of_view fun key => enters.has

/-! ### Every failure has a place -/

/-- Where an outcome is an error, there is a place inside at which the error arises. -/
def Explained (binder : Binder) (family : Family) (place : Place) (outcome : Outcome Value) :
    Prop :=
  ∀ error, outcome = .failed error → ∃ steps, FailsAt binder family error place steps

theorem explained_ofExcept {result : Except PropertyError Value}
    (fails : ∀ error, result = .error error → FailsHere binder family place [] error) :
    Explained binder family place (.ofExcept result) := by
  intro error failed
  exact ⟨[], .here (fails error (Outcome.eq_error_of_ofExcept failed))⟩

theorem Explained.of_enters {outcome : Outcome Value}
    (enters : Enters binder family place steps inner)
    (explained : Explained binder family inner outcome) :
    Explained binder family place outcome := by
  intro error failed
  obtain ⟨more, fails⟩ := explained error failed
  exact ⟨steps ++ more, .inside enters fails⟩

/-- The errors of binding parts arise at places inside them. -/
def ExplainsInside (binder : Binder) (family : Family) (bind : BindPart) : Prop :=
  ∀ source shape target,
    Explained binder family ⟨source, .whole shape, target⟩ (bind source shape target)

variable {bind : BindPart} {embed : Source → List (Field Shape) → Target → Outcome Value}

theorem explained_bindSequence {type : Text} {element : Shape}
    (parts : ExplainsInside binder family bind)
    (resolved : shape.resolve family = .sequence type element) :
    Explained binder family ⟨source, .whole shape, target⟩
      (binder.bindSequence bind family source element target) := by
  intro error failed
  have container : IsContainer (shape.resolve family) := by
    rw [resolved]
    trivial
  unfold bindSequence at failed
  rcases Outcome.cases_of_bind_eq_failed failed with unfound | ⟨view, found, later⟩
  · exact ⟨[], .here (.elements resolved (Outcome.eq_error_of_ofExcept unfound))⟩
  cases view with
  | none => exact ⟨[], .here (.rules container (Outcome.eq_error_of_ofExcept later))⟩
  | some view =>
    rcases Outcome.cases_of_bind_eq_failed later with part | ⟨items, -, unfinished⟩
    · obtain ⟨index, mem, here⟩ := Outcome.exists_of_mapM_eq_failed part
      have present := List.mem_takeWhile_imp mem
      have enters := Enters.element resolved (Outcome.eq_ok_of_ofExcept found) present
      exact (parts _ _ _).of_enters enters error here
    · exact ⟨[], .here (.rules container (Outcome.eq_error_of_ofExcept unfinished))⟩

theorem explained_bindMapping {type : Text} {member : Shape}
    (parts : ExplainsInside binder family bind)
    (resolved : shape.resolve family = .mapping type member) :
    Explained binder family ⟨source, .whole shape, target⟩
      (binder.bindMapping bind source member target) := by
  intro error failed
  have container : IsContainer (shape.resolve family) := by
    rw [resolved]
    trivial
  unfold bindMapping at failed
  rcases Outcome.cases_of_bind_eq_failed failed with unlisted | ⟨names, listed, later⟩
  · exact ⟨[], .here (.members resolved (Outcome.eq_error_of_ofExcept unlisted))⟩
  rcases Outcome.cases_of_bind_eq_failed later with part | ⟨members, -, unfinished⟩
  · obtain ⟨name, mem, step⟩ := Outcome.exists_of_mapM_eq_failed part
    rcases Outcome.cases_of_bind_eq_failed step with here | ⟨value, -, never⟩
    · exact (parts _ _ _).of_enters (.member resolved (Outcome.eq_ok_of_ofExcept listed) mem) error
        here
    · cases never
  · exact ⟨[], .here (.rules container (Outcome.eq_error_of_ofExcept unfinished))⟩

theorem explained_bindOptional {type : Text} {inner : Shape}
    (parts : ExplainsInside binder family bind)
    (resolved : shape.resolve family = .optional type inner) :
    Explained binder family ⟨source, .whole shape, target⟩
      (bindOptional bind source inner target) := by
  intro error failed
  unfold bindOptional at failed
  refine (parts source inner target).of_enters (.inner resolved) error ?_
  cases bound : bind source inner target with
  | done value =>
    rw [bound] at failed
    cases failed
  | exhausted =>
    rw [bound] at failed
    cases failed
  | failed other =>
    rw [bound] at failed
    dsimp only at failed
    split at failed
    next => cases failed
    next => exact failed

theorem explained_bindField {fields : List (Field Shape)} {field : Field Shape}
    (parts : ExplainsInside binder family bind)
    (embedded : ∀ source fields target,
      Explained binder family ⟨source, .fields fields, target⟩ (embed source fields target))
    (plain : ¬ target.tag.fallback.any (· != [])) (mem : field ∈ fields) :
    Explained binder family ⟨source, .fields fields, target⟩
      (bindField bind embed family source target field) := by
  intro error failed
  unfold bindField at failed
  cases binding : field.binding with
  | tagged tag =>
    rw [binding] at failed
    dsimp only at failed
    split at failed
    next child read => exact (parts _ _ _).of_enters (.tagged plain mem binding read) error failed
    next fault unread =>
      cases failed
      exact ⟨_, .here (.tag plain mem binding unread)⟩
  | embedded =>
    rw [binding] at failed
    dsimp only at failed
    split at failed
    next type inner resolved =>
      exact (embedded _ _ _).of_enters (.embedded plain mem binding resolved) error failed
    next other =>
      cases failed
      exact ⟨_, .here (.embedded plain mem binding other)⟩
  | nested =>
    rw [binding] at failed
    exact (parts _ _ _).of_enters (.nested plain mem binding) error failed

theorem explained_bindFields {fields : List (Field Shape)}
    (parts : ExplainsInside binder family bind)
    (embedded : ∀ source fields target,
      Explained binder family ⟨source, .fields fields, target⟩ (embed source fields target)) :
    Explained binder family ⟨source, .fields fields, target⟩
      (bindFields bind embed family source fields target) := by
  intro error failed
  unfold bindFields at failed
  split at failed
  next given =>
    cases failed
    exact ⟨[], .here (.fallback given)⟩
  next plain =>
    rcases Outcome.cases_of_bind_eq_failed failed with part | ⟨members, -, never⟩
    · obtain ⟨field, mem, step⟩ := Outcome.exists_of_mapM_eq_failed part
      rcases Outcome.cases_of_bind_eq_failed step with here | ⟨value, -, never⟩
      · exact explained_bindField parts embedded plain mem error here
      · cases never
    · cases never

/-- **Every binding that fails does so at some place**, to every depth. The induction goes over
shapes and embedded fields together. -/
theorem exists_failsAt (binder : Binder) (family : Family) (depth : Nat) :
    ExplainsInside binder family (binder.bindAt family depth)
      ∧ ∀ source fields target, Explained binder family ⟨source, .fields fields, target⟩
        (binder.bindCompositeAt family depth source fields target) := by
  induction depth with
  | zero =>
    constructor <;> intro source _ target error failed <;> cases failed
  | succ depth ih =>
    obtain ⟨parts, embedded⟩ := ih
    constructor
    · intro source shape target
      rw [bindAt]
      cases resolved : shape.resolve family with
      | mapping type member => exact explained_bindMapping parts resolved
      | sequence type element => exact explained_bindSequence parts resolved
      | optional type inner => exact explained_bindOptional parts resolved
      | composite type fields =>
        dsimp only
        split
        next converted =>
          refine explained_ofExcept fun error failed => ?_
          rw [← resolved] at failed
          refine .leaf ?_ failed
          rw [resolved]
          exact converted
        next builtin =>
          have unconverted := Option.not_isSome_iff_eq_none.1 builtin
          exact (embedded _ _ _).of_enters (.composite resolved unconverted)
      | scalar | custom | named =>
        refine explained_ofExcept fun error failed => ?_
        rw [← resolved] at failed
        refine .leaf ?_ failed
        rw [resolved]
        trivial
    · intro source fields target
      rw [bindCompositeAt]
      exact explained_bindFields parts embedded

/-! ### Errors of bindings -/

/-- What the error of a binding says: it is no conflict; it arose at the end of steps in the shape,
and its path is that of the target followed by them; and a key that it calls missing is one that the
source does not have. -/
structure Located (binder : Binder) (family : Family) (source : Source) (shape : Shape)
    (target : Target) (error : PropertyError) : Prop where
  unconflicted : error.kind ≠ .propertyConflict
  placed : ∃ steps, FailsAt binder family error ⟨source, .whole shape, target⟩ steps
    ∧ error.path = target.path ++ Step.pathText steps
  absent : ∀ key path, error = .notExist key path → ¬ source.has key

/-- **The errors of bindings are located and honest**, to whatever depth a shape is bound, even when
they arise inside a placeholder, a fallback or a part of a text. -/
theorem failed_is_located (binder : Binder) (family : Family) (source : Source) (shape : Shape)
    (target : Target) :
    (∀ depth error, binder.bindAt family depth source shape target = .failed error →
        binder.Located family source shape target error)
      ∧ (binder.Ends family source shape target →
        ∀ error, binder.bind family source shape target = .error error →
          binder.Located family source shape target error) := by
  have located : ∀ depth error, binder.bindAt family depth source shape target = .failed error →
      binder.Located family source shape target error := by
    intro depth error failed
    obtain ⟨steps, fails⟩ := (exists_failsAt binder family depth).1 source shape target error failed
    have honest := fails.honest
    exact ⟨honest.unconflicted, ⟨steps, fails, honest.located⟩, honest.absent⟩
  refine ⟨located, fun ends error failed => ?_⟩
  obtain ⟨depth, settled⟩ := bind_settles ends
  rw [failed] at settled
  exact located depth error (settled depth (Nat.le_refl depth))

/-- Properties in which a part of the text of a sequence refers to a key that is not there. -/
def lostHost : Source := .overlay .empty (Store.ofTable [("cluster.hosts", "a,$\x7bgone\x7d")])

/-- The shape of a composite with that sequence. -/
def clusterShape : Shape :=
  .composite "Cluster" [⟨"hosts", .nested, .sequence "Vec" (.scalar "String" .string), []⟩]

theorem failed_is_located_lostHost :
    Binder.standard.bindAt [] 4 lostHost clusterShape (.new "cluster" "c")
        = .failed (.notExist "gone" "c.hosts[1]")
      ∧ Binder.standard.Located [] lostHost clusterShape (.new "cluster" "c")
        (.notExist "gone" "c.hosts[1]")
      ∧ ¬ lostHost.has "gone" := by
  have failed : Binder.standard.bindAt [] 4 lostHost clusterShape (.new "cluster" "c")
      = .failed (.notExist "gone" "c.hosts[1]") := by cbv
  have facts := failed_is_located Binder.standard [] lostHost clusterShape (.new "cluster" "c")
  have located := facts.1 4 _ failed
  exact ⟨failed, located, located.absent _ _ rfl⟩

end Binder

end TypedConfig
