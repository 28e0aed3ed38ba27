import TypedConfig.Proofs.Binder.Basic

/-!
# Bindings that cannot be told apart

Binding asks a source for texts, for keys and for members, and goes on with parts, some of them in
sources of their own. So two bindings have the same outcome, word for word, when all that they ask is
answered alike and they go on with parts that cannot be told apart either.

* `ElementsFound`: what is found for the elements of a sequence over two sources.
* `bindSequence_congr`, `bindMapping_congr`, `bindOptional_congr`, `bindFields_congr`: one lemma for
  each kind of shape, given that the parts are bound alike.
* `Congruence`: a relation on bindings that goes on to the parts.
* `Congruence.bindAt_eq`: all levels together, by induction on the depth.
-/

namespace TypedConfig

/-- Parts that are bound alike one by one are bound alike together. -/
theorem Outcome.mapM_congr {Part Result : Type} {bind other : Part → Outcome Result}
    {parts : List Part} (each : ∀ part ∈ parts, bind part = other part) :
    parts.mapM bind = parts.mapM other := by
  induction parts with
  | nil => rfl
  | cons part parts ih =>
    rw [List.mapM_cons, List.mapM_cons, each part List.mem_cons_self,
      ih fun later mem => each later (List.mem_cons_of_mem part mem)]

namespace Binder

variable {binder : Binder} {family : Family}

section

variable {first second : Source} {target : Target}

/-! ### Leaves and elements -/

theorem bindLeaf_congr
    (resolved : Placeholder.resolve first target = Placeholder.resolve second target)
    (shape : Shape) : binder.bindLeaf first shape target = binder.bindLeaf second shape target := by
  rw [bindLeaf, bindLeaf, resolved]

/-- The elements of a sequence are found with the same error, or not at all, or in sources that are
related. -/
inductive ElementsFound (related : Source → Source → Prop) :
    Except PropertyError (Option Source) → Except PropertyError (Option Source) → Prop
  | error (error : PropertyError) : ElementsFound related (.error error) (.error error)
  | none : ElementsFound related (.ok none) (.ok none)
  | some {view other : Source} (here : related view other) :
      ElementsFound related (.ok (some view)) (.ok (some other))

theorem ElementsFound.mono {related further : Source → Source → Prop}
    {found found' : Except PropertyError (Option Source)}
    (elements : ElementsFound related found found')
    (weaker : ∀ {view other}, related view other → further view other) :
    ElementsFound further found found' := by
  cases elements with
  | error error => exact .error error
  | none => exact .none
  | some here => exact .some (weaker here)

/-- Where two sources answer alike at the key of a sequence and at its first element, its elements
are found in both, or in both below the same parts. -/
theorem elementsFound {related : Source → Source → Prop} (here : related first second)
    (text : first.get? target.key = second.get? target.key)
    (present : first.has target.key = second.has target.key)
    (started : first.has (Key.element target.key 0) = second.has (Key.element target.key 0))
    (element : Shape)
    (divided : ∀ text parts store, binder.sequenceText first element target = .ok text →
      text ≠ [] → binder.sequenceParts target text = .ok parts →
      Store.ofList? (partEntries target.key 0 parts) = .ok store →
      related (.overlay store first) (.overlay store second)) :
    ElementsFound related (binder.elementSource first element target)
      (binder.elementSource second element target) := by
  have same : binder.sequenceText first element target
      = binder.sequenceText second element target := by
    rw [sequenceText, sequenceText, text, present]
  unfold elementSource
  rw [started, ← same]
  by_cases begun : second.has (Key.element target.key 0)
  · rw [if_pos begun, if_pos begun]
    exact .some here
  rw [if_neg begun, if_neg begun]
  cases read : binder.sequenceText first element target with
  | error error => exact .error error
  | ok text =>
    by_cases empty : text = []
    · simp only [if_pos empty]
      exact .none
    simp only [if_neg empty]
    cases given : binder.sequenceParts target text with
    | error error => exact .error error
    | ok parts =>
      cases written : Store.ofList? (partEntries target.key 0 parts) with
      | error error =>
        simp only [written]
        exact .error _
      | ok store =>
        simp only [written]
        exact .some (divided text parts store read empty given written)

/-! ### Containers -/

variable {bind : BindPart} {embed : Source → List (Field Shape) → Target → Outcome Value}

theorem bindSequence_congr {element : Shape}
    (found : ElementsFound (fun view other => ∀ index,
        view.has (Key.element target.key index) = other.has (Key.element target.key index)
          ∧ bind view element (binder.elementTarget target (target.element index))
            = bind other element (binder.elementTarget target (target.element index)))
      (binder.elementSource first (element.resolve family) target)
      (binder.elementSource second (element.resolve family) target)) :
    binder.bindSequence bind family first element target
      = binder.bindSequence bind family second element target := by
  unfold bindSequence
  generalize binder.elementSource first (element.resolve family) target = views at found ⊢
  generalize binder.elementSource second (element.resolve family) target = others at found ⊢
  cases found with
  | error error => rfl
  | none => rfl
  | @some view other here =>
    have same : indices view target.key = indices other target.key :=
      indices_congr fun index => (here index).1
    simp only [Outcome.ofExcept_ok, Outcome.done_bind, same, (here _).2]

theorem bindMapping_congr {member : Shape}
    (listed : first.members? target.key = second.members? target.key)
    (parts : ∀ name, bind first member (binder.elementTarget target (target.child name))
      = bind second member (binder.elementTarget target (target.child name))) :
    binder.bindMapping bind first member target = binder.bindMapping bind second member target := by
  unfold bindMapping memberNames
  simp only [listed, parts]

theorem bindOptional_congr {inner : Shape} (present : first.has target.key = second.has target.key)
    (part : bind first inner target = bind second inner target) :
    bindOptional bind first inner target = bindOptional bind second inner target := by
  unfold bindOptional
  rw [part, present]

theorem bindFields_congr {fields : List (Field Shape)}
    (parts : ∀ field ∈ fields, bindField bind embed family first target field
      = bindField bind embed family second target field) :
    bindFields bind embed family first fields target
      = bindFields bind embed family second fields target := by
  unfold bindFields
  rw [Outcome.mapM_congr fun field mem => by rw [parts field mem]]

end

/-! ### Every level -/

/-- A relation on bindings of a shape at a target, over two sources each, under which these cannot
be told apart: what is asked of the sources is answered alike, and the parts are related again. -/
structure Congruence (binder : Binder) (family : Family)
    (same : Source → Source → Shape → Target → Prop) : Prop where
  resolve {first second shape target} : same first second shape target →
    Placeholder.resolve first target = Placeholder.resolve second target
  has {first second shape target} : same first second shape target →
    first.has target.key = second.has target.key
  members? {first second shape target type member} : same first second shape target →
    shape.resolve family = .mapping type member →
    first.members? target.key = second.members? target.key
  member {first second shape target type member} : same first second shape target →
    shape.resolve family = .mapping type member →
    ∀ name, same first second member (binder.elementTarget target (target.child name))
  elements {first second shape target type element} : same first second shape target →
    shape.resolve family = .sequence type element →
    ElementsFound (fun view other => ∀ index,
        view.has (Key.element target.key index) = other.has (Key.element target.key index)
          ∧ same view other element (binder.elementTarget target (target.element index)))
      (binder.elementSource first (element.resolve family) target)
      (binder.elementSource second (element.resolve family) target)
  inner {first second shape target type inner} : same first second shape target →
    shape.resolve family = .optional type inner → same first second inner target
  nested {first second shape target type fields} : same first second shape target →
    shape.resolve family = .composite type fields → ∀ field ∈ fields,
    same first second field.shape ((target.child field.name).withRules field.rules)
  tagged {first second shape target type fields} : same first second shape target →
    shape.resolve family = .composite type fields → ∀ field ∈ fields, ∀ text child,
    field.binding = .tagged text →
    (Target.new target.key (target.path ++ '.' :: field.name)).applyTag? text field.rules
      = .ok child →
    same first second field.shape child
  embedded {first second shape target type fields} : same first second shape target →
    shape.resolve family = .composite type fields → ∀ field ∈ fields,
    same first second field.shape (Target.new target.key (target.path ++ '.' :: field.name))

namespace Congruence

variable {same : Source → Source → Shape → Target → Prop} {bind : BindPart}
  {embed : Source → List (Field Shape) → Target → Outcome Value}

theorem bindField_eq (congruence : Congruence binder family same)
    (parts : ∀ ⦃first second shape target⦄, same first second shape target →
      bind first shape target = bind second shape target)
    (embedded : ∀ ⦃first second shape target type fields⦄, same first second shape target →
      shape.resolve family = .composite type fields →
      embed first fields target = embed second fields target)
    {first second : Source} {shape : Shape} {target : Target} {type : Text}
    {fields : List (Field Shape)} (here : same first second shape target)
    (resolved : shape.resolve family = .composite type fields) {field : Field Shape}
    (mem : field ∈ fields) :
    bindField bind embed family first target field
      = bindField bind embed family second target field := by
  unfold bindField
  cases binding : field.binding with
  | tagged text =>
    dsimp only
    split
    next child applied =>
      exact parts (congruence.tagged here resolved field mem text child binding applied)
    next => rfl
  | embedded =>
    dsimp only
    split
    next type inner resolved' =>
      exact embedded (congruence.embedded here resolved field mem) resolved'
    next => rfl
  | nested => exact parts (congruence.nested here resolved field mem)

/-- **Bindings that cannot be told apart have the same outcome, to every depth.** -/
theorem bindAt_eq (congruence : Congruence binder family same) (depth : Nat) :
    (∀ ⦃first second shape target⦄, same first second shape target →
        binder.bindAt family depth first shape target
          = binder.bindAt family depth second shape target)
      ∧ ∀ ⦃first second shape target type fields⦄, same first second shape target →
        shape.resolve family = .composite type fields →
        binder.bindCompositeAt family depth first fields target
          = binder.bindCompositeAt family depth second fields target := by
  induction depth with
  | zero => exact ⟨fun _ _ _ _ _ => rfl, fun _ _ _ _ _ _ _ _ => rfl⟩
  | succ depth ih =>
    obtain ⟨parts, embedded⟩ := ih
    constructor
    · intro first second shape target here
      rw [bindAt, bindAt]
      cases resolved : shape.resolve family with
      | mapping type member =>
        exact bindMapping_congr (congruence.members? here resolved)
          fun name => parts (congruence.member here resolved name)
      | sequence type element =>
        refine bindSequence_congr ((congruence.elements here resolved).mono ?_)
        exact fun related index => ⟨(related index).1, parts (related index).2⟩
      | optional type inner =>
        exact bindOptional_congr (congruence.has here) (parts (congruence.inner here resolved))
      | composite type fields =>
        dsimp only
        rw [bindLeaf_congr (congruence.resolve here), embedded here resolved]
      | scalar | custom | named =>
        dsimp only
        rw [bindLeaf_congr (congruence.resolve here)]
    · intro first second shape target type fields here resolved
      rw [bindCompositeAt, bindCompositeAt]
      exact bindFields_congr fun field mem =>
        congruence.bindField_eq parts embedded here resolved mem

end Congruence

end Binder

end TypedConfig
