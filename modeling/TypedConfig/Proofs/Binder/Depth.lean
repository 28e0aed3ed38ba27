import TypedConfig.Proofs.Binder.Basic

/-!
# More depth

A binding that does not use up its depth gives the same outcome at every greater depth, so it has
one result, which no depth is part of.

* `Outcome.Refines`: the outcome of more depth is the same unless there was too little.
* `bindAt_refines`: this holds of every binding, by induction on the depth, since each kind of shape
  carries it over from its parts.
* `Settles`: the result that a binding has from some depth on.
-/

namespace TypedConfig.Outcome

variable {Result Next : Type}

/-- The second outcome is the first, unless the first used up its depth. -/
def Refines (few many : Outcome Result) : Prop := few = .exhausted ∨ many = few

theorem Refines.refl (outcome : Outcome Result) : Refines outcome outcome := .inr rfl

theorem Refines.trans {few middle many : Outcome Result} (first : Refines few middle)
    (second : Refines middle many) : Refines few many := by
  rcases first with used | rfl
  · exact .inl used
  · exact second

theorem Refines.bind {few many : Outcome Result} {next further : Result → Outcome Next}
    (first : Refines few many) (rest : ∀ result, Refines (next result) (further result)) :
    Refines (few >>= next) (many >>= further) := by
  rcases first with rfl | rfl
  · exact .inl rfl
  · cases many with
    | done result => exact rest result
    | failed error => exact .inr rfl
    | exhausted => exact .inl rfl

theorem Refines.mapM {Part : Type} {next further : Part → Outcome Result} (parts : List Part)
    (each : ∀ part, Refines (next part) (further part)) :
    Refines (parts.mapM next) (parts.mapM further) := by
  induction parts with
  | nil => exact .refl _
  | cons part parts ih =>
    rw [List.mapM_cons, List.mapM_cons]
    exact (each part).bind fun result => ih.bind fun results => .refl _

end TypedConfig.Outcome

namespace TypedConfig.Binder

open Outcome (Refines)

variable {binder : Binder} {family : Family} {source : Source} {shape : Shape} {target : Target}

/-! ### Kinds of shapes -/

/-- The binding of parts to more depth. -/
def RefinesInside (bind further : BindPart) : Prop :=
  ∀ source shape target, Refines (bind source shape target) (further source shape target)

variable {bind further : BindPart}
  {embed furtherEmbed : Source → List (Field Shape) → Target → Outcome Value}

theorem bindSequence_refines (inside : RefinesInside bind further) (element : Shape) :
    Refines (binder.bindSequence bind family source element target)
      (binder.bindSequence further family source element target) := by
  unfold bindSequence
  refine (Refines.refl _).bind fun view => ?_
  cases view with
  | none => exact .refl _
  | some view => exact (Refines.mapM _ fun index => inside _ _ _).bind fun items => .refl _

theorem bindMapping_refines (inside : RefinesInside bind further) (member : Shape) :
    Refines (binder.bindMapping bind source member target)
      (binder.bindMapping further source member target) := by
  unfold bindMapping
  refine (Refines.refl _).bind fun names => ?_
  refine (Refines.mapM _ fun name => ?_).bind fun members => .refl _
  exact (inside _ _ _).bind fun value => .refl _

theorem bindOptional_refines (inside : RefinesInside bind further) (inner : Shape) :
    Refines (bindOptional bind source inner target) (bindOptional further source inner target) := by
  unfold bindOptional
  rcases inside source inner target with used | same
  · rw [used]
    exact .inl rfl
  · rw [same]
    exact .refl _

theorem bindField_refines (inside : RefinesInside bind further)
    (embedded : ∀ source fields target,
      Refines (embed source fields target) (furtherEmbed source fields target))
    (field : Field Shape) :
    Refines (bindField bind embed family source target field)
      (bindField further furtherEmbed family source target field) := by
  unfold bindField
  cases field.binding with
  | tagged text =>
    dsimp only
    split
    · exact inside _ _ _
    · exact .refl _
  | embedded =>
    dsimp only
    split
    · exact embedded _ _ _
    · exact .refl _
  | nested => exact inside _ _ _

theorem bindFields_refines (inside : RefinesInside bind further)
    (embedded : ∀ source fields target,
      Refines (embed source fields target) (furtherEmbed source fields target))
    (fields : List (Field Shape)) :
    Refines (bindFields bind embed family source fields target)
      (bindFields further furtherEmbed family source fields target) := by
  unfold bindFields
  by_cases given : target.tag.fallback.any (· != []) = true
  · rw [if_pos given, if_pos given]
    exact .refl _
  · rw [if_neg given, if_neg given]
    refine (Refines.mapM _ fun field => ?_).bind fun members => .refl _
    exact (bindField_refines inside embedded field).bind fun value => .refl _

/-! ### Every level -/

theorem bindAt_refines_succ (depth : Nat) :
    RefinesInside (binder.bindAt family depth) (binder.bindAt family (depth + 1))
      ∧ ∀ source fields target, Refines (binder.bindCompositeAt family depth source fields target)
        (binder.bindCompositeAt family (depth + 1) source fields target) := by
  induction depth with
  | zero => exact ⟨fun _ _ _ => .inl rfl, fun _ _ _ => .inl rfl⟩
  | succ depth ih =>
    obtain ⟨inside, embedded⟩ := ih
    constructor
    · intro source shape target
      rw [bindAt, bindAt]
      cases shape.resolve family with
      | mapping _ member => exact bindMapping_refines inside member
      | sequence _ element => exact bindSequence_refines inside element
      | optional _ inner => exact bindOptional_refines inside inner
      | composite type fields =>
        dsimp only
        split
        · exact .refl _
        · exact embedded _ _ _
      | scalar | custom | named => exact .refl _
    · intro source fields target
      rw [bindCompositeAt, bindCompositeAt]
      exact bindFields_refines inside embedded fields

/-- **More depth does not change an outcome that was reached.** -/
theorem bindAt_refines {depth more : Nat} (deeper : depth ≤ more) :
    RefinesInside (binder.bindAt family depth) (binder.bindAt family more) := by
  intro source shape target
  induction deeper with
  | refl => exact .refl _
  | step _ ih => exact ih.trans ((bindAt_refines_succ _).1 source shape target)

/-- From some depth on, binding has this result. -/
def Settles (binder : Binder) (family : Family) (source : Source) (shape : Shape) (target : Target)
    (result : Except PropertyError Value) : Prop :=
  ∃ depth, ∀ more, depth ≤ more → binder.bindAt family more source shape target = .ofExcept result

/-- An outcome that is reached at one depth is the result. -/
theorem settles_of_bindAt {depth : Nat} {result : Except PropertyError Value}
    (reached : binder.bindAt family depth source shape target = .ofExcept result) :
    binder.Settles family source shape target result := by
  refine ⟨depth, fun more deeper => ?_⟩
  rcases bindAt_refines deeper source shape target with used | same
  · rw [reached] at used
    cases result <;> cases used
  · rw [same, reached]

/-- There is only one result. -/
theorem Settles.unique {result other : Except PropertyError Value}
    (settled : binder.Settles family source shape target result)
    (again : binder.Settles family source shape target other) : result = other := by
  obtain ⟨depth, first⟩ := settled
  obtain ⟨depth', second⟩ := again
  have same := (first _ (Nat.le_max_left depth depth')).symm.trans
    (second _ (Nat.le_max_right depth depth'))
  cases result <;> cases other <;> cases same <;> rfl

/-- The depth that the binder allows itself is enough. -/
def Ends (binder : Binder) (family : Family) (source : Source) (shape : Shape) (target : Target) :
    Prop :=
  binder.bindAt family (depthBound family source shape target) source shape target ≠ .exhausted

/-- The depth is enough wherever the binder answers with a value. -/
theorem ends_of_bind_eq_ok {value : Value}
    (bound : binder.bind family source shape target = .ok value) :
    binder.Ends family source shape target := by
  intro used
  rw [Binder.bind, used] at bound
  cases bound

/-- Where its depth is enough, the binder answers with the result. -/
theorem bind_settles (ends : binder.Ends family source shape target) :
    binder.Settles family source shape target (binder.bind family source shape target) := by
  have answered : binder.bindAt family (depthBound family source shape target) source shape target
      = .ofExcept (binder.bind family source shape target) := by
    unfold Binder.bind
    cases outcome : binder.bindAt family (depthBound family source shape target) source shape target
      with
    | done value => rfl
    | failed error => rfl
    | exhausted => exact absurd outcome ends
  exact settles_of_bindAt answered

end TypedConfig.Binder
