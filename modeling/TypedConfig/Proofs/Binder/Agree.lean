import TypedConfig.Binder.Outcome

/-!
# Outcomes that agree

Two bindings are compared by what a caller can act on: the value, or the category and the path of
the error. The keys that errors mention may differ.

* `kind_atPath`, `path_atPath`: what filling the path of an error in does to it.
* `Agree`: the same kind of outcome, with related results or with errors of one category and path.
* `Agree.bind`, `Agree.mapM`: bindings in several steps agree when every step does.
-/

namespace TypedConfig

namespace PropertyError

/-! ### Filling the path in -/

theorem kind_atPath (error : PropertyError) (path : Text) :
    (error.atPath path).kind = error.kind := by
  unfold atPath
  split <;> rfl

/-- A path is filled in where there is none; conflicts never have one. -/
theorem path_atPath (error : PropertyError) (path : Text) :
    (error.atPath path).path
      = if error.kind = .propertyConflict then [] else if error.path = [] then path
        else error.path := by
  cases error with
  | conflict => rfl
  | notExist _ here | malformed _ _ here | conversion _ here | validation _ here
  | unsupported _ here | split _ here => cases here <;> rfl

end PropertyError

/-! ### Errors that agree -/

/-- Two errors of the same category at the same path. -/
structure PropertyError.SameFault (first second : PropertyError) : Prop where
  kind : first.kind = second.kind
  path : first.path = second.path

namespace PropertyError.SameFault

theorem refl (error : PropertyError) : SameFault error error := ⟨rfl, rfl⟩

theorem isNotExist {first second : PropertyError} (same : SameFault first second) :
    first.isNotExist = second.isNotExist := by
  have byKind (error : PropertyError) : error.isNotExist = decide (error.kind = .notExist) := by
    cases error <;> rfl
  rw [byKind, byKind, same.kind]

theorem atPath {first second : PropertyError} (same : SameFault first second) (path : Text) :
    SameFault (first.atPath path) (second.atPath path) := by
  constructor
  · rw [kind_atPath, kind_atPath, same.kind]
  · rw [path_atPath, path_atPath, same.kind, same.path]

end PropertyError.SameFault

/-! ### Outcomes -/

namespace Outcome

open PropertyError (SameFault)

variable {Left Right NextLeft NextRight : Type}

/-- Outcomes of the same kind, with related results or with errors of one category and path. -/
inductive Agree (related : Left → Right → Prop) : Outcome Left → Outcome Right → Prop
  | done {left : Left} {right : Right} (same : related left right) :
      Agree related (.done left) (.done right)
  | failed {left right : PropertyError} (same : SameFault left right) :
      Agree related (.failed left) (.failed right)
  | exhausted : Agree related .exhausted .exhausted

variable {related : Left → Right → Prop}

theorem Agree.bind {next : NextLeft → NextRight → Prop} {first : Outcome Left}
    {second : Outcome Right} {left : Left → Outcome NextLeft} {right : Right → Outcome NextRight}
    (agree : Agree related first second)
    (step : ∀ result other, related result other → Agree next (left result) (right other)) :
    Agree next (first >>= left) (second >>= right) := by
  cases agree with
  | done same => exact step _ _ same
  | failed same => exact .failed same
  | exhausted => exact .exhausted

/-- Parts that are bound one after the other agree when each of them does. -/
theorem Agree.mapM {Part Result : Type} {left right : Part → Outcome Result} {parts : List Part}
    (each : ∀ part ∈ parts, Agree Eq (left part) (right part)) :
    Agree Eq (parts.mapM left) (parts.mapM right) := by
  induction parts with
  | nil => exact .done rfl
  | cons part parts ih =>
    rw [List.mapM_cons, List.mapM_cons]
    refine (each part List.mem_cons_self).bind fun result other same => ?_
    subst same
    have rest := ih fun part mem => each part (List.mem_cons_of_mem _ mem)
    refine rest.bind fun results others same => ?_
    subst same
    exact .done rfl

/-- Results that may be errors agree as outcomes do. -/
theorem Agree.exists_of_ofExcept {first : Except PropertyError Left}
    {second : Except PropertyError Right}
    (agree : Agree related (.ofExcept first) (.ofExcept second)) :
    (∃ result other, first = .ok result ∧ second = .ok other ∧ related result other)
      ∨ ∃ error fault, first = .error error ∧ second = .error fault ∧ SameFault error fault := by
  cases first with
  | ok result =>
    cases second with
    | ok other =>
      cases agree with
      | done same => exact .inl ⟨result, other, rfl, rfl, same⟩
    | error => cases agree
  | error error =>
    cases second with
    | ok => cases agree
    | error fault =>
      cases agree with
      | failed same => exact .inr ⟨error, fault, rfl, rfl, same⟩

end Outcome

end TypedConfig
