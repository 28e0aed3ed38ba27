import TypedConfig.Error

/-!
# Outcomes of bounded recursion

Binding follows recursive shapes to a depth that is given to it. Its outcome is a value, an error,
or that the depth was used up; the last is kept apart from errors, because more depth may still give
either of them.
-/

namespace TypedConfig

/-- The outcome of a binding to a bounded depth. -/
inductive Outcome (Result : Type) where
  | done (result : Result)
  | failed (error : PropertyError)
  | exhausted

namespace Outcome

variable {Result Next : Type}

/-- Goes on with the result, if there is one. -/
def andThen (outcome : Outcome Result) (next : Result → Outcome Next) : Outcome Next :=
  match outcome with
  | done result => next result
  | failed error => failed error
  | exhausted => exhausted

instance : Monad Outcome where
  pure := done
  bind := andThen

@[simp]
theorem pure_eq (result : Result) : (pure result : Outcome Result) = done result := rfl

@[simp]
theorem done_bind (result : Result) (next : Result → Outcome Next) :
    (done result >>= next) = next result := rfl

@[simp]
theorem failed_bind (error : PropertyError) (next : Result → Outcome Next) :
    (failed error >>= next) = failed error := rfl

@[simp]
theorem exhausted_bind (next : Result → Outcome Next) :
    ((exhausted : Outcome Result) >>= next) = exhausted := rfl

instance : LawfulMonad Outcome :=
  LawfulMonad.mk' Outcome (fun outcome => by cases outcome <;> rfl) (fun _ _ => rfl)
    (fun outcome _ _ => by cases outcome <;> rfl)

/-- The outcome of a computation that needs no depth. -/
def ofExcept : Except PropertyError Result → Outcome Result
  | .ok result => done result
  | .error error => failed error

@[simp]
theorem ofExcept_ok (result : Result) : ofExcept (.ok result) = done result := rfl

@[simp]
theorem ofExcept_error (error : PropertyError) :
    (ofExcept (.error error) : Outcome Result) = failed error := rfl

end Outcome

end TypedConfig
