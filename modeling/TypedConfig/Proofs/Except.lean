import TypedConfig.Error

/-!
# Results that may be errors

How a success or an error of a mapped result comes about, and how an error of a walk over a list.
-/

namespace TypedConfig

variable {Fault Result Next : Type}

theorem exists_of_map_eq_ok {change : Result → Next} {outcome : Except Fault Result} {next : Next}
    (same : outcome.map change = .ok next) :
    ∃ result, outcome = .ok result ∧ change result = next := by
  cases outcome with
  | error fault => cases same
  | ok result => exact ⟨result, rfl, Except.ok.inj same⟩

theorem eq_error_of_map_eq_error {change : Result → Next} {outcome : Except Fault Result}
    {fault : Fault} (same : outcome.map change = .error fault) : outcome = .error fault := by
  cases outcome with
  | error other => exact congrArg _ (Except.error.inj same)
  | ok result => cases same

theorem exists_of_toOption_map_eq_some {change : Result → Next} {outcome : Except Fault Result}
    {next : Next} (same : outcome.toOption.map change = some next) :
    ∃ result, outcome = .ok result ∧ change result = next := by
  cases outcome with
  | error fault => cases same
  | ok result => exact ⟨result, rfl, Option.some.inj same⟩

theorem exists_of_bind_eq_ok {outcome : Except Fault Result} {next : Result → Except Fault Next}
    {last : Next} (same : outcome >>= next = .ok last) :
    ∃ result, outcome = .ok result ∧ next result = .ok last := by
  cases outcome with
  | error fault => cases same
  | ok result => exact ⟨result, rfl, same⟩

/-- A walk over a list stops at an error of one of its steps. -/
theorem exists_of_foldlM_eq_error {State Item : Type} {step : State → Item → Except Fault State}
    {items : List Item} {state : State} {fault : Fault}
    (stopped : items.foldlM step state = .error fault) :
    ∃ item ∈ items, ∃ reached, step reached item = .error fault := by
  induction items generalizing state with
  | nil => cases stopped
  | cons item items ih =>
    rw [List.foldlM_cons] at stopped
    cases taken : step state item with
    | error other =>
      rw [taken] at stopped
      cases stopped
      exact ⟨item, List.mem_cons_self, state, taken⟩
    | ok next =>
      rw [taken] at stopped
      obtain ⟨later, mem, reached, here⟩ := ih stopped
      exact ⟨later, List.mem_cons_of_mem _ mem, reached, here⟩

end TypedConfig
