import Mathlib.Data.List.Induction
import TypedConfig.Condition.Basic

/-!
# Conditionals are read from the left

A conditional is put together by calls, each of which selects an operator or appends a condition.
The calls have a reading `((c₁ op₂ c₂) op₃ c₃) …`, which knows nothing of how a conditional stores
its steps or of the operator it keeps for the next one.

* `Reading.ofLatest?`: the reading of calls. The operator in front of a condition is the last one
  that was selected since the condition before it was appended, and `and` where none was.
* `Reading.evaluate`: the evaluation of a reading, in which a condition takes its turn only where
  the value in front of it leaves the result open. `Reading.evaluated` lists the conditions whose
  turn comes, `Reading.truth` is the value without such a rule.
* `evaluateSteps_concat`: one more condition at the end of a conditional.
* `evaluate_built`: a conditional is evaluated like its reading, by induction on the calls from the
  last one back.
* `result_eq_error_iff`, `result_eq_truth`: which error an evaluation ends with, and its value when
  no condition has an error.
* `evaluate_built_reading`: all of it, for every list of calls.
-/

namespace TypedConfig

/-- A call that puts a conditional together. -/
inductive ConditionalCall where
  | select (operator : LogicOperator)
  | append (condition : Condition)

namespace ConditionalCall

/-- The conditions that calls append, in their order. -/
def conditions (calls : List ConditionalCall) : List Condition :=
  calls.filterMap fun call => match call with
    | append condition => some condition
    | select _ => none

/-- The operator that was selected last since a condition was appended, and `and` when none was. The
latest call stands first. -/
def lastSelected : List ConditionalCall → LogicOperator
  | select operator :: _ => operator
  | _ => .and

end ConditionalCall

open ConditionalCall (conditions lastSelected)

/-- The conditional after one more call. -/
def Conditional.after (conditional : Conditional) : ConditionalCall → Conditional
  | .select operator => conditional.select operator
  | .append condition => conditional.append condition

/-- The conditional that calls put together. -/
def Conditional.built (calls : List ConditionalCall) : Conditional :=
  calls.foldl Conditional.after Conditional.empty

/-! ### Readings -/

/-- At least one condition, with operators that group to the left. -/
inductive Reading where
  | first (condition : Condition)
  | joined (front : Reading) (operator : LogicOperator) (last : Condition)

/-- The value of two values that are joined. -/
def LogicOperator.apply : LogicOperator → Bool → Bool → Bool
  | and, left, right => left && right
  | or, left, right => left || right

namespace Evaluation

/-- The evaluation that goes on behind the value of another one, if that has a value. -/
def andThen (front : Evaluation) (next : Bool → Evaluation) : Evaluation :=
  match front.result with
  | .error error => ⟨front.consulted, .error error⟩
  | .ok value => ⟨front.consulted ++ (next value).consulted, (next value).result⟩

/-- The evaluation of a condition behind others, which is looked at only where these leave the
result open. -/
def join (front : Evaluation) (operator : LogicOperator) (last : Evaluation) : Evaluation :=
  front.andThen fun value => if operator.isOpen value then last else plain (.ok value)

theorem plain_andThen (value : Bool) (next : Bool → Evaluation) :
    (plain (.ok value)).andThen next = next value := rfl

theorem andThen_plain (front : Evaluation) :
    (front.andThen fun value => plain (.ok value)) = front := by
  obtain ⟨consulted, result⟩ := front
  cases result with
  | error error => rfl
  | ok value => exact congrArg (Evaluation.mk · _) (List.append_nil consulted)

theorem andThen_assoc (front : Evaluation) (next last : Bool → Evaluation) :
    (front.andThen next).andThen last = front.andThen fun value => (next value).andThen last := by
  obtain ⟨consulted, result⟩ := front
  cases result with
  | error error => rfl
  | ok value =>
    unfold andThen
    dsimp only
    cases (next value).result with
    | error error => rfl
    | ok reached => exact congrArg (Evaluation.mk · _) (List.append_assoc ..)

end Evaluation

namespace Reading

/-- The reading of calls, the latest of which stands first; without a condition there is none. -/
def ofLatest? : List ConditionalCall → Option Reading
  | [] => none
  | .select _ :: earlier => ofLatest? earlier
  | .append condition :: earlier =>
    match ofLatest? earlier with
    | none => some (first condition)
    | some front => some (joined front (lastSelected earlier) condition)

/-- The conditions of a reading, from the left. -/
def conditions : Reading → List Condition
  | first condition => [condition]
  | joined front _ last => front.conditions ++ [last]

/-- The evaluation of a reading. -/
def evaluate (context : Context) : Reading → Evaluation
  | first condition => condition.evaluate context
  | joined front operator last => (front.evaluate context).join operator (last.evaluate context)

/-- The conditions that are evaluated, from the left: the first one, and each for which the value in
front of it is true behind an `and` or false behind an `or`. -/
def evaluated (context : Context) : Reading → List Condition
  | first condition => [condition]
  | joined front operator last =>
    match (front.evaluate context).result with
    | .error _ => front.evaluated context
    | .ok value =>
      if operator.isOpen value then front.evaluated context ++ [last] else front.evaluated context

/-- The value of a reading whose conditions all have values. -/
def truth (value : Condition → Bool) : Reading → Bool
  | first condition => value condition
  | joined front operator last => operator.apply (front.truth value) (value last)

end Reading

variable {context : Context} {calls : List ConditionalCall} {reading : Reading}

/-! ### One more condition -/

theorem evaluateRest_cons (value : Bool) (operator : LogicOperator) (condition : Condition)
    (steps : List (LogicOperator × Condition)) :
    evaluateRest context value ((operator, condition) :: steps)
      = if operator.isOpen value then
          (condition.evaluate context).andThen (evaluateRest context · steps)
        else evaluateRest context value steps := by
  rw [evaluateRest]
  rfl

theorem evaluateSteps_cons (operator : LogicOperator) (first : Condition)
    (steps : List (LogicOperator × Condition)) :
    evaluateSteps context ((operator, first) :: steps)
      = (first.evaluate context).andThen (evaluateRest context · steps) := by
  rw [evaluateSteps]
  rfl

/-- A condition at the end of others is looked at last. -/
theorem evaluateRest_concat (value : Bool) (steps : List (LogicOperator × Condition))
    (operator : LogicOperator) (last : Condition) :
    evaluateRest context value (steps ++ [(operator, last)])
      = (evaluateRest context value steps).join operator (last.evaluate context) := by
  induction steps generalizing value with
  | nil =>
    rw [List.nil_append, evaluateRest_cons, evaluateRest, Evaluation.join, Evaluation.plain_andThen]
    simp only [evaluateRest, Evaluation.andThen_plain]
  | cons step steps ih =>
    rw [List.cons_append, evaluateRest_cons, evaluateRest_cons]
    split
    next => simp only [ih, Evaluation.join, Evaluation.andThen_assoc]
    next => exact ih value

/-- **One more condition at the end of a conditional** is joined to all that is there. -/
theorem evaluateSteps_concat {steps : List (LogicOperator × Condition)} (nonempty : steps ≠ [])
    (operator : LogicOperator) (last : Condition) :
    evaluateSteps context (steps ++ [(operator, last)])
      = (evaluateSteps context steps).join operator (last.evaluate context) := by
  obtain ⟨⟨other, first⟩, steps, rfl⟩ := List.exists_cons_of_ne_nil nonempty
  rw [List.cons_append, evaluateSteps_cons, evaluateSteps_cons]
  simp only [evaluateRest_concat, Evaluation.join, Evaluation.andThen_assoc]

/-- A condition that stands alone is evaluated, whatever operator is in front of it. -/
theorem evaluateSteps_singleton (operator : LogicOperator) (condition : Condition) :
    evaluateSteps context [(operator, condition)] = condition.evaluate context := by
  rw [evaluateSteps_cons]
  simp only [evaluateRest, Evaluation.andThen_plain]

/-! ### What is evaluated -/

theorem Evaluation.join_of_error {front last : Evaluation} {operator : LogicOperator}
    {error : ConditionError} (undecided : front.result = .error error) :
    front.join operator last = front := by
  obtain ⟨consulted, result⟩ := front
  subst undecided
  rfl

theorem Evaluation.join_of_open {front last : Evaluation} {operator : LogicOperator} {value : Bool}
    (decided : front.result = .ok value) (opened : operator.isOpen value) :
    front.join operator last = ⟨front.consulted ++ last.consulted, last.result⟩ := by
  simp only [join, andThen, decided, if_pos opened]

theorem Evaluation.join_of_closed {front last : Evaluation} {operator : LogicOperator}
    {value : Bool} (decided : front.result = .ok value) (closed : ¬ operator.isOpen value) :
    front.join operator last = front := by
  obtain ⟨consulted, result⟩ := front
  subst decided
  simp only [join, andThen, if_neg closed, plain, List.append_nil]

namespace Reading

variable {front : Reading} {operator : LogicOperator} {last : Condition}

theorem evaluated_of_error {error : ConditionError}
    (undecided : (front.evaluate context).result = .error error) :
    (joined front operator last).evaluated context = front.evaluated context := by
  rw [evaluated, undecided]

theorem evaluated_of_open {value : Bool} (decided : (front.evaluate context).result = .ok value)
    (opened : operator.isOpen value) :
    (joined front operator last).evaluated context = front.evaluated context ++ [last] := by
  rw [evaluated, decided]
  exact if_pos opened

theorem evaluated_of_closed {value : Bool} (decided : (front.evaluate context).result = .ok value)
    (closed : ¬ operator.isOpen value) :
    (joined front operator last).evaluated context = front.evaluated context := by
  rw [evaluated, decided]
  exact if_neg closed

/-- The predicates that are consulted are those of the conditions that are evaluated. -/
theorem consulted_evaluate (context : Context) (reading : Reading) :
    (reading.evaluate context).consulted
      = (reading.evaluated context).flatMap fun condition =>
          (condition.evaluate context).consulted := by
  induction reading with
  | first condition => exact (List.append_nil _).symm
  | joined front operator last ih =>
    rw [evaluate]
    cases decided : (front.evaluate context).result with
    | error error => rw [Evaluation.join_of_error decided, evaluated_of_error decided, ih]
    | ok value =>
      by_cases opened : operator.isOpen value
      · rw [Evaluation.join_of_open decided opened, evaluated_of_open decided opened,
          List.flatMap_append, List.flatMap_singleton, ← ih]
      · rw [Evaluation.join_of_closed decided opened, evaluated_of_closed decided opened, ih]

/-- The conditions of a reading that has a value all have values, as far as they are evaluated. -/
theorem exists_value_of_mem_evaluated {value : Bool}
    (decided : (reading.evaluate context).result = .ok value) :
    ∀ condition ∈ reading.evaluated context,
      ∃ value, (condition.evaluate context).result = .ok value := by
  induction reading generalizing value with
  | first condition =>
    intro other mem
    exact ⟨value, List.mem_singleton.1 mem ▸ decided⟩
  | joined front operator last ih =>
    rw [evaluate] at decided
    cases before : (front.evaluate context).result with
    | error error =>
      rw [Evaluation.join_of_error before, before] at decided
      cases decided
    | ok reached =>
      by_cases opened : operator.isOpen reached
      · rw [Evaluation.join_of_open before opened] at decided
        rw [evaluated_of_open before opened]
        intro condition mem
        rcases List.mem_append.1 mem with earlier | here
        · exact ih before condition earlier
        · exact ⟨value, List.mem_singleton.1 here ▸ decided⟩
      · rw [evaluated_of_closed before opened]
        exact ih before

/-- **An evaluation ends with the error of the first condition that is evaluated and has one.** No
other condition can make it fail. -/
theorem result_eq_error_iff {error : ConditionError} :
    (reading.evaluate context).result = .error error ↔
      ∃ earlier failing, reading.evaluated context = earlier ++ [failing]
        ∧ (∀ condition ∈ earlier, ∃ value, (condition.evaluate context).result = .ok value)
        ∧ (failing.evaluate context).result = .error error := by
  constructor
  · intro undecided
    induction reading with
    | first condition => exact ⟨[], condition, rfl, List.forall_mem_nil _, undecided⟩
    | joined front operator last ih =>
      rw [evaluate] at undecided
      cases before : (front.evaluate context).result with
      | error other =>
        rw [Evaluation.join_of_error before] at undecided
        rw [evaluated_of_error before]
        exact ih undecided
      | ok value =>
        by_cases opened : operator.isOpen value
        · rw [Evaluation.join_of_open before opened] at undecided
          exact ⟨_, last, evaluated_of_open before opened, exists_value_of_mem_evaluated before,
            undecided⟩
        · rw [Evaluation.join_of_closed before opened, before] at undecided
          cases undecided
  · rintro ⟨earlier, failing, listed, -, undecided⟩
    have mem : failing ∈ reading.evaluated context := by
      rw [listed]
      exact List.mem_append_right _ (List.mem_singleton_self _)
    induction reading generalizing earlier with
    | first condition =>
      rw [evaluate, ← List.mem_singleton.1 mem]
      exact undecided
    | joined front operator last ih =>
      rw [evaluate]
      cases before : (front.evaluate context).result with
      | error other =>
        rw [evaluated_of_error before] at listed mem
        rw [Evaluation.join_of_error before]
        exact ih earlier listed mem
      | ok value =>
        by_cases opened : operator.isOpen value
        · rw [evaluated_of_open before opened] at listed
          have same : last = failing := List.singleton_inj.1 (List.append_inj_right' listed rfl)
          rw [Evaluation.join_of_open before opened, same]
          exact undecided
        · rw [evaluated_of_closed before opened] at mem
          obtain ⟨reached, decided⟩ := exists_value_of_mem_evaluated before failing mem
          rw [decided] at undecided
          cases undecided

/-- When all conditions have values, looking at all of them gives the same. -/
theorem result_eq_truth {value : Condition → Bool}
    (decided : ∀ condition ∈ reading.conditions,
      (condition.evaluate context).result = .ok (value condition)) :
    (reading.evaluate context).result = .ok (reading.truth value) := by
  induction reading with
  | first condition => exact decided condition (List.mem_singleton_self _)
  | joined front operator last ih =>
    have before := ih fun condition mem => decided condition (List.mem_append_left _ mem)
    have here := decided last (List.mem_append_right _ (List.mem_singleton_self _))
    rw [evaluate, truth]
    by_cases opened : operator.isOpen (front.truth value)
    · rw [Evaluation.join_of_open before opened, here]
      cases operator <;> simp_all [LogicOperator.isOpen, LogicOperator.apply]
    · rw [Evaluation.join_of_closed before opened, before]
      cases operator <;> simp_all [LogicOperator.isOpen, LogicOperator.apply]

end Reading

/-! ### All calls -/

namespace Conditional

theorem built_concat (calls : List ConditionalCall) (call : ConditionalCall) :
    built (calls ++ [call]) = (built calls).after call := List.foldl_append

/-- The operator that a conditional keeps is the one that was selected last. -/
theorem pending_built (calls : List ConditionalCall) :
    (built calls).pending = lastSelected calls.reverse := by
  induction calls using List.reverseRecOn with
  | nil => rfl
  | append_singleton calls call _ =>
    rw [built_concat, List.reverse_append, List.reverse_singleton, List.singleton_append]
    cases call <;> rfl

/-- A conditional has a reading when it has a condition. -/
theorem steps_built_eq_nil_iff (calls : List ConditionalCall) :
    (built calls).steps = [] ↔ Reading.ofLatest? calls.reverse = none := by
  induction calls using List.reverseRecOn with
  | nil => exact ⟨fun _ => rfl, fun _ => rfl⟩
  | append_singleton calls call ih =>
    rw [built_concat, List.reverse_append, List.reverse_singleton, List.singleton_append]
    cases call with
    | select operator => exact ih
    | append condition =>
      have filled : ((built calls).after (.append condition)).steps ≠ [] :=
        List.append_ne_nil_of_right_ne_nil _ (List.cons_ne_nil _ _)
      refine iff_of_false filled ?_
      rw [Reading.ofLatest?]
      split <;> exact Option.some_ne_none _

/-- **A conditional is evaluated like its reading.** The induction takes the last call off: a
selection changes neither, and a condition is joined to the end of both. -/
theorem evaluate_built (context : Context) (calls : List ConditionalCall) :
    (built calls).evaluate context
      = match Reading.ofLatest? calls.reverse with
        | none => .plain (.ok true)
        | some reading => reading.evaluate context := by
  induction calls using List.reverseRecOn with
  | nil => rw [evaluate, built, List.foldl_nil, empty, evaluateSteps]; rfl
  | append_singleton calls call ih =>
    have decided := steps_built_eq_nil_iff calls
    have kept := pending_built calls
    rw [built_concat, List.reverse_append, List.reverse_singleton, List.singleton_append]
    cases call with
    | select operator => exact ih
    | append condition =>
      rw [Reading.ofLatest?, ← kept]
      cases read : Reading.ofLatest? calls.reverse with
      | none =>
        have alone := decided.2 read
        rw [evaluate, after, append, alone, List.nil_append, evaluateSteps_singleton]
        rfl
      | some front =>
        rw [read] at ih
        have nonempty : (built calls).steps ≠ [] := by
          intro none
          rw [decided.1 none] at read
          cases read
        rw [evaluate, after, append, evaluateSteps_concat nonempty]
        exact congrArg (Evaluation.join · _ _) ih

end Conditional

/-- The conditions of the reading of calls are those that the calls append. -/
theorem Reading.conditions_of_ofLatest? (calls : List ConditionalCall) :
    ((Reading.ofLatest? calls.reverse).map Reading.conditions).getD []
      = ConditionalCall.conditions calls := by
  induction calls using List.reverseRecOn with
  | nil => rfl
  | append_singleton calls call ih =>
    rw [List.reverse_append, List.reverse_singleton, List.singleton_append,
      ConditionalCall.conditions, List.filterMap_append]
    cases call with
    | select operator =>
      rw [Reading.ofLatest?, ih]
      exact (List.append_nil _).symm
    | append condition =>
      rw [Reading.ofLatest?]
      cases read : Reading.ofLatest? calls.reverse with
      | none =>
        rw [read] at ih
        exact congrArg (· ++ [condition]) ih
      | some front =>
        rw [read] at ih
        exact congrArg (· ++ [condition]) ih

namespace Conditional

/-- **A conditional is read from the left**, however it was put together. Without a condition it is
true. Otherwise it is evaluated like the reading `((c₁ op₂ c₂) op₃ c₃) …` of the calls:

* predicates are consulted for the conditions that are evaluated, and for no other;
* it has an error exactly when the last of these has that error and all others have values;
* when all conditions have values, it has the value of all of them joined.

A conditional inside another one is evaluated in the same way; its negation negates the value. -/
theorem evaluate_built_reading (context : Context) (calls : List ConditionalCall) :
    (ConditionalCall.conditions calls = [] → (built calls).evaluate context = .plain (.ok true))
      ∧ (ConditionalCall.conditions calls ≠ [] →
        ∃ reading, Reading.ofLatest? calls.reverse = some reading
          ∧ reading.conditions = ConditionalCall.conditions calls
          ∧ (built calls).evaluate context = reading.evaluate context
          ∧ (reading.evaluate context).consulted
            = (reading.evaluated context).flatMap (fun condition =>
                (condition.evaluate context).consulted)
          ∧ (∀ error, (reading.evaluate context).result = .error error ↔
              ∃ earlier failing, reading.evaluated context = earlier ++ [failing]
                ∧ (∀ condition ∈ earlier, ∃ value, (condition.evaluate context).result = .ok value)
                ∧ (failing.evaluate context).result = .error error)
          ∧ ∀ value : Condition → Bool,
              (∀ condition ∈ ConditionalCall.conditions calls,
                (condition.evaluate context).result = .ok (value condition)) →
              (reading.evaluate context).result = .ok (reading.truth value))
      ∧ (Condition.all (built calls)).evaluate context = (built calls).evaluate context
      ∧ (Condition.not (.all (built calls))).evaluate context
        = ⟨((built calls).evaluate context).consulted,
            ((built calls).evaluate context).result.map (!·)⟩ := by
  have evaluated := evaluate_built context calls
  have listed := Reading.conditions_of_ofLatest? calls
  have nested : (Condition.all (built calls)).evaluate context
      = (built calls).evaluate context := by
    rw [Condition.evaluate.eq_def]
    rfl
  refine ⟨fun empty => ?_, fun nonempty => ?_, nested, ?_⟩
  · cases read : Reading.ofLatest? calls.reverse with
    | none => rw [evaluated, read]
    | some reading =>
      rw [read, Option.map_some, Option.getD_some, empty] at listed
      cases reading <;> simp [Reading.conditions] at listed
  · cases read : Reading.ofLatest? calls.reverse with
    | none =>
      rw [read] at listed
      exact absurd listed.symm nonempty
    | some reading =>
      rw [read] at evaluated listed
      refine ⟨reading, rfl, listed, evaluated, reading.consulted_evaluate context,
        fun _ => Reading.result_eq_error_iff, fun value decided => ?_⟩
      exact Reading.result_eq_truth fun condition mem => decided condition (listed ▸ mem)
  · rw [Condition.evaluate, nested]

/-- A context with one property. -/
def hostContext : Context := ⟨Store.ofTable [("host", "edge")], .none, some []⟩

/-- Calls with operators in front, repeated and left over. The second condition has no value, the
third one is a negated conditional. -/
def crowdedCalls : List ConditionalCall :=
  [.select .or, .append (.property "host"), .select .and, .select .or,
    .append (.expression "$\x7bgone\x7d"),
    .append (.not (.all (built [.append (.predicate "inner" fun _ => true)]))),
    .select .or, .append (.predicate "last" fun _ => true), .select .or]

theorem evaluate_built_reading_crowdedCalls :
    ConditionalCall.conditions crowdedCalls ≠ []
      ∧ ((Condition.expression "$\x7bgone\x7d").evaluate hostContext).result
        = .error (.resolve (.notExist "gone" []))
      ∧ (built crowdedCalls).evaluate hostContext = ⟨["inner", "last"], .ok true⟩ := by
  have nonempty : ConditionalCall.conditions crowdedCalls ≠ [] := List.cons_ne_nil _ _
  obtain ⟨reading, read, -, same, -⟩ :=
    (evaluate_built_reading hostContext crowdedCalls).2.1 nonempty
  cases read
  have failed : ((Condition.expression "$\x7bgone\x7d").evaluate hostContext).result
      = .error (.resolve (.notExist "gone" [])) := by with_unfolding_all rfl
  exact ⟨nonempty, failed, same.trans (by with_unfolding_all rfl)⟩

end Conditional

end TypedConfig
