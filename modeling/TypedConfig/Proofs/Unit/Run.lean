import Mathlib
import TypedConfig.Proofs.Unit.Cycle
import TypedConfig.Unit.Run

/-!
# What happens when a graph is run

The units of a graph take their turns in the sorted order, up to the first that fails. What a unit
does in its turn depends on nothing but the unit, the binder and the context.

* `Fails`: the three ways in which the turn of a unit ends the run.
* `events`: what is seen of a turn. The parameters of a unit are bound when its conditions hold, and
  its function is called when they all have values.
* `runUnits_cons_of_fails`, `runUnits_cons_of_not_fails`: one turn.
* `runUnits_append_of_not_fails`, `runUnits_of_not_fails`: the turns of units of which none fails, in
  front of others and alone, by induction on the units.
* `run_eq_of_agreeWhereRun`: the parameters of a unit that is skipped play no part.
* `run_follows_order`: all of it, for whole graphs.
-/

namespace TypedConfig

namespace ConfigUnit

/-! ### One turn -/

/-- The conditions of a unit hold. -/
def holds (unit : ConfigUnit) (context : Context) : Bool :=
  match (unit.condition.evaluate context).result with
  | .ok value => value
  | .error _ => false

/-- The value of the parameter at an index, bound from its tag. -/
def argument (unit : ConfigUnit) (binder : Binder) (context : Context)
    (parameter : (Text × Described Value) × Nat) : Except PropertyError Value := do
  let target ← Target.ofTag? parameter.1.1 (parameterPath unit.name parameter.2)
  binder.bindTarget parameter.1.2 context.properties target

/-- The values of the parameters in the order of their tags, or the error of the first that has
none. -/
def arguments (unit : ConfigUnit) (binder : Binder) (context : Context) :
    Except PropertyError (List Value) :=
  (unit.tags.zip unit.parameters).zipIdx.mapM (unit.argument binder context)

/-- The turn of a unit ends the run: its conditions have no value, or they hold and a parameter has
no value, or the function that is called with the values of the parameters reports an error. -/
inductive Fails (binder : Binder) (context : Context) (unit : ConfigUnit) : UnitError → Prop
  | condition {error : ConditionError}
      (undecided : (unit.condition.evaluate context).result = .error error) :
      Fails binder context unit (.condition unit.name error)
  | binding {error : PropertyError} (holds : unit.holds context)
      (unbound : unit.arguments binder context = .error error) :
      Fails binder context unit (.binding unit.name error)
  | execution {values : List Value} {message : Text} (holds : unit.holds context)
      (bound : unit.arguments binder context = .ok values)
      (reported : unit.action values = .error message) :
      Fails binder context unit (.execution unit.name message)

/-- The arguments with which the function of a unit is called in its turn, if it is. -/
def call? (unit : ConfigUnit) (binder : Binder) (context : Context) : Option (List Value) :=
  if unit.holds context then (unit.arguments binder context).toOption else none

/-- What is seen of the turn of a unit: the predicates that its conditions consult, and the call of
its function. -/
def events (unit : ConfigUnit) (binder : Binder) (context : Context) : List Event :=
  (unit.condition.evaluate context).consulted.map .consulted
    ++ (unit.call? binder context).toList.map (.called unit.name)

theorem holds_iff {unit : ConfigUnit} {context : Context} :
    unit.holds context ↔ (unit.condition.evaluate context).result = .ok true := by
  unfold holds
  split
  next value decided => rw [decided, Except.ok.injEq]
  next error undecided => simp [undecided]

/-- A unit whose turn does not end the run has conditions with a value. -/
theorem decided_of_not_fails {unit : ConfigUnit} {binder : Binder} {context : Context}
    (passes : ∀ error, ¬ unit.Fails binder context error) :
    (unit.condition.evaluate context).result = .ok (unit.holds context) := by
  unfold holds
  cases decided : (unit.condition.evaluate context).result with
  | ok value => rfl
  | error error => exact absurd (.condition decided) (passes _)

theorem bindParameters_eq_mapM (unit : ConfigUnit) (binder : Binder) (context : Context)
    (index : Nat) (parameters : List (Text × Described Value)) :
    bindParameters binder context.properties unit.name index parameters
      = (parameters.zipIdx index).mapM (unit.argument binder context) := by
  induction parameters generalizing index with
  | nil => rfl
  | cons parameter parameters ih =>
    obtain ⟨tag, described⟩ := parameter
    rw [List.zipIdx_cons, List.mapM_cons, ← ih, bindParameters, argument]
    cases Target.ofTag? tag (parameterPath unit.name index) with
    | error error => rfl
    | ok target =>
      dsimp only [Bind.bind, Except.bind]
      cases binder.bindTarget described context.properties target with
      | error error => rfl
      | ok value =>
        dsimp only
        cases bindParameters binder context.properties unit.name (index + 1) parameters <;> rfl

theorem execute_eq (unit : ConfigUnit) (binder : Binder) (context : Context) :
    unit.execute binder context.properties
      = match unit.arguments binder context with
        | .error error => ([], .error (.binding unit.name error))
        | .ok values =>
          ([.called unit.name values], (unit.action values).mapError (.execution unit.name)) := by
  have bound := unit.bindParameters_eq_mapM binder context 0 (unit.tags.zip unit.parameters)
  unfold execute arguments
  generalize bindParameters binder context.properties unit.name 0 _ = values at bound ⊢
  subst bound
  rfl

end ConfigUnit

/-- The report of a run that goes on with units, each of which is run or skipped. -/
def RunReport.after (report : RunReport) (units : List ConfigUnit) (context : Context) :
    RunReport where
  executed := report.executed ++ (units.filter (·.holds context)).map ConfigUnit.name
  skipped := report.skipped ++ (units.filter (!·.holds context)).map ConfigUnit.name

theorem RunReport.after_nil (report : RunReport) (context : Context) :
    report.after [] context = report := by simp [after]

theorem RunReport.after_cons (report : RunReport) (unit : ConfigUnit) (units : List ConfigUnit)
    (context : Context) :
    report.after (unit :: units) context = (report.after [unit] context).after units context := by
  unfold after
  cases holds : unit.holds context <;> simp [holds]

namespace UnitGraph

open ConfigUnit (Event)

variable {binder : Binder} {context : Context} {unit : ConfigUnit} {units : List ConfigUnit}
  {report : RunReport}

/-! ### Many turns -/

/-- A unit that fails ends the run, whatever comes behind it. -/
theorem runUnits_cons_of_fails {error : UnitError} (fails : unit.Fails binder context error) :
    runUnits binder context report (unit :: units)
      = (unit.events binder context, .error error) := by
  rw [runUnits, ConfigUnit.admitted, ConfigUnit.events, ConfigUnit.call?]
  cases fails with
  | condition undecided => simp [ConfigUnit.holds, undecided, Except.mapError]
  | binding holds unbound =>
    have decided := ConfigUnit.holds_iff.1 holds
    simp [decided, holds, ConfigUnit.execute_eq, unbound, Except.mapError, Except.toOption]
  | execution holds bound reported =>
    have decided := ConfigUnit.holds_iff.1 holds
    simp [decided, holds, ConfigUnit.execute_eq, bound, reported, Except.mapError, Except.toOption]

/-- A unit that does not fail is run or skipped, and the others take their turns. -/
theorem runUnits_cons_of_not_fails (passes : ∀ error, ¬ unit.Fails binder context error) :
    runUnits binder context report (unit :: units)
      = (unit.events binder context
          ++ (runUnits binder context (report.after [unit] context) units).1,
        (runUnits binder context (report.after [unit] context) units).2) := by
  have decided := ConfigUnit.decided_of_not_fails passes
  rw [runUnits, ConfigUnit.admitted, ConfigUnit.events, ConfigUnit.call?, RunReport.after]
  cases holds : unit.holds context with
  | false =>
    rw [holds] at decided
    simp [decided, holds, Except.mapError]
  | true =>
    rw [holds] at decided
    cases bound : unit.arguments binder context with
    | error error => exact absurd (.binding holds bound) (passes _)
    | ok values =>
      cases answered : unit.action values with
      | error message => exact absurd (.execution holds bound answered) (passes _)
      | ok answer =>
        simp [decided, holds, ConfigUnit.execute_eq, bound, answered, Except.mapError,
          Except.toOption]

/-- Units that do not fail are passed in their order. -/
theorem runUnits_append_of_not_fails {front : List ConfigUnit} (back : List ConfigUnit)
    (passes : ∀ earlier ∈ front, ∀ error, ¬ earlier.Fails binder context error) :
    runUnits binder context report (front ++ back)
      = (front.flatMap (·.events binder context)
          ++ (runUnits binder context (report.after front context) back).1,
        (runUnits binder context (report.after front context) back).2) := by
  induction front generalizing report with
  | nil => rw [RunReport.after_nil]; rfl
  | cons unit front ih =>
    rw [List.cons_append, runUnits_cons_of_not_fails (passes unit List.mem_cons_self),
      ih fun earlier mem => passes earlier (List.mem_cons_of_mem _ mem), ← RunReport.after_cons,
      List.flatMap_cons, List.append_assoc]

/-- Units of which none fails are all passed. -/
theorem runUnits_of_not_fails
    (passes : ∀ unit ∈ units, ∀ error, ¬ unit.Fails binder context error) :
    runUnits binder context report units
      = (units.flatMap (·.events binder context), .ok (report.after units context)) := by
  have ran : runUnits binder context report (units ++ []) = _ :=
    runUnits_append_of_not_fails [] passes
  rw [List.append_nil] at ran
  rw [ran, runUnits, List.append_nil]

/-! ### Calls -/

/-- The names of the units whose functions are called. -/
def calledNames (events : List Event) : List Text :=
  events.filterMap fun event => match event with
    | .called name _ => some name
    | .consulted _ => none

theorem calledNames_append (front back : List Event) :
    calledNames (front ++ back) = calledNames front ++ calledNames back :=
  List.filterMap_append

theorem calledNames_events (unit : ConfigUnit) (binder : Binder) (context : Context) :
    calledNames (unit.events binder context)
      = if (unit.call? binder context).isSome then [unit.name] else [] := by
  have consulted (labels : List Text) : calledNames (labels.map Event.consulted) = [] := by
    induction labels with
    | nil => rfl
    | cons label labels ih => exact ih
  rw [ConfigUnit.events, calledNames_append, consulted, List.nil_append]
  cases unit.call? binder context <;> rfl

/-- Of the units that do not fail, those are called whose conditions hold. -/
theorem calledNames_flatMap_events
    (passes : ∀ unit ∈ units, ∀ error, ¬ unit.Fails binder context error) :
    calledNames (units.flatMap (·.events binder context))
      = (units.filter (·.holds context)).map ConfigUnit.name := by
  induction units with
  | nil => rfl
  | cons unit units ih =>
    have called : (unit.call? binder context).isSome = unit.holds context := by
      unfold ConfigUnit.call?
      cases holds : unit.holds context with
      | false => rfl
      | true =>
        cases bound : unit.arguments binder context with
        | error error => exact absurd (.binding holds bound) (passes unit List.mem_cons_self _)
        | ok values => rfl
    rw [List.flatMap_cons, calledNames_append, calledNames_events, called,
      ih fun unit mem => passes unit (List.mem_cons_of_mem _ mem), List.filter_cons]
    split <;> rfl

/-! ### Whole graphs -/

/-- The units in the order of a list of names. -/
def inOrder (graph : UnitGraph) (order : List Text) : List ConfigUnit :=
  order.filterMap graph.find?

theorem exists_find?_of_mem {graph : UnitGraph} {name : Text} (mem : name ∈ graph.names) :
    ∃ unit, graph.find? name = some unit ∧ unit.name = name := by
  obtain ⟨unit, registered, rfl⟩ := List.mem_map.1 mem
  exact ⟨unit, find?_eq_some_of_mem registered, rfl⟩

theorem map_name_inOrder {graph : UnitGraph} {order : List Text}
    (listed : ∀ name ∈ order, name ∈ graph.names) :
    (graph.inOrder order).map ConfigUnit.name = order := by
  induction order with
  | nil => rfl
  | cons name order ih =>
    obtain ⟨unit, found, named⟩ := exists_find?_of_mem (listed name List.mem_cons_self)
    have rest := ih fun name mem => listed name (List.mem_cons_of_mem _ mem)
    rw [inOrder, List.filterMap_cons_some found, List.map_cons, named]
    exact congrArg _ rest

theorem inOrder_names (graph : UnitGraph) : graph.inOrder graph.names = graph.units := by
  have found : ∀ unit ∈ graph.units, graph.find? unit.name = some unit :=
    fun unit mem => find?_eq_some_of_mem mem
  rw [inOrder, names, List.filterMap_map]
  exact (List.filterMap_congr found).trans List.filterMap_some

/-- The sorted order holds every unit once. -/
theorem inOrder_perm_units {graph : UnitGraph} {order : List Text}
    (sorted : graph.sortedNames = .ok order) : (graph.inOrder order).Perm graph.units := by
  rw [← graph.inOrder_names]
  exact (perm_names_of_sortedNames sorted).filterMap _

/-! ### Units that are skipped -/

/-- Two units are ordered and admitted alike, and are the same where their conditions hold. -/
structure AgreeWhereRun (context : Context) (first second : ConfigUnit) : Prop where
  name : first.name = second.name
  before : first.before = second.before
  after : first.after = second.after
  condition : first.condition = second.condition
  same : first.holds context → first = second

theorem runUnits_eq_of_agreeWhereRun {units' : List ConfigUnit}
    (agree : List.Forall₂ (AgreeWhereRun context) units units') :
    runUnits binder context report units' = runUnits binder context report units := by
  induction agree generalizing report with
  | nil => rfl
  | @cons unit unit' units units' head _ ih =>
    cases holds : unit.holds context with
    | true =>
      obtain rfl := head.same holds
      unfold runUnits
      simp only [ih]
    | false =>
      have admitted : unit'.admitted context = unit.admitted context := by
        rw [ConfigUnit.admitted, ConfigUnit.admitted, head.condition, head.name]
      rw [runUnits, runUnits, admitted, ConfigUnit.admitted]
      cases decided : (unit.condition.evaluate context).result with
      | error error => rfl
      | ok value =>
        cases value with
        | false => simp only [Except.mapError, ih, head.name]
        | true => exact absurd (ConfigUnit.holds_iff.2 decided) (by simp [holds])

/-- The parameters and the function of a unit whose conditions do not hold play no part. -/
theorem run_eq_of_agreeWhereRun {graph other : UnitGraph}
    (agree : List.Forall₂ (AgreeWhereRun context) graph.units other.units) :
    other.run binder context = graph.run binder context := by
  have among : List.Forall₂ (AgreeAmong graph.names) graph.units other.units :=
    agree.imp fun _ _ alike =>
      ⟨alike.name, fun _ _ => by rw [alike.before], fun _ _ => by rw [alike.after]⟩
  have names : other.names = graph.names := names_eq_of_agree among
  have length : other.units.length = graph.units.length := agree.length_eq.symm
  have sorted : other.sortedNames = graph.sortedNames := by
    rw [sortedNames, sortedNames, predecessors_eq_of_agree among, names, length]
  rw [run, run, sorted]
  cases graph.sortedNames with
  | error error => rfl
  | ok order =>
    refine runUnits_eq_of_agreeWhereRun ?_
    induction order with
    | nil => exact .nil
    | cons name order ih =>
      rw [List.filterMap_cons, List.filterMap_cons, find?, find?]
      rcases find?_of_agree (fun _ _ alike => alike.name) agree name with
        ⟨missing, missing'⟩ | ⟨unit, unit', found, found', alike, -⟩
      · rw [missing, missing']
        exact ih
      · rw [found, found']
        exact .cons alike ih

/-- **A run follows the sorted order up to the first unit that fails.** A graph that cannot be
sorted is not run at all. Otherwise, with the units in their order:

* up to a first unit that fails, the conditions of all units are looked at and the functions of
  those whose conditions hold are called, in order; then the conditions of that unit, and its
  function if it gets so far. Its error is the result, and the units behind it play no part.
* When no unit fails, the report lists the units that were called and those that were skipped, in
  order, each unit once.

The parameters and the function of a unit whose conditions do not hold play no part. -/
theorem run_follows_order (graph : UnitGraph) (binder : Binder) (context : Context) :
    (∀ error, graph.sortedNames = .error error →
      (∃ chain, error = .cycle chain) ∧ graph.run binder context = ([], .error error))
    ∧ (∀ order, graph.sortedNames = .ok order →
      (graph.inOrder order).Perm graph.units
        ∧ (graph.inOrder order).map ConfigUnit.name = order
        ∧ (∀ front unit back error, graph.inOrder order = front ++ unit :: back →
            (∀ earlier ∈ front, ∀ error, ¬ earlier.Fails binder context error) →
            unit.Fails binder context error →
              graph.run binder context
                = ((front ++ [unit]).flatMap (·.events binder context), .error error)
              ∧ calledNames (graph.run binder context).1
                = (front.filter (·.holds context)).map ConfigUnit.name
                  ++ if (unit.call? binder context).isSome then [unit.name] else [])
        ∧ ((∀ unit ∈ graph.inOrder order, ∀ error, ¬ unit.Fails binder context error) →
            ∃ report, graph.run binder context
                = ((graph.inOrder order).flatMap (·.events binder context), .ok report)
              ∧ calledNames (graph.run binder context).1 = report.executed
              ∧ report.executed
                = ((graph.inOrder order).filter (·.holds context)).map ConfigUnit.name
              ∧ report.skipped
                = ((graph.inOrder order).filter (!·.holds context)).map ConfigUnit.name
              ∧ (report.executed ++ report.skipped).Perm graph.names))
    ∧ ∀ other : UnitGraph, List.Forall₂ (AgreeWhereRun context) graph.units other.units →
      other.run binder context = graph.run binder context := by
  refine ⟨fun error unsorted => ?_, fun order sorted => ?_, fun _ => run_eq_of_agreeWhereRun⟩
  · obtain ⟨chain, same, -⟩ := exists_closedChain_of_sortedNames unsorted
    exact ⟨⟨chain, same⟩, by rw [run, unsorted]⟩
  · have perm := inOrder_perm_units sorted
    have listed : ∀ name ∈ order, name ∈ graph.names :=
      fun name mem => (perm_names_of_sortedNames sorted).mem_iff.1 mem
    have started : graph.run binder context
        = runUnits binder context ⟨[], []⟩ (graph.inOrder order) := by
      rw [run, sorted]
      rfl
    refine ⟨perm, map_name_inOrder listed, ?_, fun passes => ?_⟩
    · rintro front unit back error same passes fails
      have ran : graph.run binder context
          = ((front ++ [unit]).flatMap (·.events binder context), .error error) := by
        rw [started, same, runUnits_append_of_not_fails _ passes, runUnits_cons_of_fails fails]
        simp
      refine ⟨ran, ?_⟩
      rw [ran, List.flatMap_append, calledNames_append, calledNames_flatMap_events passes,
        List.flatMap_singleton, calledNames_events]
    · have ran := started.trans (runUnits_of_not_fails passes)
      refine ⟨_, ran, ?_, rfl, rfl, ?_⟩
      · rw [ran]
        exact calledNames_flatMap_events passes
      · have both := (List.filter_append_perm (·.holds context) (graph.inOrder order)).trans perm
        have names := both.map ConfigUnit.name
        rwa [List.map_append] at names

/-! ### A run that fails -/

/-- A context in which a host is configured. -/
def hostContext : Context := ⟨Store.ofTable [("host", "edge")], .none, some []⟩

/-- The type of the parameter of a unit. -/
def hostType : Described Value := (Shape.scalar "String" .string).described []

/-- A unit that is called with the host. -/
def serveUnit : ConfigUnit :=
  ⟨"serve", ["$\x7bhost\x7d"], [hostType], fun _ => .ok (), .empty, [], []⟩

/-- A unit that is skipped; its tag could not be read. -/
def mirrorUnit : ConfigUnit :=
  ⟨"mirror", ["$\x7bhost"], [hostType], fun _ => .ok (),
    Conditional.empty.append (.property "mirror"), ["serve"], []⟩

/-- A unit whose function reports an error. -/
def reportUnit : ConfigUnit :=
  ⟨"report", [], [], fun _ => .error "disk full", .empty, [], ["serve"]⟩

/-- A unit that is not reached; its condition would consult a predicate. -/
def cleanUnit : ConfigUnit :=
  ⟨"clean", [], [], fun _ => .ok (),
    Conditional.empty.append (.predicate "idle" fun _ => true), [], ["report"]⟩

/-- These units, in another order than that in which they can be run. -/
def serverGraph : UnitGraph := ⟨[cleanUnit, reportUnit, serveUnit, mirrorUnit], by decide⟩

/-- The order in which they take their turns. -/
def serverOrder : List Text := ["mirror", "serve", "report", "clean"]

theorem arguments_serveUnit :
    serveUnit.arguments .standard hostContext = .ok [.string "edge"] := by cbv

theorem run_follows_order_serverGraph :
    serverGraph.sortedNames = .ok serverOrder
      ∧ serverGraph.inOrder serverOrder = [mirrorUnit, serveUnit] ++ reportUnit :: [cleanUnit]
      ∧ (∀ earlier ∈ [mirrorUnit, serveUnit], ∀ error,
          ¬ earlier.Fails .standard hostContext error)
      ∧ reportUnit.Fails .standard hostContext (.execution "report" "disk full")
      ∧ serverGraph.run .standard hostContext
        = ([.called "serve" [.string "edge"], .called "report" []],
          .error (.execution "report" "disk full"))
      ∧ calledNames (serverGraph.run .standard hostContext).1 = ["serve", "report"] := by
  have sorted : serverGraph.sortedNames = .ok serverOrder := rfl
  have units : serverGraph.inOrder serverOrder
      = [mirrorUnit, serveUnit] ++ reportUnit :: [cleanUnit] := rfl
  have fails : reportUnit.Fails .standard hostContext (.execution "report" "disk full") :=
    .execution rfl rfl rfl
  have passes : ∀ earlier ∈ [mirrorUnit, serveUnit], ∀ error,
      ¬ earlier.Fails .standard hostContext error := by
    intro earlier mem error fails
    simp only [List.mem_cons, List.not_mem_nil, or_false] at mem
    rcases mem with rfl | rfl
    · cases fails with
      | condition undecided => cases undecided
      | binding holds | execution holds => cases holds
    · cases fails with
      | condition undecided => cases undecided
      | binding holds unbound => cases arguments_serveUnit.symm.trans unbound
      | execution holds bound reported => cases reported
  have seen : ([mirrorUnit, serveUnit] ++ [reportUnit]).flatMap (·.events .standard hostContext)
      = [.called "serve" [.string "edge"], .called "report" []] := by
    have served : serveUnit.call? .standard hostContext = some [.string "edge"] := by
      rw [ConfigUnit.call?, arguments_serveUnit]
      rfl
    simp only [List.cons_append, List.nil_append, List.flatMap_cons, List.flatMap_nil,
      ConfigUnit.events, served]
    rfl
  have follows := (run_follows_order serverGraph .standard hostContext).2.1 _ sorted
  obtain ⟨ran, called⟩ := follows.2.2.1 _ _ _ _ units passes fails
  exact ⟨sorted, units, passes, fails, seen ▸ ran, called⟩

end UnitGraph

end TypedConfig
