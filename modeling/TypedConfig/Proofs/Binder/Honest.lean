import TypedConfig.Proofs.Except
import TypedConfig.Proofs.Source.Mirror

/-!
# Errors that can be trusted

An error of a binding names the place where it arose, and what it calls missing is missing. Errors
come out of placeholders, tags and stores without a path and are given one on their way; these are
the lemmas for each of these ways.

* `Honest`: an error that is no conflict, stands at a path and tells the truth about missing keys.
* `Honest.atPath`: filling in the path of an error without one.
* `honest_of_expand`: the errors of placeholders, at whatever level they arise, have no path.
* `honest_of_bindLeaf`, `honest_of_elementSource`, `honest_of_memberNames`, `honest_of_finished`:
  the errors of a place itself stand at its path.
* `has_of_elementSource`: what is missing where elements are found is missing in the source.
-/

namespace TypedConfig

/-- An error at a path that is no conflict, and that calls no key missing which the source has. -/
structure PropertyError.Honest (error : PropertyError) (source : Source) (path : Text) : Prop where
  unconflicted : error.kind ≠ .propertyConflict
  located : error.path = path
  absent : ∀ key place, error = .notExist key place → ¬ source.has key

open PropertyError (Honest)

variable {source view : Source} {error : PropertyError} {path : Text} {target : Target}

/-! ### The path of an error -/

/-- The errors that are no conflicts and call nothing missing. -/
def PropertyError.IsPlain : PropertyError → Prop
  | notExist _ _ | conflict _ _ => False
  | malformed _ _ _ | conversion _ _ _ _ _ | validation _ _ _ _ _ _ | unsupported _ _ _
  | split _ _ _ _ => True

theorem PropertyError.IsPlain.honest (plain : error.IsPlain) : error.Honest source error.path where
  unconflicted same := by
    cases error <;> cases same
    exact plain
  located := rfl
  absent key place same := by
    subst same
    exact plain.elim

theorem PropertyError.honest_notExist {key : Text} (absent : ¬ source.has key) (path : Text) :
    (PropertyError.notExist key path).Honest source path where
  unconflicted same := by cases same
  located := rfl
  absent _ _ same := by
    cases same
    exact absent

namespace PropertyError.Honest

/-- An error without a path takes the one that is filled in; an error that has it already keeps
it. -/
theorem atPath {here : Text} (honest : error.Honest source here) (path : Text)
    (placed : here = [] ∨ here = path) : (error.atPath path).Honest source path where
  unconflicted := by
    rw [kind_atPath]
    exact honest.unconflicted
  located := by
    rw [path_atPath, if_neg honest.unconflicted, honest.located]
    rcases placed with rfl | rfl
    · rfl
    · exact ite_self _
  absent key place same := by
    cases error with
    | notExist missing here =>
      have named : missing = key := by
        cases here <;> cases same <;> rfl
      exact named ▸ honest.absent missing here rfl
    | malformed _ _ here | conversion _ here | validation _ here | unsupported _ here
    | split _ here => cases here <;> cases same
    | conflict => cases same

/-- What is missing in a view that has more is missing in the source. -/
theorem of_view (honest : error.Honest view path) (more : ∀ key, source.has key → view.has key) :
    error.Honest source path :=
  ⟨honest.unconflicted, honest.located,
    fun key place same present => honest.absent key place same (more key present)⟩

end PropertyError.Honest

/-! ### Placeholders -/

namespace Placeholder

theorem honest_of_applyTag? {text : Text} {rules : List Rule}
    (failed : target.applyTag? text rules = .error error) : error.Honest source [] := by
  rw [Target.applyTag?] at failed
  split at failed
  next => cases failed
  next =>
    cases failed
    exact PropertyError.IsPlain.honest trivial

theorem path_of_applyTag? {child : Target} {text : Text} {rules : List Rule}
    (read : target.applyTag? text rules = .ok child) : child.path = target.path := by
  rw [Target.applyTag?] at read
  split at read
  next =>
    cases read
    rfl
  next => cases read

theorem honest_of_expandWith {refer : Text → Except PropertyError Text} {whole text : Text}
    (answers : ∀ body error, refer body = .error error → error.Honest source [])
    (failed : expandWith refer whole text = .error error) : error.Honest source [] := by
  rcases cases_of_expandWith_error failed with ⟨unclosed, rfl⟩ | ⟨body, answered⟩
  · exact PropertyError.IsPlain.honest trivial
  · exact answers body error answered

/-- A look-up fails with the error of a text that it expands, or because there is no text. -/
theorem honest_of_lookUp {expand : Text → Except PropertyError Text}
    (expands : ∀ text error, expand text = .error error → error.Honest source [])
    (failed : lookUp source expand target = .error error) :
    error.Honest source [] ∨ error.Honest source target.path := by
  unfold lookUp at failed
  split at failed
  next value stored => exact .inl (expands value error failed)
  next =>
    split at failed
    next fallback given => exact .inl (expands fallback error failed)
    next =>
      split at failed
      next => cases failed
      next absent =>
        cases failed
        exact .inr (PropertyError.honest_notExist absent _)

/-- **The errors of placeholders have no path**, however many look-ups lie around them. -/
theorem honest_of_expand (levels : Nat) {text : Text}
    (failed : expand source levels text = .error error) : error.Honest source [] := by
  induction levels generalizing text error with
  | zero =>
    rw [expand_eq] at failed
    refine honest_of_expandWith (fun body other answered => ?_) failed
    rw [answer] at answered
    cases read : Target.ofTag? (span body) [] with
    | error fault =>
      rw [read] at answered
      cases answered
      exact honest_of_applyTag? read
    | ok target =>
      rw [read] at answered
      cases answered
      exact PropertyError.IsPlain.honest trivial
  | succ levels ih =>
    rw [expand_eq] at failed
    refine honest_of_expandWith (fun body other answered => ?_) failed
    rw [answer] at answered
    cases read : Target.ofTag? (span body) [] with
    | error fault =>
      rw [read] at answered
      cases answered
      exact honest_of_applyTag? read
    | ok target =>
      rw [read] at answered
      have unplaced : target.path = [] := path_of_applyTag? read
      have looked := honest_of_lookUp (fun text error => ih) answered
      rwa [unplaced, or_self] at looked

theorem honest_of_resolve (failed : resolve source target = .error error) :
    (error.atPath target.path).Honest source target.path := by
  rcases honest_of_lookUp (fun text error => honest_of_expand nestingLimit) failed with
    unplaced | placed
  · exact unplaced.atPath _ (.inl rfl)
  · exact placed.atPath _ (.inr rfl)

end Placeholder

namespace Binder

variable {binder : Binder} {value : Value} {shape : Shape}

/-! ### Rules -/

theorem honest_of_checkRule {rule : Rule}
    (failed : binder.checkRule target value rule = .error error) :
    error.Honest source target.path := by
  unfold checkRule at failed
  split at failed
  next =>
    cases failed
    exact PropertyError.IsPlain.honest trivial
  next =>
    split at failed
    next => cases failed
    next =>
      cases failed
      exact PropertyError.IsPlain.honest trivial
    next =>
      cases failed
      exact PropertyError.IsPlain.honest trivial

theorem honest_of_checkRules {rules : List Rule}
    (failed : binder.checkRules target value rules = .error error) :
    error.Honest source target.path := by
  induction rules with
  | nil => cases failed
  | cons rule rules ih =>
    unfold checkRules at failed
    split at failed
    next => exact ih failed
    next other here =>
      cases failed
      exact honest_of_checkRule here

theorem honest_of_validated (failed : binder.validated target value = .error error) :
    error.Honest source target.path :=
  honest_of_checkRules (eq_error_of_map_eq_error failed)

theorem honest_of_finished (failed : binder.finished target value = .error error) :
    error.Honest source target.path := by
  unfold finished at failed
  split at failed
  next => exact honest_of_validated failed
  next => cases failed

/-! ### Leaves -/

theorem honest_of_bindLeaf (failed : binder.bindLeaf source shape target = .error error) :
    error.Honest source target.path := by
  unfold bindLeaf at failed
  split at failed
  next other unresolved =>
    cases failed
    exact Placeholder.honest_of_resolve unresolved
  next text resolved =>
    split at failed
    next =>
      cases failed
      exact PropertyError.IsPlain.honest trivial
    next convert given =>
      split at failed
      next =>
        cases failed
        exact PropertyError.IsPlain.honest trivial
      next => exact honest_of_validated failed

/-! ### Elements and members -/

theorem honest_of_sequenceText
    (failed : binder.sequenceText source shape target = .error error) :
    error.Honest source target.path := by
  unfold sequenceText at failed
  split at failed
  next => cases failed
  next absent =>
    split at failed
    next =>
      cases failed
      exact PropertyError.honest_notExist absent _
    next =>
      split_ifs at failed
      cases failed
      exact PropertyError.IsPlain.honest trivial

theorem honest_of_sequenceParts {text : Text}
    (failed : binder.sequenceParts target text = .error error) :
    error.Honest source target.path := by
  unfold sequenceParts at failed
  split at failed
  next => cases failed
  next name named =>
    dsimp only at failed
    split at failed
    next =>
      cases failed
      exact PropertyError.IsPlain.honest trivial
    next splitter given =>
      cases divided : splitter text with
      | ok parts =>
        rw [divided] at failed
        cases failed
      | error cause =>
        rw [divided] at failed
        cases failed
        exact PropertyError.IsPlain.honest trivial

/-- The parts of a text never stand in each other's way: they cannot be stored only where the key
of the sequence is malformed. -/
theorem honest_of_partEntries {key : Text} {parts : List Text}
    (failed : Store.ofList? (partEntries key 0 parts) = .error error) : error.Honest source [] := by
  by_cases wellFormed : Key.WellFormed key
  · obtain ⟨store, written, -⟩ := exists_store_partEntries wellFormed parts
    cases written.symm.trans failed
  · cases parts with
    | nil => cases failed
    | cons part parts =>
      obtain ⟨fault, stopped⟩ : ∃ fault, Store.ofList? (partEntries key 0 (part :: parts))
          = .error (.malformed (Key.element key 0) (.key fault) []) :=
        ofList?_partEntries_error wellFormed
      cases stopped.symm.trans failed
      exact PropertyError.IsPlain.honest trivial

theorem honest_of_elementSource
    (failed : binder.elementSource source shape target = .error error) :
    error.Honest source target.path := by
  unfold elementSource at failed
  split at failed
  next => cases failed
  next =>
    split at failed
    next other unread =>
      cases failed
      exact honest_of_sequenceText unread
    next text read =>
      split at failed
      next => cases failed
      next =>
        split at failed
        next other undivided =>
          cases failed
          exact honest_of_sequenceParts undivided
        next parts divided =>
          split at failed
          next other unwritten =>
            cases failed
            exact (honest_of_partEntries unwritten).atPath _ (.inl rfl)
          next => cases failed

/-- Elements are found where everything is that the source has. -/
theorem has_of_elementSource (found : binder.elementSource source shape target = .ok (some view))
    {key : Text} (present : source.has key) : view.has key := by
  unfold elementSource at found
  split at found
  next =>
    cases found
    exact present
  next =>
    split at found
    next => cases found
    next =>
      split at found
      next => cases found
      next =>
        split at found
        next => cases found
        next =>
          split at found
          next => cases found
          next store written =>
            cases found
            exact Bool.or_eq_true_iff.2 (.inr present)

/-- A source has only one reason not to list members, and it is reported as unsupported. -/
theorem honest_of_memberNames (failed : memberNames source target = .error error) :
    error.Honest source target.path := by
  unfold memberNames at failed
  rw [Source.members?_eq] at failed
  split at failed
  next =>
    cases failed
    exact PropertyError.IsPlain.honest trivial
  next =>
    split_ifs at failed
    cases failed
    exact PropertyError.IsPlain.honest trivial

end Binder

end TypedConfig
