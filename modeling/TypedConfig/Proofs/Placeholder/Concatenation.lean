import Mathlib
import TypedConfig.Proofs.Binder.Agree
import TypedConfig.Proofs.Placeholder.Scanner

/-!
# Texts behind one another

A text that closes every placeholder it opens may be cut off from what stands behind it: the scanner
finds the same placeholders in both pieces as in the whole, and answers them in the same order. Only
the text that an unclosed placeholder is reported in tells the pieces from the whole.

* `openBehind`: the number of placeholders that are still open behind a text.
* `takeBody_append`, `exists_takeBody`: a placeholder that is closed inside a text is closed there
  whatever follows, and one opened in a text that leaves none open is closed inside it.
* `expandWith_append_of_closed`: the scanner reads the pieces one after the other.
* `sameFault_of_whole`: the text that is to be named in an error decides nothing else.
* `resolveText_append`: so the value of a whole is made of the values of its pieces.
-/

namespace TypedConfig.Placeholder

open PropertyError (SameFault)

/-- How many placeholders are open behind a text, when `depth` of them are open in front of it. A
closing brace closes the last of them, and nothing where none is open. -/
def openBehind : (depth : Nat) → Text → Nat
  | depth, [] => depth
  | depth, '$' :: '{' :: rest => openBehind (depth + 1) rest
  | 0, '}' :: rest => openBehind 0 rest
  | depth + 1, '}' :: rest => openBehind depth rest
  | depth, _ :: rest => openBehind depth rest

variable {text body after rest more front back : Text} {char : Char} {depth : Nat}

/-! ### One character -/

/-- What follows a text decides whether its last character opens a placeholder, and nothing else. -/
theorem not_opens_append (still : ¬ Opens char rest) (apart : rest = [] → ¬ Opens char more) :
    ¬ Opens char (rest ++ more) := by
  cases rest with
  | nil => exact apart rfl
  | cons next rest => exact still

/-- The last case of the scanner reads no closing brace. -/
theorem ne_closing (outside : depth = 0 → char = '}' → False)
    (inside : ∀ outer, depth = outer + 1 → char = '}' → False) : char ≠ '}' := by
  cases depth with
  | zero => exact outside rfl
  | succ outer => exact inside outer rfl

theorem openBehind_cons (still : ¬ Opens char rest) (unclosed : char ≠ '}') :
    openBehind depth (char :: rest) = openBehind depth rest := by
  rw [openBehind]
  · rintro after rfl rfl
    exact still (opens_dollar after)
  · exact fun _ same => unclosed same
  · exact fun _ _ same => unclosed same

/-- A closing brace where nothing is open is a character like any other. -/
theorem openBehind_zero_cons (still : ¬ Opens char rest) :
    openBehind 0 (char :: rest) = openBehind 0 rest := by
  by_cases closing : char = '}'
  · rw [closing, openBehind]
  · exact openBehind_cons still closing

/-! ### Placeholders that are closed -/

/-- A placeholder that is closed inside a text is closed there whatever follows the text. -/
theorem takeBody_append (closed : takeBody depth text = some (body, after)) (more : Text) :
    takeBody depth (text ++ more) = some (body, after ++ more) := by
  fun_induction takeBody depth text generalizing body with
  | case1 => cases closed
  | case2 depth rest ih | case4 depth rest ih =>
    obtain ⟨⟨inner, outer⟩, taken, same⟩ := Option.map_eq_some_iff.1 closed
    cases same
    simp only [List.cons_append]
    rw [takeBody, ih taken]
    rfl
  | case3 rest =>
    cases closed
    rw [List.cons_append, takeBody]
  | case5 depth char rest still outside inside ih =>
    obtain ⟨⟨inner, outer⟩, taken, same⟩ := Option.map_eq_some_iff.1 closed
    cases same
    have quiet : ¬ Opens char (rest ++ more) := by
      refine not_opens_append (not_opens_of still) ?_
      rintro rfl
      cases taken
    rw [List.cons_append, takeBody_cons quiet (ne_closing outside inside), ih taken]
    rfl

/-- A text that leaves no placeholder open closes the one in which it begins, and what it goes on
with leaves none open either. -/
theorem exists_takeBody (closed : openBehind (depth + 1) text = 0) :
    ∃ body after, takeBody depth text = some (body, after) ∧ openBehind 0 after = 0 := by
  fun_induction takeBody depth text with
  | case1 => cases closed
  | case2 depth rest ih | case4 depth rest ih =>
    rw [openBehind] at closed
    obtain ⟨body, after, taken, balanced⟩ := ih closed
    exact ⟨_, after, by rw [taken, Option.map_some], balanced⟩
  | case3 rest =>
    rw [openBehind] at closed
    exact ⟨[], rest, rfl, closed⟩
  | case5 depth char rest still outside inside ih =>
    rw [openBehind_cons (not_opens_of still) (ne_closing outside inside)] at closed
    obtain ⟨body, after, taken, balanced⟩ := ih closed
    exact ⟨_, after, by rw [taken, Option.map_some], balanced⟩

/-! ### Two pieces -/

/-- **The scanner reads a text that leaves no placeholder open, and then what stands behind it.** An
unclosed placeholder behind it is reported in a text that may begin further in front. -/
theorem expandWith_append_of_closed (refer : Text → Except PropertyError Text)
    (closed : openBehind 0 front = 0)
    (apart : ∀ start, front = start ++ ['$'] → back.head? ≠ some '{') (whole other : Text) :
    ∃ since, expandWith refer whole (front ++ back)
      = do let first ← expandWith refer other front
           let second ← expandWith refer since back
           return first ++ second := by
  fun_induction expandWith refer other front generalizing whole with
  | case1 other =>
    refine ⟨whole, ?_⟩
    show expandWith refer whole back = (expandWith refer whole back).map id
    rw [Except.map_id]
    rfl
  | case2 other rest unclosed =>
    rw [openBehind] at closed
    obtain ⟨body, after, taken, -⟩ := exists_takeBody closed
    cases unclosed.symm.trans taken
  | case3 other rest body after taken error answered =>
    refine ⟨whole, ?_⟩
    rw [List.cons_append, List.cons_append, expandWith_of_closed (takeBody_append taken back),
      answered]
    rfl
  | case4 other rest body after taken value answered shorter ih =>
    rw [openBehind] at closed
    obtain ⟨body', after', taken', balanced⟩ := exists_takeBody closed
    cases taken.symm.trans taken'
    have apart' : ∀ start, after = start ++ ['$'] → back.head? ≠ some '{' := by
      rintro start rfl
      refine apart ('$' :: '{' :: (body ++ '}' :: start)) ?_
      rw [append_of_takeBody taken]
      simp
    obtain ⟨since, later⟩ := ih balanced apart' (after ++ back)
    refine ⟨since, ?_⟩
    rw [List.cons_append, List.cons_append, expandWith_of_closed (takeBody_append taken back),
      answered, later]
    cases expandWith refer after after with
    | error error => rfl
    | ok first =>
      cases expandWith refer since back with
      | error error => rfl
      | ok second => exact congrArg Except.ok (List.append_assoc value first second).symm
  | case5 other char rest still ih =>
    have quiet := not_opens_of still
    rw [openBehind_zero_cons quiet] at closed
    have apart' : ∀ start, rest = start ++ ['$'] → back.head? ≠ some '{' := by
      rintro start rfl
      exact apart (char :: start) rfl
    have quiet' : ¬ Opens char (rest ++ back) := by
      refine not_opens_append quiet ?_
      rintro rfl ⟨rfl, brace⟩
      exact apart [] rfl brace
    obtain ⟨since, later⟩ := ih closed apart' whole
    refine ⟨since, ?_⟩
    rw [List.cons_append, expandWith_cons quiet', later]
    cases expandWith refer other rest with
    | error error => rfl
    | ok first => cases expandWith refer since back <;> rfl

/-- **The text that is to be named in an error decides nothing else**: neither the value, nor whether
there is one, nor the category of the error. -/
theorem sameFault_of_whole (refer : Text → Except PropertyError Text) (whole since text : Text) :
    (∃ value, expandWith refer whole text = .ok value ∧ expandWith refer since text = .ok value)
      ∨ ∃ error other, expandWith refer whole text = .error error
        ∧ expandWith refer since text = .error other ∧ SameFault other error := by
  fun_induction expandWith refer whole text with
  | case1 => exact .inl ⟨[], rfl, by rw [expandWith]⟩
  | case2 whole rest unclosed =>
    exact .inr ⟨_, _, rfl, expandWith_of_unclosed unclosed, rfl, rfl⟩
  | case3 whole rest body after closed error answered =>
    refine .inr ⟨error, error, rfl, ?_, .refl error⟩
    rw [expandWith_of_closed closed, answered]
    rfl
  | case4 whole rest body after closed value answered shorter _ =>
    rw [expandWith_of_closed closed, answered]
    cases expandWith refer after after with
    | error error => exact .inr ⟨error, error, rfl, rfl, .refl error⟩
    | ok later => exact .inl ⟨_, rfl, rfl⟩
  | case5 whole char rest still ih =>
    rw [expandWith_cons (not_opens_of still)]
    rcases ih with ⟨value, here, there⟩ | ⟨error, other, here, there, same⟩
    · rw [here, there]
      exact .inl ⟨_, rfl, rfl⟩
    · rw [here, there]
      exact .inr ⟨error, other, rfl, rfl, same⟩

/-- **The value of a whole is made of the values of its pieces.** Let a text close every placeholder
that it opens, and let no placeholder open where another text is put behind it. Then both together
have a value exactly when each of them has one, which is the one value behind the other. If the
first has none, both together fail with its error, and if only the second has none, with an error of
the same category. Braces that close nothing and placeholders that are no tags may stand in both. -/
theorem resolveText_append (source : Source) {front back : Text} (closed : openBehind 0 front = 0)
    (apart : ¬ (front.getLast? = some '$' ∧ back.head? = some '{')) :
    (∀ value, resolveText source (front ++ back) = .ok value
        ↔ ∃ first second, resolveText source front = .ok first
          ∧ resolveText source back = .ok second ∧ value = first ++ second)
      ∧ (∀ error, resolveText source front = .error error →
          resolveText source (front ++ back) = .error error)
      ∧ ∀ first error, resolveText source front = .ok first →
          resolveText source back = .error error →
          ∃ other, resolveText source (front ++ back) = .error other ∧ other.kind = error.kind := by
  have apart' : ∀ start, front = start ++ ['$'] → back.head? ≠ some '{' := by
    rintro start rfl brace
    exact apart ⟨by simp, brace⟩
  simp only [resolveText, expand_eq]
  generalize answer source nestingLimit = refer
  obtain ⟨since, whole⟩ := expandWith_append_of_closed refer closed apart' (front ++ back) front
  rw [whole]
  cases expandWith refer front front with
  | error error =>
    refine ⟨fun value => iff_of_false nofun ?_, fun other same => same, nofun⟩
    rintro ⟨first, second, failed, -⟩
    cases failed
  | ok first =>
    rcases sameFault_of_whole refer back since back with
      ⟨second, here, there⟩ | ⟨error, other, here, there, same⟩
    · rw [here, there]
      refine ⟨fun value => ?_, nofun, nofun⟩
      constructor
      · rintro ⟨⟩
        exact ⟨first, second, rfl, rfl, rfl⟩
      · rintro ⟨_, _, ⟨⟩, ⟨⟩, rfl⟩
        rfl
    · rw [here, there]
      refine ⟨fun value => iff_of_false nofun ?_, nofun, ?_⟩
      · rintro ⟨_, second, -, failed, -⟩
        cases failed
      · rintro _ _ ⟨⟩ ⟨⟩
        exact ⟨other, rfl, same.kind⟩

/-- Properties of a host and its port. -/
def portedHost : Source := Store.ofTable [("host", "h"), ("port", "80")]

/-- A text with a brace that closes nothing, and with a dollar at its end. -/
def strayFront : Text := "\x7da $\x7bhost\x7d$"

/-- A text with a placeholder that is no tag. -/
def untaggedFront : Text := "b $\x7bhost$\x7bport\x7d\x7d"

theorem resolveText_append_portedHost :
    openBehind 0 strayFront = 0 ∧ openBehind 0 untaggedFront = 0
      ∧ resolveText portedHost (strayFront ++ "-$\x7bport\x7d\x7b") = .ok "\x7da h$-80\x7b"
      ∧ (∃ error, resolveText portedHost untaggedFront = .error error
        ∧ resolveText portedHost (untaggedFront ++ "$\x7bport") = .error error)
      ∧ ∃ other, resolveText portedHost (strayFront ++ "-$\x7bport") = .error other
        ∧ other.kind = .invalidSyntax := by
  have front : resolveText portedHost strayFront = .ok "\x7da h$" := by cbv
  have back : resolveText portedHost "-$\x7bport\x7d\x7b" = .ok "-80\x7b" := by cbv
  have unclosed : resolveText portedHost "-$\x7bport"
      = .error (.malformed "-$\x7bport" .unbalancedBraces []) := by cbv
  have untagged : resolveText portedHost untaggedFront
      = .error (.malformed "$\x7bhost$\x7bport\x7d\x7d" (.tag .keyMarks) []) := by cbv
  have closed : openBehind 0 strayFront = 0 := by decide
  have closed' : openBehind 0 untaggedFront = 0 := by decide
  have apart (front : Text) {back : Text} (plain : back.head? ≠ some '{') :
      ¬ (front.getLast? = some '$' ∧ back.head? = some '{') := fun meeting => plain meeting.2
  refine ⟨closed, closed', ?_, ⟨_, untagged, ?_⟩, ?_⟩
  · exact ((resolveText_append portedHost closed (apart _ (by decide))).1 _).2
      ⟨_, _, front, back, rfl⟩
  · exact (resolveText_append portedHost closed' (apart _ (by decide))).2.1 _ untagged
  · exact (resolveText_append portedHost closed (apart _ (by decide))).2.2 _ _ front unclosed

end TypedConfig.Placeholder
