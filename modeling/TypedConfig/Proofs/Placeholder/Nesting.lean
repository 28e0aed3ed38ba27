import Mathlib
import TypedConfig.Proofs.Placeholder.Template

/-!
# Nested references

Only so many look-ups may stand inside one another. The bound decides whether a text has a value,
and never which value that is; and a text that leads into a circle of keys runs into the bound
however high it is.

* `Shows`: a text holds a placeholder that is not part of another one.
* `Refers`: such a placeholder looks up a key, with or without a fallback.
* `cutsOff_expand_succ`: one level more changes nothing but what failed at the bound, by induction
  on the levels, since the answer to a placeholder expands what is stored, or the fallback, with one
  level less.
* `not_expanded_of_refers`: keys each of which refers to another of them lead to no value, by
  induction on the levels as well.
* `nesting_only_cuts_off`: both of it, for the depth at which a text is reached.
-/

namespace TypedConfig.Placeholder

open Template (deeper)

/-! ### Placeholders of a text -/

/-- A text holds a placeholder with a body that stands in no other placeholder of the text. -/
inductive Shows : (text body : Text) → Prop
  | here {rest body after : Text} (closed : takeBody 0 rest = some (body, after)) :
      Shows ('$' :: '{' :: rest) body
  | behind {rest inner after body : Text} (closed : takeBody 0 rest = some (inner, after))
      (later : Shows after body) : Shows ('$' :: '{' :: rest) body
  | past {char : Char} {rest body : Text} (still : ¬ Opens char rest) (later : Shows rest body) :
      Shows (char :: rest) body

/-- A placeholder of a text looks a key up, whatever its fallback is. -/
def Refers (text key : Text) : Prop :=
  ∃ body target, Shows text body ∧ Target.ofTag? (span body) [] = .ok target ∧ target.key = key

section

variable {text rest body inner key fallback : Text}

theorem shows_span (balanced : Balanced body) (rest : Text) : Shows (span body ++ rest) body := by
  rw [span_append]
  exact .here (balanced.takeBody_eq rest)

/-- A text that is one placeholder refers to its key, if it has one, and to nothing else. -/
theorem Refers.exists_target (refers : Refers (span body) key)
    (closed : takeBody 0 (body ++ ['}']) = some (body, [])) :
    ∃ target, Target.ofTag? (span body) [] = .ok target ∧ target.key = key := by
  obtain ⟨inner, target, shown, read, named⟩ := refers
  suffices same : inner = body by
    subst same
    exact ⟨target, read, named⟩
  cases shown with
  | here found => exact (Prod.mk.inj (Option.some.inj (found.symm.trans closed))).1
  | behind found later =>
    rw [(Prod.mk.inj (Option.some.inj (found.symm.trans closed))).2] at later
    cases later
  | past still => exact absurd (opens_dollar _) still

theorem Shows.behind_span (later : Shows rest body) (balanced : Balanced inner) :
    Shows (span inner ++ rest) body := by
  rw [span_append]
  exact .behind (balanced.takeBody_eq rest) later

theorem Shows.append (later : Shows rest body) (quiet : Quiet text rest) :
    Shows (text ++ rest) body := by
  induction text with
  | nil => exact later
  | cons char text ih =>
    rw [quiet_cons] at quiet
    exact .past quiet.1 (ih quiet.2)

/-- A reference looks its key up. -/
theorem refers_span (isKey : IsKey key) (rest : Text) :
    Refers (span key ++ rest) (Target.effectiveKey key) :=
  ⟨key, _, shows_span (Template.balanced_key isKey) rest, ofTag?_key isKey, rfl⟩

/-- A reference with a fallback looks its key up as well. -/
theorem refers_span_fallback (isKey : IsKey key) (balanced : Balanced fallback) (rest : Text) :
    Refers (span (key ++ Tag.assignment ++ fallback) ++ rest) (Target.effectiveKey key) :=
  ⟨_, _, shows_span (Template.balanced_body isKey balanced) rest, ofTag?_fallback isKey fallback,
    rfl⟩

theorem Refers.behind_span (later : Refers rest key) (balanced : Balanced inner) :
    Refers (span inner ++ rest) key := by
  obtain ⟨body, target, shown, read, named⟩ := later
  exact ⟨body, target, shown.behind_span balanced, read, named⟩

theorem Refers.append (later : Refers rest key) (quiet : Quiet text rest) :
    Refers (text ++ rest) key := by
  obtain ⟨body, target, shown, read, named⟩ := later
  exact ⟨body, target, shown.append quiet, read, named⟩

end

/-! ### More levels -/

/-- The second function gives what the first one gives, unless the first one reached the bound on
nesting. -/
def CutsOff (first second : Text → Except PropertyError Text) : Prop :=
  ∀ text, second text = first text
    ∨ ∃ key, first text = .error (.malformed key .nestedTooDeeply [])

theorem CutsOff.refl (function : Text → Except PropertyError Text) : CutsOff function function :=
  fun _ => .inl rfl

section

variable {source : Source} {first second third : Text → Except PropertyError Text}
  {whole text body value : Text}

theorem CutsOff.trans (more : CutsOff first second) (most : CutsOff second third) :
    CutsOff first third := by
  intro text
  rcases more text with same | cut
  · rw [← same]
    exact most text
  · exact .inr cut

/-- A text is read up to the first answer that reached the bound. -/
theorem CutsOff.expandWith (more : CutsOff first second) (whole text : Text) :
    expandWith second whole text = expandWith first whole text
      ∨ ∃ key, expandWith first whole text = .error (.malformed key .nestedTooDeeply []) := by
  fun_induction Placeholder.expandWith first whole text with
  | case1 whole => exact .inl (by rw [Placeholder.expandWith])
  | case2 whole rest unclosed => exact .inl (expandWith_of_unclosed unclosed)
  | case3 whole rest body after closed error answered =>
    rcases more body with same | ⟨key, cut⟩
    · left
      rw [expandWith_of_closed closed, same, answered]
      rfl
    · exact .inr ⟨key, answered.symm.trans cut⟩
  | case4 whole rest body after closed front answered _ ih =>
    rcases more body with same | ⟨key, cut⟩
    · rcases ih with later | ⟨key, cut⟩
      · left
        rw [expandWith_of_closed closed, same, answered, later]
        cases Placeholder.expandWith first after after <;> rfl
      · exact .inr ⟨key, by rw [cut]; rfl⟩
    · cases answered.symm.trans cut
  | case5 whole char rest still ih =>
    rcases ih with later | ⟨key, cut⟩
    · exact .inl (by rw [expandWith_cons (not_opens_of still), later])
    · exact .inr ⟨key, by rw [cut]; rfl⟩

theorem CutsOff.lookUp (more : CutsOff first second) (target : Target) :
    lookUp source second target = lookUp source first target
      ∨ ∃ key, lookUp source first target = .error (.malformed key .nestedTooDeeply []) := by
  unfold Placeholder.lookUp
  cases (source.get? target.key).filter fun value => !value.isEmpty with
  | some value => exact more value
  | none =>
    cases target.tag.fallback with
    | some fallback => exact more fallback
    | none => exact .inl rfl

/-- **One level more only goes on where the bound was reached.** -/
theorem cutsOff_expand_succ (source : Source) (levels : Nat) :
    CutsOff (expand source levels) (expand source (levels + 1)) := by
  have expanded {few many : Nat} (answers : CutsOff (answer source few) (answer source many)) :
      CutsOff (expand source few) (expand source many) := by
    intro text
    rw [expand_eq, expand_eq]
    exact answers.expandWith text text
  induction levels with
  | zero =>
    refine expanded fun body => ?_
    rw [answer, answer]
    cases Target.ofTag? (span body) [] with
    | error error => exact .inl rfl
    | ok target => exact .inr ⟨target.key, rfl⟩
  | succ levels ih =>
    refine expanded fun body => ?_
    rw [answer, answer]
    cases Target.ofTag? (span body) [] with
    | error error => exact .inl rfl
    | ok target => exact ih.lookUp target

theorem cutsOff_expand {few many : Nat} (le : few ≤ many) :
    CutsOff (expand source few) (expand source many) := by
  induction le with
  | refl => exact .refl _
  | step _ ih => exact ih.trans (cutsOff_expand_succ source _)

/-! ### Circles -/

theorem exists_of_closed_ok {refer : Text → Except PropertyError Text} {rest after : Text}
    (closed : takeBody 0 rest = some (body, after))
    (expanded : expandWith refer whole ('$' :: '{' :: rest) = .ok value) :
    ∃ front back, refer body = .ok front ∧ expandWith refer after after = .ok back := by
  rw [expandWith_of_closed closed] at expanded
  cases answered : refer body with
  | error error =>
    rw [answered] at expanded
    cases expanded
  | ok front =>
    rw [answered] at expanded
    cases later : expandWith refer after after with
    | error error =>
      rw [later] at expanded
      cases expanded
    | ok back => exact ⟨front, back, rfl, rfl⟩

/-- A text has a value only if each of its placeholders is answered. -/
theorem Shows.exists_answer {refer : Text → Except PropertyError Text} (shown : Shows text body)
    (expanded : expandWith refer whole text = .ok value) : ∃ answer, refer body = .ok answer := by
  induction shown generalizing whole value with
  | here closed =>
    obtain ⟨front, back, answered, -⟩ := exists_of_closed_ok closed expanded
    exact ⟨front, answered⟩
  | behind closed later ih =>
    obtain ⟨front, back, -, there⟩ := exists_of_closed_ok closed expanded
    exact ih there
  | past still later ih =>
    rw [expandWith_cons still] at expanded
    obtain ⟨back, there, -⟩ := exists_of_map_eq_ok expanded
    exact ih there

/-- **A text that leads into a circle of keys has no value at any level.** The circle is any
collection of keys each of which holds a text that refers to one of them. -/
theorem not_expanded_of_refers {circle : Text → Prop} {key : Text}
    (leads : ∀ key, circle key → ∃ value, source.get? key = some value ∧ value ≠ []
      ∧ ∃ next, circle next ∧ Refers value next)
    (entry : circle key) (refers : Refers text key) (levels : Nat) :
    ∀ value, expand source levels text ≠ .ok value := by
  -- Each look-up on the way leads back into the circle with one level less, down to none.
  induction levels generalizing text key with
  | zero =>
    intro value expanded
    obtain ⟨body, target, shown, read, -⟩ := refers
    rw [expand_eq] at expanded
    obtain ⟨answer, answered⟩ := shown.exists_answer expanded
    rw [Placeholder.answer, read] at answered
    cases answered
  | succ levels ih =>
    intro value expanded
    obtain ⟨body, target, shown, read, rfl⟩ := refers
    obtain ⟨text, stored, filled, next, inside, onward⟩ := leads _ entry
    rw [expand_eq] at expanded
    obtain ⟨answer, answered⟩ := shown.exists_answer expanded
    rw [Placeholder.answer, read] at answered
    have looked : lookUp source (expand source levels) target = expand source levels text := by
      rw [lookUp, stored, Option.filter_some, if_pos (by simpa using filled)]
    exact ih inside onward answer (looked ▸ answered)

end

/-! ### Both -/

/-- **The bound on nesting only cuts off.**

* A text that has a value at some depth of look-ups has the same value at every smaller depth, and
  so it is with errors, unless they say that the bound was reached.
* Let keys, one after the other, each hold a text with a placeholder for the next key, and the last
  one a text with a placeholder for the first. Then no text with a placeholder for one of them has a
  value, at any depth. -/
theorem nesting_only_cuts_off (source : Source) :
    (∀ text depth value, deeper source depth text = .ok value →
      ∀ less ≤ depth, deeper source less text = .ok value)
    ∧ (∀ text depth error, deeper source depth text = .error error →
      (∃ key, error = .malformed key .nestedTooDeeply [])
        ∨ ∀ less ≤ depth, deeper source less text = .error error)
    ∧ ∀ (last : Nat) (keys : Fin (last + 1) → Text),
        (∀ index, ∃ value, source.get? (keys index) = some value ∧ value ≠ []
          ∧ Refers value (keys (index + 1))) →
        ∀ text index, Refers text (keys index) →
          (∀ depth, ∃ error, deeper source depth text = .error error)
            ∧ ∃ error, resolveText source text = .error error := by
  have cuts {depth less : Nat} (le : less ≤ depth) :
      CutsOff (deeper source depth) (deeper source less) :=
    cutsOff_expand (Nat.sub_le_sub_left le nestingLimit)
  refine ⟨fun text depth value expanded less le => ?_, fun text depth error failed => ?_,
    fun last keys leads text index refers => ?_⟩
  · rcases cuts le text with same | ⟨key, cut⟩
    · rw [same, expanded]
    · cases expanded.symm.trans cut
  · by_cases reached : ∃ key, error = .malformed key .nestedTooDeeply []
    · exact .inl reached
    · refine .inr fun less le => ?_
      rcases cuts le text with same | ⟨key, cut⟩
      · rw [same, failed]
      · exact absurd ⟨key, Except.error.inj (failed.symm.trans cut)⟩ reached
  · have onward : ∀ key, (∃ index, keys index = key) → ∃ value, source.get? key = some value
        ∧ value ≠ [] ∧ ∃ next, (∃ index, keys index = next) ∧ Refers value next := by
      rintro key ⟨index, rfl⟩
      obtain ⟨value, stored, filled, refers⟩ := leads index
      exact ⟨value, stored, filled, _, ⟨index + 1, rfl⟩, refers⟩
    have fails (levels : Nat) : ∃ error, expand source levels text = .error error := by
      cases outcome : expand source levels text with
      | error error => exact ⟨error, rfl⟩
      | ok value =>
        exact absurd outcome (not_expanded_of_refers onward ⟨index, rfl⟩ refers levels value)
    exact ⟨fun depth => fails _, fails _⟩

/-- Properties in which the host and the address refer to each other, beside a port. -/
def circularHost : Source :=
  Store.ofTable [("address", "${port}.${host}"), ("host", "h-${address:=none}"),
    ("port", "80")]

/-- The two keys of the circle. -/
def circularKeys (index : Fin 2) : Text := if index = 0 then "host" else "address"

theorem nesting_only_cuts_off_circularHost :
    deeper circularHost 5 "${port}/x" = .ok "80/x"
      ∧ deeper circularHost 0 "${port}/x" = .ok "80/x"
      ∧ (∀ index, ∃ value, circularHost.get? (circularKeys index) = some value ∧ value ≠ []
        ∧ Refers value (circularKeys (index + 1)))
      ∧ Refers "at ${host}" "host"
      ∧ ∃ error, resolveText circularHost "at ${host}" = .error error := by
  have port : deeper circularHost 5 "$\x7bport\x7d/x" = .ok "80/x" := by cbv
  have isKey : ∀ key : Text, ¬ key.has Tag.opening ∧ '}' ∉ key ∧ ¬ key.has Tag.assignment →
      IsKey key := fun key parts => ⟨parts.1, parts.2.1, parts.2.2⟩
  have quiet (text rest : Text) (still : ¬ text.has Tag.opening
      ∧ ¬ (text.getLast? = some '$' ∧ rest.head? = some '{')) : Quiet text rest := still
  have host : Refers "$\x7bhost\x7d" "host" := refers_span (isKey "host" (by decide)) []
  have address : Refers "$\x7baddress:=none\x7d" "address" := by
    have balanced := balanced_nil.append (quiet "none" [] (by decide)) (by decide)
    exact refers_span_fallback (isKey "address" (by decide)) balanced []
  have leads : ∀ index, ∃ value, circularHost.get? (circularKeys index) = some value ∧ value ≠ []
      ∧ Refers value (circularKeys (index + 1)) := by
    intro index
    rcases Fin.exists_fin_two.1 ⟨index, rfl⟩ with rfl | rfl
    · exact ⟨_, rfl, by decide, address.append (quiet "h-" _ (by decide))⟩
    · have portKey := Template.balanced_key (isKey "port" (by decide))
      have shown := (host.append (quiet "." _ (by decide))).behind_span portKey
      exact ⟨_, rfl, by decide, shown⟩
  have refers : Refers "at $\x7bhost\x7d" "host" := host.append (quiet "at " _ (by decide))
  have cuts := nesting_only_cuts_off circularHost
  exact ⟨port, cuts.1 _ 5 _ port 0 (Nat.zero_le _), leads, refers,
    (cuts.2.2 1 circularKeys leads _ 0 refers).2⟩

end TypedConfig.Placeholder
