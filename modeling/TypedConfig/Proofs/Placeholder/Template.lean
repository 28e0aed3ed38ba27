import TypedConfig.Proofs.Placeholder.Scanner

/-!
# Templates

A text with placeholders is the printed form of a template, and its value is the value of that
template.

* `Template`: literal texts and references, one after the other; a reference may have a template as
  its fallback.
* `Template.evaluate`: the parts from left to right, their values one after the other; the first
  part that fails decides the error.
* `Template.Plain`: what is asked of the texts so that the printed form can be read in one way only.

`resolveText_print` is the statement. It is an induction on the template: `balanced_print` says that
the scanner finds the brace that closes a printed fallback, and `expandWith_print` follows the
scanner from part to part.
-/

namespace TypedConfig

open Placeholder (Quiet Balanced IsKey span answer expand expandWith lookUp nestingLimit)

/-- The parts of a template, from left to right. -/
inductive Template where
  | done
  | literal (text : Text) (rest : Template)
  | reference (key : Text) (rest : Template)
  | defaulted (key : Text) (fallback rest : Template)

namespace Template

/-- The written form of a template. -/
def print : Template → Text
  | done => []
  | literal text rest => text ++ rest.print
  | reference key rest => '$' :: '{' :: (key ++ '}' :: rest.print)
  | defaulted key fallback rest =>
    '$' :: '{' :: (key ++ ':' :: '=' :: (fallback.print ++ '}' :: rest.print))

/-- The literals of a template hold no opening, and none comes about where two parts meet; `inside`
a fallback they hold no closing brace. The keys hold no mark of the notation. -/
def Plain : (inside : Prop) → Template → Prop
  | _, done => True
  | inside, literal text rest =>
    Quiet text rest.print ∧ (inside → '}' ∉ text) ∧ rest.Plain inside
  | inside, reference key rest => IsKey key ∧ rest.Plain inside
  | inside, defaulted key fallback rest => IsKey key ∧ fallback.Plain True ∧ rest.Plain inside

/-- The value of a text that was reached at a depth of look-ups. -/
def deeper (source : Source) (depth : Nat) (text : Text) : Except PropertyError Text :=
  expand source (nestingLimit - depth) text

/-- The value of a reference that is the look-up at a depth: the value of what is stored, unless it
is empty, else that of the fallback, else the empty text of a key that exists without a value. -/
def refer (source : Source) (depth : Nat) (key : Text)
    (fallback : Option (Except PropertyError Text)) : Except PropertyError Text :=
  if nestingLimit < depth then .error (.malformed key .nestedTooDeeply [])
  else match (source.get? key).filter fun value => value ≠ [], fallback with
    | some value, _ => deeper source depth value
    | none, some value => value
    | none, none => if source.has key then .ok [] else .error (.notExist key [])

/-- The value of a template whose references are look-ups one level below a depth. -/
def evaluate (source : Source) : (depth : Nat) → Template → Except PropertyError Text
  | _, done => .ok []
  | depth, literal text rest => do
    let after ← rest.evaluate source depth
    return text ++ after
  | depth, reference key rest => do
    let value ← refer source (depth + 1) (Target.effectiveKey key) none
    let after ← rest.evaluate source depth
    return value ++ after
  | depth, defaulted key fallback rest => do
    let value ← refer source (depth + 1) (Target.effectiveKey key)
      (some (fallback.evaluate source (depth + 1)))
    let after ← rest.evaluate source depth
    return value ++ after

/-! ### The printed form -/

theorem print_reference (key : Text) (rest : Template) :
    (reference key rest).print = span key ++ rest.print := by
  rw [print, Placeholder.span_append]

theorem print_defaulted (key : Text) (fallback rest : Template) :
    (defaulted key fallback rest).print
      = span (key ++ Tag.assignment ++ fallback.print) ++ rest.print := by
  rw [print, Placeholder.span_append, List.append_assoc, List.append_assoc]
  rfl

theorem balanced_key {key : Text} (isKey : IsKey key) : Balanced key := by
  have alone := Placeholder.balanced_nil.append
    (Placeholder.quiet_of_not_has isKey.unopened (by simp)) isKey.unclosed
  rwa [List.append_nil] at alone

/-- The body of a placeholder closes what it opens when its fallback does. -/
theorem balanced_body {key fallback : Text} (isKey : IsKey key) (balanced : Balanced fallback) :
    Balanced (key ++ Tag.assignment ++ fallback) := by
  have marked : Balanced (Tag.assignment ++ fallback) :=
    balanced.append ⟨by decide, fun meeting => by simp [Tag.assignment] at meeting⟩ (by decide)
  rw [List.append_assoc]
  exact marked.append (Placeholder.quiet_of_not_has isKey.unopened (by simp [Tag.assignment]))
    isKey.unclosed

/-- **The scanner passes over a printed fallback as a whole**: each brace in it closes a reference
that it opened. -/
theorem balanced_print {template : Template} (plain : template.Plain True) :
    Balanced template.print := by
  induction template with
  | done => exact Placeholder.balanced_nil
  | literal text rest ih =>
    obtain ⟨quiet, unclosed, plainRest⟩ := plain
    exact (ih plainRest).append quiet (unclosed trivial)
  | reference key rest ih =>
    obtain ⟨isKey, plainRest⟩ := plain
    rw [print_reference]
    exact (ih plainRest).span_append (balanced_key isKey)
  | defaulted key fallback rest ihFallback ih =>
    obtain ⟨isKey, plainFallback, plainRest⟩ := plain
    rw [print_defaulted]
    exact (ih plainRest).span_append (balanced_body isKey (ihFallback plainFallback))

/-! ### The answers to the bodies -/

theorem lookUp_eq_refer (source : Source) {depth : Nat} (shallow : depth ≤ nestingLimit)
    (key : Text) (fallback : Option Text) :
    lookUp source (deeper source depth) ⟨key, [], ⟨key, fallback, none⟩, []⟩
      = refer source depth key (fallback.map (deeper source depth)) := by
  unfold refer lookUp
  rw [if_neg (Nat.not_lt.2 shallow)]
  cases source.get? key with
  | none => cases fallback <;> rfl
  | some value =>
    cases value with
    | nil => cases fallback <;> rfl
    | cons char value => rfl

theorem refer_of_lt (source : Source) {depth : Nat} (deep : nestingLimit < depth) (key : Text)
    (fallback : Option (Except PropertyError Text)) :
    refer source depth key fallback = .error (.malformed key .nestedTooDeeply []) := by
  unfold refer
  exact if_pos deep

theorem answer_of_ofTag? {source : Source} {depth : Nat} (shallow : depth ≤ nestingLimit)
    {body key : Text} {fallback : Option Text}
    (read : Target.ofTag? (span body) [] = .ok ⟨key, [], ⟨key, fallback, none⟩, []⟩) :
    answer source (nestingLimit - depth) body
      = refer source (depth + 1) key (fallback.map (deeper source (depth + 1))) := by
  rcases Nat.lt_or_eq_of_le shallow with below | rfl
  · have next : nestingLimit - depth = nestingLimit - (depth + 1) + 1 := by omega
    rw [next, answer, read]
    exact lookUp_eq_refer source below key fallback
  · rw [Nat.sub_self, answer, read, refer_of_lt source (Nat.lt_succ_self _)]
    rfl

/-! ### The value -/

/-- **The scanner evaluates a printed template from part to part**, whatever text it would name in
an error about braces. -/
theorem expandWith_print (source : Source) (template : Template) :
    ∀ {inside : Prop} {depth : Nat} (whole : Text), template.Plain inside → depth ≤ nestingLimit →
      expandWith (answer source (nestingLimit - depth)) whole template.print
        = template.evaluate source depth := by
  induction template with
  | done =>
    intro inside depth whole _ _
    rw [print, expandWith, evaluate]
  | literal text rest ih =>
    intro inside depth whole plain shallow
    obtain ⟨quiet, _, plainRest⟩ := plain
    rw [print, Placeholder.expandWith_append quiet, ih whole plainRest shallow, evaluate]
    cases rest.evaluate source depth <;> rfl
  | reference key rest ih =>
    intro inside depth whole plain shallow
    obtain ⟨isKey, plainRest⟩ := plain
    rw [print_reference, Placeholder.expandWith_span (balanced_key isKey),
      answer_of_ofTag? shallow (Placeholder.ofTag?_key isKey), ih rest.print plainRest shallow]
    rfl
  | defaulted key fallback rest ihFallback ih =>
    intro inside depth whole plain shallow
    obtain ⟨isKey, plainFallback, plainRest⟩ := plain
    have body := balanced_body isKey (balanced_print plainFallback)
    rw [print_defaulted, Placeholder.expandWith_span body,
      answer_of_ofTag? shallow (Placeholder.ofTag?_fallback isKey fallback.print),
      ih rest.print plainRest shallow, evaluate, Option.map_some]
    -- The fallback is read one level deeper, and not at all at the last level.
    rcases Nat.lt_or_eq_of_le shallow with below | rfl
    · rw [deeper, Placeholder.expand_eq, ihFallback fallback.print plainFallback below]
    · rw [refer_of_lt source (Nat.lt_succ_self _), refer_of_lt source (Nat.lt_succ_self _)]

/-- **The value of a printed template is the value of the template**, for every source. -/
theorem resolveText_print (source : Source) (template : Template) (plain : template.Plain False) :
    Placeholder.resolveText source template.print = template.evaluate source 0 := by
  rw [Placeholder.resolveText, Placeholder.expand_eq]
  exact expandWith_print source template template.print plain (Nat.zero_le _)

/-- A salutation to a person whose name may be missing, for which the title is the fallback. -/
def salutation : Template :=
  literal "Dear "
    (defaulted "name" (reference "title" (literal " \x7bx" done)) (literal "\x7d, $" done))

/-- Properties in which the name is empty. -/
def titledPerson : Source := Store.ofTable [("name", ""), ("title", "Dr.")]

theorem resolveText_print_salutation :
    salutation.Plain False
      ∧ salutation.print = "Dear $\x7bname:=$\x7btitle\x7d \x7bx\x7d\x7d, $"
      ∧ Placeholder.resolveText titledPerson salutation.print = .ok "Dear Dr. \x7bx\x7d, $" := by
  have isKey : ∀ key : Text, ¬ key.has Tag.opening ∧ '}' ∉ key ∧ ¬ key.has Tag.assignment →
      IsKey key := fun key parts => ⟨parts.1, parts.2.1, parts.2.2⟩
  have plain : salutation.Plain False := by
    refine ⟨⟨by decide, by decide⟩, False.elim, isKey _ (by decide), ?_, ?_⟩
    · exact ⟨isKey _ (by decide), ⟨by decide, by decide⟩, fun _ => by decide, trivial⟩
    · exact ⟨⟨by decide, by decide⟩, False.elim, trivial⟩
  have title : refer titledPerson 2 "title" none = .ok "Dr." :=
    Placeholder.expand_of_not_has titledPerson 62 (by decide)
  have fallback : (reference "title" (literal " \x7bx" done)).evaluate titledPerson 1
      = .ok "Dr. \x7bx" := by
    show (refer titledPerson 2 "title" none >>= _) = _
    rw [title]
    rfl
  refine ⟨plain, by decide, (resolveText_print titledPerson salutation plain).trans ?_⟩
  rw [salutation, evaluate, evaluate, fallback]
  rfl

end Template

end TypedConfig
