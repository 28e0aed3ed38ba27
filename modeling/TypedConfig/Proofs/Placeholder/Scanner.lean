import TypedConfig.Placeholder
import TypedConfig.Proofs.Except
import TypedConfig.Proofs.Text.Cut

/-!
# What the placeholder scanner does to a text in front of it

The scanner is followed along the text it reads, with anything behind that text.

* `Passes`: a text that the scanner copies into the body it reads.
* `Quiet`: a text in which no placeholder opens; `expandWith_append` copies it as well.
* `Balanced`: a text that closes every placeholder it opens. A placeholder with such a body passes
  as a whole, and `expandWith_span` hands that body over, whatever comes behind it.
* `expandWith_of_closed`, `expandWith_of_unclosed`: what the scanner does with a placeholder, whether
  it is closed or not; `cases_of_expandWith_error`: why it fails.
* `expand_eq`: expanding a text is `expandWith` of one function, which answers the bodies.
* `expand_of_not_has`: a text without a placeholder stands for itself.
-/

namespace TypedConfig.Placeholder

/-! ### One character -/

/-- A placeholder opens with `char` when `rest` follows it. -/
def Opens (char : Char) (rest : Text) : Prop := char = '$' ∧ rest.head? = some '{'

theorem opens_dollar (rest : Text) : Opens '$' ('{' :: rest) := ⟨rfl, rfl⟩

/-- The scanner reads a character by itself unless it is the dollar of an opening. -/
theorem not_opens_of {char : Char} {rest : Text}
    (still : ∀ after, char = '$' → rest = '{' :: after → False) : ¬ Opens char rest := by
  rintro ⟨dollar, brace⟩
  obtain ⟨after, same⟩ := List.head?_eq_some_iff.1 brace
  exact still after dollar same

theorem takeBody_cons {depth : Nat} {char : Char} {rest : Text} (still : ¬ Opens char rest)
    (unclosed : char ≠ '}') :
    takeBody depth (char :: rest)
      = (takeBody depth rest).map fun parts => (char :: parts.1, parts.2) := by
  rw [takeBody]
  · rintro after rfl rfl
    exact still (opens_dollar after)
  · exact fun _ same => unclosed same
  · exact fun _ _ same => unclosed same

theorem expandWith_cons {refer : Text → Except PropertyError Text} {whole rest : Text} {char : Char}
    (still : ¬ Opens char rest) :
    expandWith refer whole (char :: rest) = (expandWith refer whole rest).map (char :: ·) := by
  rw [expandWith]
  rintro after rfl rfl
  exact still (opens_dollar after)

/-- What is read as the body of a placeholder is followed by its closing brace. -/
theorem append_of_takeBody {depth : Nat} {text body after : Text}
    (closed : takeBody depth text = some (body, after)) : text = body ++ '}' :: after := by
  fun_induction takeBody depth text generalizing body with
  | case1 => cases closed
  | case2 depth rest ih =>
    obtain ⟨⟨inner, outer⟩, taken, same⟩ := Option.map_eq_some_iff.1 closed
    cases same
    rw [ih taken]
    rfl
  | case3 rest =>
    cases closed
    rfl
  | case4 depth rest ih | case5 depth char rest _ _ _ ih =>
    obtain ⟨⟨inner, outer⟩, taken, same⟩ := Option.map_eq_some_iff.1 closed
    cases same
    rw [ih taken]
    rfl

/-- The scanner passes over `text` as a part of the body it reads, at any depth. -/
def Passes (text rest : Text) : Prop :=
  ∀ depth, takeBody depth (text ++ rest)
    = (takeBody depth rest).map fun parts => (text ++ parts.1, parts.2)

theorem Passes.append {text more rest : Text} (first : Passes text (more ++ rest))
    (second : Passes more rest) : Passes (text ++ more) rest := by
  intro depth
  rw [List.append_assoc, first depth, second depth, Option.map_map]
  congr 1
  funext parts
  exact congrArg (·, parts.2) (List.append_assoc text more parts.1).symm

/-! ### A text in which nothing opens -/

/-- No placeholder opens inside `text` when `rest` follows it. -/
def Quiet (text rest : Text) : Prop :=
  ¬ text.has Tag.opening ∧ ¬ (text.getLast? = some '$' ∧ rest.head? = some '{')

theorem quiet_cons {char : Char} {text rest : Text} :
    Quiet (char :: text) rest ↔ ¬ Opens char (text ++ rest) ∧ Quiet text rest := by
  rw [Quiet, Quiet, Opens, Tag.opening, Text.has_pair_cons]
  cases text with
  | nil =>
    have nothing : ¬ Text.has [] ['$', '{'] := Bool.false_ne_true
    simp [nothing]
  | cons next text => simp [List.getLast?_cons_cons, not_or, and_assoc]

/-- What follows a quiet text may grow at its end, unless that makes a brace open. -/
theorem Quiet.append {text rest more : Text} (quiet : Quiet text rest)
    (closed : more.head? ≠ some '{') : Quiet text (rest ++ more) := by
  refine ⟨quiet.1, fun meeting => ?_⟩
  cases rest with
  | nil => exact closed meeting.2
  | cons char rest => exact quiet.2 meeting

theorem quiet_of_not_has {text rest : Text} (absent : ¬ text.has Tag.opening)
    (closed : rest.head? ≠ some '{') : Quiet text rest :=
  ⟨absent, fun meeting => closed meeting.2⟩

theorem Quiet.passes {text rest : Text} (quiet : Quiet text rest) (unclosed : '}' ∉ text) :
    Passes text rest := by
  intro depth
  induction text with
  | nil => exact Option.map_id'.symm
  | cons char text ih =>
    rw [quiet_cons] at quiet
    rw [List.mem_cons, not_or] at unclosed
    rw [List.cons_append, takeBody_cons quiet.1 (Ne.symm unclosed.1), ih quiet.2 unclosed.2,
      Option.map_map]
    rfl

theorem expandWith_append {refer : Text → Except PropertyError Text} {whole text rest : Text}
    (quiet : Quiet text rest) :
    expandWith refer whole (text ++ rest) = (expandWith refer whole rest).map (text ++ ·) := by
  induction text with
  | nil =>
    show _ = (expandWith refer whole rest).map id
    rw [Except.map_id]
    rfl
  | cons char text ih =>
    rw [quiet_cons] at quiet
    rw [List.cons_append, expandWith_cons quiet.1, ih quiet.2]
    cases expandWith refer whole rest <;> rfl

/-! ### One placeholder -/

/-- A placeholder that is closed is answered, and the text behind it is read by itself. -/
theorem expandWith_of_closed {refer : Text → Except PropertyError Text}
    {whole rest body after : Text} (closed : takeBody 0 rest = some (body, after)) :
    expandWith refer whole ('$' :: '{' :: rest)
      = do let value ← refer body
           let more ← expandWith refer after after
           return value ++ more := by
  rw [expandWith]
  split
  next unclosed => cases closed.symm.trans unclosed
  next body' after' taken =>
    cases closed.symm.trans taken
    cases refer body with
    | error error => rfl
    | ok value => cases expandWith refer after after <;> rfl

/-- A placeholder that is not closed makes the text fail. -/
theorem expandWith_of_unclosed {refer : Text → Except PropertyError Text} {whole rest : Text}
    (unclosed : takeBody 0 rest = none) :
    expandWith refer whole ('$' :: '{' :: rest)
      = .error (.malformed whole .unbalancedBraces []) := by
  rw [expandWith]
  split
  next => rfl
  next body after taken => cases unclosed.symm.trans taken

/-- A text fails because a placeholder is not closed, or with the error of an answer. -/
theorem cases_of_expandWith_error {refer : Text → Except PropertyError Text} {whole text : Text}
    {error : PropertyError} (failed : expandWith refer whole text = .error error) :
    (∃ unclosed, error = .malformed unclosed .unbalancedBraces [])
      ∨ ∃ body, refer body = .error error := by
  fun_induction expandWith refer whole text with
  | case1 => cases failed
  | case2 =>
    cases failed
    exact .inl ⟨_, rfl⟩
  | case3 whole rest body after closed other answered =>
    cases failed
    exact .inr ⟨body, answered⟩
  | case4 whole rest body after closed value answered _ ih =>
    exact ih (eq_error_of_map_eq_error failed)
  | case5 whole char rest still ih => exact ih (eq_error_of_map_eq_error failed)

/-! ### A text that closes what it opens -/

/-- The brace behind `body` closes the placeholder in which the scanner reads. -/
def Balanced (body : Text) : Prop := ∀ rest, Passes body ('}' :: rest)

theorem balanced_nil : Balanced [] := fun _ _ => Option.map_id'.symm

theorem span_append (body rest : Text) :
    span body ++ rest = '$' :: '{' :: (body ++ '}' :: rest) := by
  simp [span, Tag.opening]

theorem Balanced.takeBody_eq {body : Text} (balanced : Balanced body) (rest : Text) :
    takeBody 0 (body ++ '}' :: rest) = some (body, rest) := by
  rw [balanced rest 0, takeBody, Option.map_some, List.append_nil]

/-- A placeholder with a balanced body is part of the body around it. -/
theorem Balanced.passes_span {body : Text} (balanced : Balanced body) (rest : Text) :
    Passes (span body) rest := by
  intro depth
  rw [span_append, takeBody, balanced rest (depth + 1), takeBody, Option.map_map, Option.map_map]
  congr 1
  funext parts
  exact congrArg (·, parts.2) (span_append body parts.1).symm

/-- A quiet text that closes nothing may stand in front of a balanced one. -/
theorem Balanced.append {text body : Text} (balanced : Balanced body) (quiet : Quiet text body)
    (unclosed : '}' ∉ text) : Balanced (text ++ body) := by
  intro rest
  have still : Quiet text (body ++ '}' :: rest) := quiet.append (by simp)
  exact (still.passes unclosed).append (balanced rest)

/-- A placeholder may stand in front of a balanced text. -/
theorem Balanced.span_append {inner body : Text} (balanced : Balanced body)
    (inside : Balanced inner) : Balanced (span inner ++ body) :=
  fun rest => (inside.passes_span _).append (balanced rest)

/-- **A placeholder with a balanced body is answered as a whole**, and the text behind it is read
by itself: what the answer puts in is not scanned. -/
theorem expandWith_span {body : Text} (balanced : Balanced body)
    (refer : Text → Except PropertyError Text) (whole rest : Text) :
    expandWith refer whole (span body ++ rest)
      = do let value ← refer body
           let after ← expandWith refer rest rest
           return value ++ after := by
  rw [span_append, expandWith_of_closed (balanced.takeBody_eq rest)]

/-! ### The answers -/

/-- The answer to a body where `levels` levels may still be followed. -/
def answer (source : Source) : (levels : Nat) → (body : Text) → Except PropertyError Text
  | 0, body => do
    let target ← Target.ofTag? (span body) []
    .error (.malformed target.key .nestedTooDeeply [])
  | levels + 1, body => do
    let target ← Target.ofTag? (span body) []
    lookUp source (expand source levels) target

theorem expand_eq (source : Source) (levels : Nat) (text : Text) :
    expand source levels text = expandWith (answer source levels) text text := by
  cases levels with
  | zero =>
    rw [expand]
    congr 1
    funext body
    rw [answer]
    cases Target.ofTag? (span body) [] <;> rfl
  | succ levels =>
    rw [expand]
    congr 1
    funext body
    rw [answer]
    cases Target.ofTag? (span body) [] <;> rfl

/-- A text without a placeholder stands for itself. -/
theorem expand_of_not_has (source : Source) (levels : Nat) {text : Text}
    (absent : ¬ text.has Tag.opening) : expand source levels text = .ok text := by
  have alone : expandWith (answer source levels) text (text ++ [])
      = (expandWith (answer source levels) text []).map (text ++ ·) :=
    expandWith_append (quiet_of_not_has absent (by simp))
  rw [List.append_nil, expandWith] at alone
  rw [expand_eq, alone]
  show Except.ok (text ++ []) = _
  rw [List.append_nil]

/-! ### The key and the fallback of a body -/

/-- A key that a placeholder can name: it holds no mark of the notation. -/
structure IsKey (key : Text) : Prop where
  unopened : ¬ key.has Tag.opening
  unclosed : '}' ∉ key
  unassigned : ¬ key.has Tag.assignment

theorem ofKey?_eq_ok {key : Text} (isKey : IsKey key) : Tag.ofKey? key = .ok ⟨key, none, none⟩ := by
  rw [Tag.ofKey?, if_neg]
  rw [Bool.or_eq_true, not_or]
  exact ⟨isKey.unassigned, fun held => isKey.unclosed (List.contains_iff_mem.1 held)⟩

theorem ofTag?_key {key : Text} (isKey : IsKey key) :
    Target.ofTag? (span key) []
      = .ok ⟨Target.effectiveKey key, [], ⟨Target.effectiveKey key, none, none⟩, []⟩ := by
  have whole : key.cut? Tag.assignment = none := Text.cut?_eq_none_iff.2 isKey.unassigned
  have read : Tag.ofText? (span key) = .ok ⟨key, none, none⟩ := by
    rw [span, Tag.ofText?_span, Tag.ofBody?, whole]
    exact ofKey?_eq_ok isKey
  rw [Target.ofTag?, Target.applyTag?, read]
  rfl

theorem ofTag?_fallback {key : Text} (isKey : IsKey key) (fallback : Text) :
    Target.ofTag? (span (key ++ Tag.assignment ++ fallback)) []
      = .ok ⟨Target.effectiveKey key, [], ⟨Target.effectiveKey key, some fallback, none⟩, []⟩ := by
  have divided :
      (key ++ Tag.assignment ++ fallback).cut? Tag.assignment = some (key, fallback) := by
    rw [List.append_assoc]
    exact Text.cut?_append_pair (by decide) isKey.unassigned
  have read : Tag.ofText? (span (key ++ Tag.assignment ++ fallback))
      = .ok ⟨key, some fallback, none⟩ := by
    rw [span, Tag.ofText?_span, Tag.ofBody?, divided]
    show (Tag.ofKey? key).map (·.withFallback fallback) = _
    rw [ofKey?_eq_ok isKey]
    rfl
  rw [Target.ofTag?, Target.applyTag?, read]
  rfl

end TypedConfig.Placeholder
