import TypedConfig.Source
import TypedConfig.Target

/-!
# Placeholders

A text may hold placeholders `${key:=fallback}`. `expand` replaces each of them, from left
to right, by the value it stands for; what is put in is not scanned again, but a stored value and a
fallback may hold placeholders of their own, which are expanded one level deeper. At most
`nestingLimit` levels are followed.

The scanner is separate from the look-up: `expandWith` walks over a text and hands every span to a
function.
-/

namespace TypedConfig.Placeholder

/-- The body of a placeholder up to the brace that closes it, and what follows that brace; `depth`
counts the placeholders opened inside the body. -/
def takeBody : (depth : Nat) → Text → Option (Text × Text)
  | _, [] => none
  | depth, '$' :: '{' :: rest =>
    (takeBody (depth + 1) rest).map fun parts => ('$' :: '{' :: parts.1, parts.2)
  | 0, '}' :: rest => some ([], rest)
  | depth + 1, '}' :: rest => (takeBody depth rest).map fun parts => ('}' :: parts.1, parts.2)
  | depth, char :: rest => (takeBody depth rest).map fun parts => (char :: parts.1, parts.2)

theorem length_of_takeBody {depth : Nat} {text body rest : Text}
    (found : takeBody depth text = some (body, rest)) : rest.length < text.length := by
  fun_induction takeBody depth text generalizing body with
  | case1 => simp at found
  | case2 depth rest' ih =>
    obtain ⟨⟨inner, outer⟩, taken, same⟩ := Option.map_eq_some_iff.1 found
    obtain ⟨rfl, rfl⟩ := by simpa using same
    have := ih taken
    grind
  | case3 => simp_all
  | case4 depth rest' ih =>
    obtain ⟨⟨inner, outer⟩, taken, same⟩ := Option.map_eq_some_iff.1 found
    obtain ⟨rfl, rfl⟩ := by simpa using same
    have := ih taken
    grind
  | case5 depth char rest' _ _ _ ih =>
    obtain ⟨⟨inner, outer⟩, taken, same⟩ := Option.map_eq_some_iff.1 found
    obtain ⟨rfl, rfl⟩ := by simpa using same
    have := ih taken
    grind

/-- Replaces the placeholders of `text` by what `refer` gives for their bodies. The error of an
unclosed placeholder names `whole`, the text since the last placeholder. -/
def expandWith (refer : Text → Except PropertyError Text) (whole text : Text) :
    Except PropertyError Text :=
  match text with
  | [] => .ok []
  | '$' :: '{' :: rest =>
    match found : takeBody 0 rest with
    | none => .error (.malformed whole .unbalancedBraces [])
    | some (body, after) =>
      match refer body with
      | .error error => .error error
      | .ok value =>
        have := length_of_takeBody found
        (expandWith refer after after).map (value ++ ·)
  | char :: rest => (expandWith refer whole rest).map (char :: ·)
termination_by text.length

/-- The number of levels of look-ups inside a look-up. -/
def nestingLimit : Nat := 64

/-- The value of a target, its text expanded by `expand`: the stored value unless it is empty, else
the fallback, else the empty text of a key that exists without a value. -/
def lookUp (source : Source) (expand : Text → Except PropertyError Text) (target : Target) :
    Except PropertyError Text :=
  match (source.get? target.key).filter fun value => !value.isEmpty with
  | some value => expand value
  | none =>
    match target.tag.fallback with
    | some fallback => expand fallback
    | none => if source.has target.key then .ok [] else .error (.notExist target.key target.path)

/-- The text of the placeholder with a body. -/
def span (body : Text) : Text := Tag.opening ++ body ++ ['}']

/-- The value of a text whose placeholders may be followed for `levels` levels. -/
def expand (source : Source) : (levels : Nat) → (text : Text) → Except PropertyError Text
  | 0, text => expandWith (fun body =>
      match Target.ofTag? (span body) [] with
      | .error error => .error error
      | .ok target => .error (.malformed target.key .nestedTooDeeply [])) text text
  | levels + 1, text => expandWith (fun body =>
      match Target.ofTag? (span body) [] with
      | .error error => .error error
      | .ok target => lookUp source (expand source levels) target) text text

/-- The value of a text. -/
def resolveText (source : Source) (text : Text) : Except PropertyError Text :=
  expand source nestingLimit text

/-- The text of a target. -/
def resolve (source : Source) (target : Target) : Except PropertyError Text :=
  lookUp source (expand source nestingLimit) target

/-- Whether a text holds the opening of a placeholder. -/
def occursIn (text : Text) : Bool := text.has Tag.opening

end TypedConfig.Placeholder
