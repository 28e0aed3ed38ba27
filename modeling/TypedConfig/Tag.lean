import TypedConfig.Text.Blank

/-!
# Value tags

A tag `${key:=fallback}||splitter` says where a value comes from: the key that is looked up, the
text that stands in for a missing value, and the name of the function that divides the text of a
sequence.

* `Tag.text` writes a tag, `Tag.ofText?` reads one out of a text that may hold more around it.
* `Tag.ofKey?`, `Tag.withFallback` and `Tag.withSplitter?` build a tag from its parts and refuse
  the parts that could not be read back.
-/

namespace TypedConfig

/-- A key to look up, with the text for a missing value and the name of a splitter. -/
structure Tag where
  key : Text
  fallback : Option Text
  splitter : Option Text
  deriving DecidableEq

namespace Tag

/-- The tag without a key, a fallback or a splitter. -/
def empty : Tag := ⟨[], none, none⟩

/-- What keeps a text from being a tag. -/
inductive Fault where
  | splitterAlone
  | unclosed
  | unopened
  | closedTooEarly
  | keyMarks
  | splitterMarks
  deriving DecidableEq

/-- The wording of a fault. -/
def Fault.message : Fault → Text
  | .splitterAlone => "splitter without a value tag"
  | .unclosed => "missing closing `\x7d`"
  | .unopened => "missing opening `$\x7b`"
  | .closedTooEarly => "closing `\x7d` precedes `$\x7b`"
  | .keyMarks => "tag key must not contain `:=` or `\x7d`"
  | .splitterMarks => "splitter name must not contain `|` or `\x7d`"

/-- The opening of a tag and of a placeholder. -/
def opening : Text := ['$', '{']

/-- The mark between the key and the fallback. -/
def assignment : Text := [':', '=']

/-- The mark in front of the name of a splitter. -/
def bars : Text := ['|', '|']

/-- The tag of a key, which may hold neither the assignment mark nor a closing brace. -/
def ofKey? (key : Text) : Except Fault Tag :=
  if key.has assignment || key.contains '}' then .error .keyMarks
  else .ok ⟨key, none, none⟩

/-- The tag with a text for a missing value. -/
def withFallback (tag : Tag) (fallback : Text) : Tag := { tag with fallback := some fallback }

/-- The tag with a splitter; blanks around the name are dropped, and a blank name takes the
splitter away. -/
def withSplitter? (tag : Tag) (name : Text) : Except Fault Tag :=
  let name := name.trim
  if name.contains '|' || name.contains '}' then .error .splitterMarks
  else .ok { tag with splitter := if name = [] then none else some name }

/-- The key and the fallback between the braces of a tag. -/
def ofBody? (body : Text) : Except Fault Tag :=
  match body.cut? assignment with
  | some (key, fallback) => (ofKey? key).map (·.withFallback fallback)
  | none => ofKey? body

/-- Reads a tag: its body lies between the first `${` and the last `}`, and a splitter is named
behind the last `||`, if that stands behind the body. -/
def ofText? (text : Text) : Except Fault Tag := do
  if (text.cutLast? bars).any fun parts => parts.1.isEmpty then throw .splitterAlone
  match text.cutLast? ['}'] with
  | none => throw .unclosed
  | some (front, behind) =>
    if front = [] then throw .unclosed
    match front.cut? opening with
    | none => throw (if text.has opening then .closedTooEarly else .unopened)
    | some (_, body) =>
      let tag ← ofBody? body
      match behind.cutLast? bars with
      | none => pure tag
      | some (_, name) => tag.withSplitter? name

/-- The written form of a tag. -/
def text (tag : Tag) : Text :=
  opening ++ tag.key
    ++ (match tag.fallback with | some fallback => assignment ++ fallback | none => [])
    ++ ['}']
    ++ (match tag.splitter with | some name => bars ++ name | none => [])

example : (ofText? "a $\x7bk:=a\x7d||b:=c\x7d || words ").toOption
    = some ⟨"k", some ("a\x7d||b:=c" : String).toList, some ("words" : String).toList⟩ := by decide

end Tag

end TypedConfig
