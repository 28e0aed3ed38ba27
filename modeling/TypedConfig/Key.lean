import TypedConfig.Text.Basic

/-!
# Property keys

A key names a place in a tree of properties: segments separated by dots, each a name followed by
indices in square brackets, as in `server.hosts[0].port`.

* `Key.WellFormed`: the grammar of keys, through the segments that a key is written from.
* `Key.containers?`: one pass over a text, which either finds the keys of the containers around the
  place or the first fault.
* `Key.isBelow`: a key is below another when it continues that key with a dot or an index.
-/

namespace TypedConfig.Key

/-! ### The grammar -/

/-- A name and the indices behind it. -/
structure Segment where
  name : Text
  indices : List Text

/-- The characters that end a name. -/
def isMark (char : Char) : Bool := char = '.' || char = '[' || char = ']'

/-- Whether a text can be the name of a segment. -/
def isName (name : Text) : Bool := !name.isEmpty && name.all fun char => !isMark char

/-- A segment has a name without marks, and its indices are runs of digits. -/
def Segment.Valid (segment : Segment) : Prop :=
  isName segment.name ∧ ∀ index ∈ segment.indices, Text.isDigits index

/-- The written form of a segment. -/
def Segment.text (segment : Segment) : Text :=
  segment.name ++ segment.indices.flatMap fun index => '[' :: index ++ [']']

/-- The written form of a list of segments. -/
def ofSegments (segments : List Segment) : Text := Text.join ['.'] (segments.map Segment.text)

/-- A key is well formed when it is written from at least one segment. -/
def WellFormed (key : Text) : Prop :=
  ∃ segments, segments ≠ [] ∧ (∀ segment ∈ segments, segment.Valid) ∧ key = ofSegments segments

/-! ### Scanning -/

/-- What is wrong with a text that is no key. -/
inductive Fault where
  | empty
  | emptySegment
  | indexWithoutName
  | unclosedIndex
  | indexNotDigits
  | textAfterIndex
  | strayBracket
  deriving DecidableEq

/-- The wording of a fault. -/
def Fault.message : Fault → Text
  | .empty => "property key cannot be empty"
  | .emptySegment => "empty path segment"
  | .indexWithoutName => "index without a name"
  | .unclosedIndex => "unclosed index"
  | .indexNotDigits => "index must be a non-negative integer"
  | .textAfterIndex => "unexpected character after index"
  | .strayBracket => "unbalanced `]`"

/-- Where the scanner stands: before a name, inside one, inside the brackets of an index (with at
least one digit read, and with digits only, or not), or behind an index. -/
inductive Spot where
  | start
  | name
  | index (nonempty digits : Bool)
  | closed

/-- The containers that are still to be found when `done` has been read and the scanner stands at
`spot`. -/
def scan : (spot : Spot) → (done text : Text) → Except Fault (List Text)
  | .start, _, [] => .error .emptySegment
  | .name, _, [] => .ok []
  | .index _ _, _, [] => .error .unclosedIndex
  | .closed, _, [] => .ok []
  | .start, done, char :: text =>
    if char = '.' then .error .emptySegment
    else if char = '[' then .error .indexWithoutName
    else if char = ']' then .error .strayBracket
    else scan .name (done ++ [char]) text
  | .name, done, char :: text =>
    if char = '.' then (scan .start (done ++ [char]) text).map (done :: ·)
    else if char = '[' then (scan (.index false true) (done ++ [char]) text).map (done :: ·)
    else if char = ']' then .error .strayBracket
    else scan .name (done ++ [char]) text
  | .index nonempty digits, done, char :: text =>
    if char = ']' then
      if nonempty && digits then scan .closed (done ++ [char]) text else .error .indexNotDigits
    else scan (.index true (digits && char.isDigit)) (done ++ [char]) text
  | .closed, done, char :: text =>
    if char = '.' then (scan .start (done ++ [char]) text).map (done :: ·)
    else if char = '[' then (scan (.index false true) (done ++ [char]) text).map (done :: ·)
    else .error .textAfterIndex

/-- The keys of the containers around a place, the outermost first, or the first fault of a text
that is no key. -/
def containers? (key : Text) : Except Fault (List Text) :=
  if key = [] then .error .empty else scan .start [] key

/-! ### Keys of other keys -/

/-- The key of a member of the container at `key`; at the root it is the member's own name. -/
def child (key segment : Text) : Text := if key = [] then segment else key ++ '.' :: segment

/-- The key of an element of the sequence at `key`. -/
def element (key : Text) (index : Nat) : Text := key ++ '[' :: Text.ofNat index ++ [']']

/-- What follows `top` in a key that starts with it and goes on with a dot or an index. -/
def suffixBelow? (top key : Text) : Option Text :=
  match key.dropStart? top with
  | some (char :: rest) => if char = '.' || char = '[' then some (char :: rest) else none
  | _ => none

/-- Whether a key lies inside the container named `top`. -/
def isBelow (top key : Text) : Bool := (suffixBelow? top key).isSome

/-- The name in front of the first dot or opening bracket. -/
def firstName (rest : Text) : Text := rest.takeWhile fun char => char != '.' && char != '['

example : (containers? "a.b[0][1].c").toOption =
    some (["a", "a.b", "a.b[0]", "a.b[0][1]"] : List Text) := by
  decide

end TypedConfig.Key
