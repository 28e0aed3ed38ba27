import TypedConfig.Store.Basic
import TypedConfig.Text.Blank

/-!
# Lines of properties

A text of properties is read line by line. Blank lines and comments are passed over; any other line
is a key and a value with `=` or `:` between them, whichever comes first, and blanks around both are
dropped.

`setLines` writes the properties of lines into a store, up to the first line that is no property or
cannot be written.
-/

namespace TypedConfig

/-- What a line holds. -/
inductive PropertyLine where
  | skipped
  | property (key value : Text)
  | malformed
  deriving DecidableEq

/-- What stops the reading of lines. -/
inductive LineError where
  /-- The line of a number, counted from one, has no separator. -/
  | malformed (number : Nat)
  | store (error : PropertyError)
  deriving DecidableEq

/-- Whether a character separates a key from its value. -/
def isSeparator (char : Char) : Bool := char = '=' || char = ':'

/-- Whether a character begins a comment. -/
def isCommentMark (char : Char) : Bool := char = '#' || char = '!'

/-- What a line holds that has no blanks at its ends. -/
def PropertyLine.ofTrimmed (line : Text) : PropertyLine :=
  if line.isEmpty || line.head?.any isCommentMark then .skipped
  else match line.dropWhile (fun char => !isSeparator char) with
    | _ :: value =>
      .property (Text.trim (line.takeWhile fun char => !isSeparator char)) (Text.trim value)
    | [] => .malformed

/-- What a line holds. -/
def PropertyLine.ofText (line : Text) : PropertyLine := ofTrimmed line.trim

/-- Writes the properties of lines, the first of which has a number. -/
def setLines : (store : Store) → (number : Nat) → List Text → Except LineError Store
  | store, _, [] => .ok store
  | store, number, line :: lines =>
    match PropertyLine.ofText line with
    | .skipped => setLines store (number + 1) lines
    | .malformed => .error (.malformed number)
    | .property key value =>
      match store.set key value with
      | .error error => .error (.store error)
      | .ok store => setLines store (number + 1) lines

/-- The store of a text of properties. -/
def Store.ofLines? (text : Text) : Except LineError Store := setLines .empty 1 (text.splitOn '\n')

end TypedConfig
