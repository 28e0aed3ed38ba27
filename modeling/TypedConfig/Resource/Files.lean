import TypedConfig.Resource.Basic

/-!
# Files

Resources are read from files. All that matters of a file system is what reading a path gives: a
text, nothing, or a failure.
-/

namespace TypedConfig

/-- What reading a path gives. -/
inductive FileContent where
  | text (content : Text)
  /-- There is nothing at the path. -/
  | absent
  /-- What is at the path, or on the way to it, cannot be read as a text. -/
  | unreadable
  deriving DecidableEq

/-- What reading gives for every path. -/
abbrev Files := Text → FileContent

namespace Resource

/-- The resource of a path, if there is one. -/
def ofFile? (files : Files) (path : Text) : Except ResourceError (Option Resource) :=
  match files path with
  | .text content => .ok (some ⟨path, content⟩)
  | .absent => .ok none
  | .unreadable => .error (.unreadable path)

/-- The resource of a path where one has to be. -/
def read (files : Files) (path : Text) : Except ResourceError Resource :=
  match files path with
  | .text content => .ok ⟨path, content⟩
  | _ => .error (.unreadable path)

end Resource

end TypedConfig
