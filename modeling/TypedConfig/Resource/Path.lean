import TypedConfig.Text.Basic

/-!
# Paths

A path is a text whose names are separated by slashes. `join` puts a path below another one;
`extension?` is the part of the last name behind its last point.
-/

namespace TypedConfig.Path

/-- Whether a path starts at the root of all files. -/
def isAbsolute (path : Text) : Bool := path.head? = some '/'

/-- A path below another one; an absolute path is left as it is. -/
def join (top path : Text) : Text :=
  if isAbsolute path || top = [] || top.getLast? = some '/' then
    if isAbsolute path then path else top ++ path
  else top ++ '/' :: path

/-- The names of a path; empty names and names that mean the place itself are left out. -/
def names (path : Text) : List Text :=
  (path.splitOn '/').filter fun name => name != [] && name != ['.']

/-- The extension of the last name. A name that only begins with a point has none, and neither has
the way up. -/
def extension? (path : Text) : Option Text :=
  match (names path).getLast? with
  | none => none
  | some name =>
    if name = ['.', '.'] then none
    else match name.cutLast? ['.'] with
      | some (before, after) => if before = [] then none else some after
      | none => none

end TypedConfig.Path
