import TypedConfig.Toml.Moment
import TypedConfig.Value.Basic

/-!
# The tables of a TOML document

A document grows by entries: a value is put at a path of names. Names on the way to it are tables
that come to be when they are needed. How a table came to be decides what may be added to it later:

* a table that a header states is complete once the next header begins;
* a table that headers only pass through may still be stated, and dotted keys may pass through it;
* a table of dotted keys takes further entries of dotted keys, but may not be stated;
* an inline table is complete.

A table at the end of an array of tables takes the part of the array when a path passes it.

Members keep the order in which they came to be. It decides one thing: a table below the root whose
first name is `momentName` stands for a moment, which the string under that name writes, and its
other members are of no account.
-/

namespace TypedConfig.Toml

/-- How a table came to be. -/
inductive Origin where
  /-- A header names it. -/
  | stated
  /-- The path of a header passes through it. -/
  | passed
  /-- The path of a dotted key passes through it. -/
  | dotted
  /-- It is written between braces. -/
  | inline
  deriving DecidableEq

/-- What stands under a name while a document is read. -/
inductive Node where
  | string (text : Text)
  /-- A number, a boolean or a moment. -/
  | word (value : Value)
  | array (items : List Node)
  | table (origin : Origin) (members : List (Text × Node))
  /-- The tables of an array, the last one apart from those before it. -/
  | tables (former : List (List (Text × Node))) (last : List (Text × Node))

/-- The members of a table. -/
abbrev Members := List (Text × Node)

/-! ### Values -/

/-- The first name of a table that stands for a moment. -/
def momentName : Text := "$__toml_private_datetime"

/-- The value of a table below the root, from its members and their values. -/
def tableValue? (members : Members) (values : Option (List (Text × Value))) : Option Value :=
  match members with
  | [] => some (.object [])
  | (name, node) :: _ =>
    if name = momentName then
      match node with
      | .string text => (Moment.ofText? text).map fun moment => .string moment.text
      | _ => none
    else values.map Value.ofMembers

mutual

/-- The value of a node, if every table that stands for a moment writes one. -/
def Node.value? : Node → Option Value
  | .string text => some (.string text)
  | .word value => some value
  | .array items => (itemValues? items).map .array
  | .table _ members => tableValue? members (memberValues? members)
  | .tables former last => do
    let formerValues ← tableValues? former
    let lastValue ← tableValue? last (memberValues? last)
    pure (.array (formerValues ++ [lastValue]))

/-- The values of items. -/
def itemValues? : List Node → Option (List Value)
  | [] => some []
  | node :: items => do
    let value ← node.value?
    let values ← itemValues? items
    pure (value :: values)

/-- The values of members. -/
def memberValues? : List (Text × Node) → Option (List (Text × Value))
  | [] => some []
  | (name, node) :: members => do
    let value ← node.value?
    let values ← memberValues? members
    pure ((name, value) :: values)

/-- The values of tables. -/
def tableValues? : List (List (Text × Node)) → Option (List Value)
  | [] => some []
  | members :: tables => do
    let value ← tableValue? members (memberValues? members)
    let values ← tableValues? tables
    pure (value :: values)

end

/-! ### Entries -/

/-- Members with a node under a name, in the place of the former node or behind all others. -/
def put (name : Text) (node : Node) : Members → Members
  | [] => [(name, node)]
  | (other, old) :: members =>
    if name = other then (name, node) :: members else (other, old) :: put name node members

/-- Members with a node under a name, behind all others. -/
def putLast (name : Text) (node : Node) (members : Members) : Members :=
  members.filter (fun member => member.1 != name) ++ [(name, node)]

/-- Changes the table at a path below members. Tables that are missing on the way come to be with
the origin `way`; a dotted key may not pass through a table that is stated, and nothing passes
through an inline table or through what is no table. -/
def change (way : Origin) (act : Origin → Members → Option Members) :
    (path : List Text) → (origin : Origin) → Members → Option Members
  | [], origin, members => act origin members
  | name :: path, _, members =>
    match Table.get? name members with
    | none => (change way act path way []).map fun inner => put name (.table way inner) members
    | some (.table origin inner) =>
      if origin = .inline || way = .dotted && origin = .stated then none
      else
        (change way act path origin inner).map fun inner => put name (.table origin inner) members
    | some (.tables former last) =>
      (change way act path .stated last).map fun last => put name (.tables former last) members
    | some _ => none

/-- Puts a node under a name that is not taken. -/
def enter (name : Text) (node : Node) (members : Members) : Option Members :=
  if (Table.get? name members).isSome then none else some (put name node members)

/-- Members with a node under a dotted key. Dotted keys add to their own tables only. -/
def addEntry (members : Members) (entry : List Text × Node) : Option Members :=
  match entry.1.getLast? with
  | none => none
  | some name =>
    let path := entry.1.dropLast
    change .dotted (fun origin inner =>
      if path.isEmpty || origin = .dotted then enter name entry.2 inner else none)
      path .stated members

/-- Members with nodes under dotted keys, one after the other. -/
def addEntries (members : Members) (entries : List (List Text × Node)) : Option Members :=
  entries.foldlM addEntry members

/-- A header with the entries below it. -/
structure Section where
  path : List Text
  /-- Whether the header begins a further table of an array. -/
  repeated : Bool
  entries : List (List Text × Node)

/-- The members of a document with a further section. A table that is stated after headers have
passed through it moves behind the other members of its parent. -/
def addSection (members : Members) (part : Section) : Option Members :=
  match part.path.getLast? with
  | none => none
  | some name =>
    change .passed (fun _ inner =>
      match part.repeated, Table.get? name inner with
      | false, none =>
        (addEntries [] part.entries).map fun table => put name (.table .stated table) inner
      | false, some (.table .passed table) =>
        (addEntries table part.entries).map fun table => putLast name (.table .stated table) inner
      | true, none => (addEntries [] part.entries).map fun table => put name (.tables [] table) inner
      | true, some (.tables former last) =>
        (addEntries [] part.entries).map fun table =>
          put name (.tables (former ++ [last]) table) inner
      | _, _ => none) part.path.dropLast .stated members

/-- The value of a document: its entries in front of the first header, and its sections. -/
def documentValue? (entries : List (List Text × Node)) (parts : List Section) : Option Value := do
  let members ← addEntries [] entries
  let members ← parts.foldlM addSection members
  let values ← memberValues? members
  pure (.ofMembers values)

end TypedConfig.Toml
