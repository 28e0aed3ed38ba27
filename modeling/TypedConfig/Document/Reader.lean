import TypedConfig.Document.Token

/-!
# Reading a document

`read?` reads the value of a document from its tokens, with a stack of the containers that
are still open; it accepts at most `nestingLimit` of them inside one another.
-/

namespace TypedConfig.Document

/-- The number of containers that may be open at once. -/
def nestingLimit : Nat := 127

/-- A container that is still open, its items in reverse order. -/
inductive Frame where
  | array (items : List Value)
  | object (members : List (Text × Value))
  /-- An object whose member `name` has no value yet. -/
  | member (members : List (Text × Value)) (name : Text)

/-- What may come next. -/
inductive Expecting where
  /-- A value. -/
  | value
  /-- A value or the end of an array that has just been opened. -/
  | valueOrClose
  /-- A name or the end of an object that has just been opened. -/
  | nameOrClose
  /-- A name. -/
  | name
  /-- The colon behind a name. -/
  | colon
  /-- What follows a value: a comma, the end of a container, or the end of the document. -/
  | next

/-- Where reading stands: the open containers, what may come next, and the value that is complete
when no container is open. -/
structure Reading where
  frames : List Frame
  expecting : Expecting
  result : Option Value

/-- A complete value is put into the innermost container. -/
def Reading.complete (reading : Reading) (value : Value) : Option Reading :=
  match reading.frames with
  | [] => some ⟨[], .next, some value⟩
  | .array items :: frames => some ⟨.array (value :: items) :: frames, .next, none⟩
  | .member members name :: frames => some ⟨.object ((name, value) :: members) :: frames, .next, none⟩
  | .object _ :: _ => none

/-- A container is opened where a value is expected. -/
def Reading.open (reading : Reading) (frame : Frame) (expecting : Expecting) : Option Reading :=
  if reading.frames.length < nestingLimit then some ⟨frame :: reading.frames, expecting, none⟩
  else none

/-- The step of reading for one token. -/
def Reading.step (reading : Reading) (token : Token) : Option Reading :=
  match reading.expecting, token with
  | .value, .scalar value | .valueOrClose, .scalar value => reading.complete value
  | .value, .string text | .valueOrClose, .string text => reading.complete (.string text)
  | .value, .openArray | .valueOrClose, .openArray => reading.open (.array []) .valueOrClose
  | .value, .openObject | .valueOrClose, .openObject => reading.open (.object []) .nameOrClose
  | .valueOrClose, .closeArray | .next, .closeArray =>
    match reading.frames with
    | .array items :: frames => Reading.complete ⟨frames, .next, none⟩ (.array items.reverse)
    | _ => none
  | .nameOrClose, .closeObject | .next, .closeObject =>
    match reading.frames with
    | .object members :: frames =>
      Reading.complete ⟨frames, .next, none⟩ (Value.ofMembers members.reverse)
    | _ => none
  | .nameOrClose, .string name | .name, .string name =>
    match reading.frames with
    | .object members :: frames => some ⟨.member members name :: frames, .colon, none⟩
    | _ => none
  | .colon, .colon => some { reading with expecting := .value }
  | .next, .comma =>
    match reading.frames with
    | .array _ :: _ => some { reading with expecting := .value }
    | .object _ :: _ => some { reading with expecting := .name }
    | _ => none
  | _, _ => none

/-- The value of a document, or nothing when its text is none. -/
def read? (text : Text) : Option Value := do
  let tokens ← tokens? text
  let reading ← tokens.foldlM Reading.step ⟨[], .value, none⟩
  if reading.frames.isEmpty then reading.result else none

end TypedConfig.Document
