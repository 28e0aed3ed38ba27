import TypedConfig.Toml.Node
import TypedConfig.Toml.Quoted
import TypedConfig.Toml.Scalar

/-!
# Reading a TOML document

Every reader takes something from the front of a text and gives what follows it. Values nest by
arrays and inline tables, at most `nestingLimit` of them inside one another. A list of items ends
because a reader never leaves more than it was given (`Reader`), and a mark is taken off between two
items.

`read?` reads the value of a document: an object.
-/

namespace TypedConfig.Toml

/-- The number of containers that may be open at once. -/
def nestingLimit : Nat := 79

/-- The number of names that a key may have. -/
def keyLimit : Nat := 79

/-! ### Keys -/

/-- Whether a character can stand in a name without quotes. -/
def isNameChar (char : Char) : Bool := char.isAlphanum || char = '_' || char = '-'

/-- A name, in quotes or without. -/
def name? (text : Text) : Option (Text × Text) :=
  match text with
  | '"' :: _ | '\'' :: _ => quotedName? text
  | _ =>
    let name := text.takeWhile isNameChar
    if name = [] then none else some (name, text.dropWhile isNameChar)

theorem length_of_name? {text name rest : Text} (found : name? text = some (name, rest)) :
    rest.length ≤ text.length := by
  unfold name? at found
  split at found
  · exact length_of_quotedName? found
  · exact length_of_quotedName? found
  · dsimp only at found
    split at found
    · cases found
    · cases found
      exact (List.dropWhile_sublist _).length_le

/-- Names with points between them, blanks around each. -/
def names? (text : Text) : Option (List Text × Text) :=
  match found : name? (skipBlanks text) with
  | some (name, rest) =>
    match pointed : skipBlanks rest with
    | '.' :: after =>
      have : after.length < text.length := by
        have blanks := length_skipBlanks text
        have named := length_of_name? found
        have point := length_of_skipBlanks_eq pointed
        omega
      (names? after).map fun parts => (name :: parts.1, parts.2)
    | after => some ([name], after)
  | none => none
termination_by text.length

theorem length_of_names? {text rest : Text} {names : List Text}
    (found : names? text = some (names, rest)) : rest.length ≤ text.length := by
  fun_induction names? text generalizing names with
  | case1 text name behind named after pointed shorter ih =>
    obtain ⟨inner, read⟩ := exists_of_map_eq_some found fun _ => rfl
    exact Nat.le_trans (ih read) (Nat.le_of_lt shorter)
  | case2 text name behind named =>
    cases found
    have start := length_skipBlanks text
    have first := length_of_name? named
    have last := length_skipBlanks behind
    omega
  | case3 => cases found

/-- A key of a limited number of names. -/
def key? (text : Text) : Option (List Text × Text) :=
  (names? text).filter fun parts => parts.1.length ≤ keyLimit

theorem length_of_key? {text rest : Text} {names : List Text}
    (found : key? text = some (names, rest)) : rest.length ≤ text.length :=
  length_of_names? (Option.filter_eq_some_iff.1 found).1

/-! ### Values -/

/-- A reader of values; it leaves no more than it is given. -/
structure Reader where
  read? : Text → Option (Node × Text)
  length_of_read? {text rest : Text} {node : Node} :
    read? text = some (node, rest) → rest.length ≤ text.length

/-- The items of an array up to its closing bracket. -/
def items? (reader : Reader) (text : Text) : Option (List Node × Text) :=
  match opened : skipLines? text with
  | none => none
  | some (']' :: rest) => some ([], rest)
  | some start =>
    match found : reader.read? start with
    | none => none
    | some (node, rest) =>
      match parted : skipLines? rest with
      | some (']' :: rest) => some ([node], rest)
      | some (',' :: next) =>
        have : next.length < text.length := by
          have lines := length_of_skipLines? opened
          have item := reader.length_of_read? found
          have comma := length_of_skipLines? parted
          rw [List.length_cons] at comma
          omega
        (items? reader next).map fun parts => (node :: parts.1, parts.2)
      | _ => none
termination_by text.length

theorem length_of_items? {reader : Reader} {text rest : Text} {items : List Node}
    (found : items? reader text = some (items, rest)) : rest.length ≤ text.length := by
  fun_induction items? reader text generalizing items with
  | case1 | case3 | case6 => cases found
  | case2 text behind opened =>
    cases found
    exact Nat.le_of_succ_le (length_of_skipLines? opened)
  | case4 text start _ opened node behind read last closed =>
    cases found
    have lines := length_of_skipLines? opened
    have item := reader.length_of_read? read
    have bracket := length_of_skipLines? closed
    rw [List.length_cons] at bracket
    omega
  | case5 text start _ opened node behind read next parted shorter ih =>
    obtain ⟨inner, others⟩ := exists_of_map_eq_some found fun _ => rfl
    exact Nat.le_trans (ih others) (Nat.le_of_lt shorter)

/-- A key with the value behind its equals sign. -/
def assignment? (reader : Reader) (text : Text) : Option ((List Text × Node) × Text) :=
  match key? text with
  | some (key, '=' :: rest) =>
    (reader.read? (skipBlanks rest)).map fun parts => ((key, parts.1), parts.2)
  | _ => none

theorem length_of_assignment? {reader : Reader} {text rest : Text} {entry : List Text × Node}
    (found : assignment? reader text = some (entry, rest)) : rest.length ≤ text.length := by
  unfold assignment? at found
  split at found
  next key behind named =>
    obtain ⟨node, read⟩ := exists_of_map_eq_some found fun _ => rfl
    have sign := length_of_key? named
    have blanks := length_skipBlanks behind
    have value := reader.length_of_read? read
    rw [List.length_cons] at sign
    omega
  next => cases found

/-- The entries of an inline table up to its closing brace; there is at least one. -/
def entries? (reader : Reader) (text : Text) : Option (List (List Text × Node) × Text) :=
  match found : assignment? reader text with
  | none => none
  | some (entry, rest) =>
    match parted : skipBlanks rest with
    | '}' :: rest => some ([entry], rest)
    | ',' :: next =>
      have : next.length < text.length := by
        have first := length_of_assignment? found
        have comma := length_of_skipBlanks_eq parted
        omega
      (entries? reader next).map fun parts => (entry :: parts.1, parts.2)
    | _ => none
termination_by text.length

theorem length_of_entries? {reader : Reader} {text rest : Text}
    {entries : List (List Text × Node)} (found : entries? reader text = some (entries, rest)) :
    rest.length ≤ text.length := by
  fun_induction entries? reader text generalizing entries with
  | case1 | case4 => cases found
  | case2 text entry behind read last closed =>
    cases found
    have first := length_of_assignment? read
    have brace := length_of_skipBlanks_eq closed
    omega
  | case3 text entry behind read next parted shorter ih =>
    obtain ⟨inner, others⟩ := exists_of_map_eq_some found fun _ => rfl
    exact Nat.le_trans (ih others) (Nat.le_of_lt shorter)

/-- An inline table behind its opening brace. -/
def inlineTable? (reader : Reader) (text : Text) : Option (Node × Text) :=
  match skipBlanks text with
  | '}' :: rest => some (.table .inline [], rest)
  | start => do
    let (entries, rest) ← entries? reader start
    let members ← addEntries [] entries
    pure (.table .inline members, rest)

theorem length_of_inlineTable? {reader : Reader} {text rest : Text} {node : Node}
    (found : inlineTable? reader text = some (node, rest)) : rest.length ≤ text.length := by
  unfold inlineTable? at found
  split at found
  next last closed =>
    cases found
    exact Nat.le_of_lt (length_of_skipBlanks_eq closed)
  next =>
    obtain ⟨⟨entries, last⟩, read, found⟩ := Option.bind_eq_some_iff.1 found
    obtain ⟨members, -, same⟩ := Option.bind_eq_some_iff.1 found
    cases same
    exact Nat.le_trans (length_of_entries? read) (length_skipBlanks text)

/-- A value whose parts a reader reads; without one it can be no container. -/
def node? (inner : Option Reader) (text : Text) : Option (Node × Text) :=
  match text with
  | '[' :: rest =>
    inner.bind fun reader => (items? reader rest).map fun parts => (.array parts.1, parts.2)
  | '{' :: rest => inner.bind fun reader => inlineTable? reader rest
  | '"' :: _ | '\'' :: _ => (string? text).map fun parts => (.string parts.1, parts.2)
  | _ => (scalar? text).map fun parts => (.word parts.1, parts.2)

theorem length_of_node? {inner : Option Reader} {text rest : Text} {node : Node}
    (found : node? inner text = some (node, rest)) : rest.length ≤ text.length := by
  unfold node? at found
  split at found
  next =>
    obtain ⟨reader, -, found⟩ := Option.bind_eq_some_iff.1 found
    obtain ⟨items, read⟩ := exists_of_map_eq_some found fun _ => rfl
    exact Nat.le_succ_of_le (length_of_items? read)
  next =>
    obtain ⟨reader, -, found⟩ := Option.bind_eq_some_iff.1 found
    exact Nat.le_succ_of_le (length_of_inlineTable? found)
  next =>
    obtain ⟨content, read⟩ := exists_of_map_eq_some found fun _ => rfl
    exact length_of_string? read
  next =>
    obtain ⟨content, read⟩ := exists_of_map_eq_some found fun _ => rfl
    exact length_of_string? read
  next =>
    obtain ⟨value, read⟩ := exists_of_map_eq_some found fun _ => rfl
    exact length_of_scalar? read

/-- The reader of values in which a limited number of containers can be open at once. -/
def nodeReader : (room : Nat) → Reader
  | 0 => ⟨node? none, length_of_node?⟩
  | room + 1 => ⟨node? (some (nodeReader room)), length_of_node?⟩

/-! ### Documents -/

/-- A statement of a document. -/
inductive Statement where
  | entry (entry : List Text × Node)
  /-- The header of a table, or of a further table of an array. -/
  | header (path : List Text) (repeated : Bool)

/-- A header behind its opening bracket. -/
def header? : Text → Option (Statement × Text)
  | '[' :: rest =>
    match key? rest with
    | some (path, ']' :: ']' :: rest) => some (.header path true, rest)
    | _ => none
  | rest =>
    match key? rest with
    | some (path, ']' :: rest) => some (.header path false, rest)
    | _ => none

theorem length_of_header? {text rest : Text} {statement : Statement}
    (found : header? text = some (statement, rest)) : rest.length ≤ text.length := by
  unfold header? at found
  split at found
  next inner =>
    split at found
    next path last named =>
      cases found
      have brackets := length_of_key? named
      simp only [List.length_cons] at brackets ⊢
      omega
    next => cases found
  next =>
    split at found
    next path last named =>
      cases found
      have bracket := length_of_key? named
      rw [List.length_cons] at bracket
      omega
    next => cases found

/-- A statement at the front of a text. -/
def statement? : Text → Option (Statement × Text)
  | '[' :: rest => header? rest
  | text => (assignment? (nodeReader nestingLimit) text).map fun parts => (.entry parts.1, parts.2)

theorem length_of_statement? {text rest : Text} {statement : Statement}
    (found : statement? text = some (statement, rest)) : rest.length ≤ text.length := by
  unfold statement? at found
  split at found
  next => exact Nat.le_succ_of_le (length_of_header? found)
  next =>
    obtain ⟨entry, read⟩ := exists_of_map_eq_some found fun _ => rfl
    exact length_of_assignment? read

/-- The statements of a text; each ends its line. -/
def statements? (text : Text) : Option (List Statement) :=
  match start : skipBlanks text with
  | [] => some []
  | char :: rest =>
    if char = '#' || char = '\n' || char = '\r' then
      match ended : endLine? (char :: rest) with
      | none => none
      | some after =>
        have : after.length < text.length := length_of_line start (Nat.le_refl _) ended
        statements? after
    else
      match found : statement? (char :: rest) with
      | none => none
      | some (statement, last) =>
        match ended : endLine? last with
        | none => none
        | some after =>
          have : after.length < text.length :=
            length_of_line start (length_of_statement? found) ended
          (statements? after).map (statement :: ·)
termination_by text.length

/-- The entries in front of the first header, and the sections. -/
def sections : List Statement → List (List Text × Node) × List Section
  | [] => ([], [])
  | .entry entry :: statements =>
    let (entries, parts) := sections statements
    (entry :: entries, parts)
  | .header path repeated :: statements =>
    let (entries, parts) := sections statements
    ([], ⟨path, repeated, entries⟩ :: parts)

/-- A text without a byte order mark. -/
def dropMark : Text → Text
  | '\uFEFF' :: rest => rest
  | text => text

/-- The value of a document, or nothing when its text is none. -/
def read? (text : Text) : Option Value := do
  let statements ← statements? (dropMark text)
  let (entries, parts) := sections statements
  documentValue? entries parts

end TypedConfig.Toml
