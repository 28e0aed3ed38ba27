import TypedConfig.Toml.Line

/-!
# Strings of a TOML document

A string is basic, with escapes, or literal, without; either kind can span lines between three
quotes. In a string of several lines a line end is a line feed, the line end right behind the opening
quotes is dropped, and up to two quotes may stand in front of the closing ones.

`string?` reads a string of any kind, `quotedName?` one within a line.
-/

namespace TypedConfig.Toml

/-- The character with a code point, unless that is a surrogate or too great. -/
def charOfCode? (code : Nat) : Option Char :=
  if code.isValidChar then some (Char.ofNat code) else none

/-- The character that digits in base sixteen stand for. -/
def charOfHex? (digits : Text) : Option Char :=
  if digits.all fun digit => (Text.digit? 16 digit).isSome then charOfCode? (Text.toNat 16 digits)
  else none

/-- The character of an escape of one letter. -/
def escaped? : Char → Option Char
  | 'b' => some '\x08'
  | 'f' => some '\x0C'
  | 'n' => some '\n'
  | 'r' => some '\r'
  | 't' => some '\t'
  | '"' => some '"'
  | '\\' => some '\\'
  | _ => none

/-- The character that an escape stands for, and what follows it; the text begins behind the
backslash. -/
def escape? : Text → Option (Char × Text)
  | 'u' :: rest =>
    if 4 ≤ rest.length then (charOfHex? (rest.take 4)).map (·, rest.drop 4) else none
  | 'U' :: rest =>
    if 8 ≤ rest.length then (charOfHex? (rest.take 8)).map (·, rest.drop 8) else none
  | letter :: rest => (escaped? letter).map (·, rest)
  | [] => none

theorem length_of_escape? {text rest : Text} {char : Char}
    (found : escape? text = some (char, rest)) : rest.length < text.length := by
  unfold escape? at found
  split at found
  · split at found
    · simp only [Option.map_eq_some_iff, Prod.mk.injEq] at found
      obtain ⟨_, _, _, rfl⟩ := found
      simp only [List.length_cons, List.length_drop]
      omega
    · simp at found
  · split at found
    · simp only [Option.map_eq_some_iff, Prod.mk.injEq] at found
      obtain ⟨_, _, _, rfl⟩ := found
      simp only [List.length_cons, List.length_drop]
      omega
    · simp at found
  · simp only [Option.map_eq_some_iff, Prod.mk.injEq] at found
    obtain ⟨_, _, _, rfl⟩ := found
    simp
  · simp at found

/-- A text with a beginning in front of it. -/
def prepend (start : Text) (parts : Text × Text) : Text × Text := (start ++ parts.1, parts.2)

/-- What a reader leaves does not depend on what is made of the part that it has read. -/
theorem exists_of_map_eq_some {Part Whole : Type} {read : Option (Part × Text)}
    {make : Part × Text → Whole × Text} {whole : Whole} {rest : Text}
    (found : read.map make = some (whole, rest)) (keeps : ∀ parts, (make parts).2 = parts.2) :
    ∃ part, read = some (part, rest) := by
  obtain ⟨⟨part, after⟩, rfl, same⟩ := Option.map_eq_some_iff.1 found
  obtain rfl : after = rest := (keeps (part, after)).symm.trans (congrArg Prod.snd same)
  exact ⟨part, rfl⟩

/-- The content of a literal string and what follows its closing quote. -/
def literal? : Text → Option (Text × Text)
  | [] => none
  | '\'' :: rest => some ([], rest)
  | char :: rest => if isPlain char then (literal? rest).map (prepend [char]) else none

theorem length_of_literal? {text content rest : Text}
    (found : literal? text = some (content, rest)) : rest.length ≤ text.length := by
  fun_induction literal? text generalizing content with
  | case1 | case4 => cases found
  | case2 =>
    cases found
    exact Nat.le_succ _
  | case3 char text _ _ ih =>
    obtain ⟨inner, read⟩ := exists_of_map_eq_some found fun _ => rfl
    exact Nat.le_succ_of_le (ih read)

/-- The content of a basic string and what follows its closing quote. -/
def basic? (text : Text) : Option (Text × Text) :=
  match text with
  | [] => none
  | '"' :: rest => some ([], rest)
  | '\\' :: rest =>
    match found : escape? rest with
    | none => none
    | some (char, after) =>
      have := length_of_escape? found
      (basic? after).map (prepend [char])
  | char :: rest => if isPlain char then (basic? rest).map (prepend [char]) else none
termination_by text.length

theorem length_of_basic? {text content rest : Text} (found : basic? text = some (content, rest)) :
    rest.length ≤ text.length := by
  fun_induction basic? text generalizing content with
  | case1 | case3 | case6 => cases found
  | case2 =>
    cases found
    exact Nat.le_succ _
  | case4 text char after _ shorter ih =>
    obtain ⟨inner, read⟩ := exists_of_map_eq_some found fun _ => rfl
    exact Nat.le_succ_of_le (Nat.le_trans (ih read) (Nat.le_of_lt shorter))
  | case5 char text _ _ _ ih =>
    obtain ⟨inner, read⟩ := exists_of_map_eq_some found fun _ => rfl
    exact Nat.le_succ_of_le (ih read)

/-! ### Strings of several lines -/

/-- The quotes of the content in front of three closing quotes, and what follows those; the text
begins behind the third quote of the run. -/
def closing (quote : Char) : Text → Text × Text
  | first :: second :: rest =>
    if first = quote && second = quote then ([quote, quote], rest)
    else if first = quote then ([quote], second :: rest)
    else ([], first :: second :: rest)
  | [first] => if first = quote then ([quote], []) else ([], [first])
  | [] => ([], [])

theorem length_closing (quote : Char) (text : Text) :
    (closing quote text).2.length ≤ text.length := by
  unfold closing
  grind

/-- The content of a literal string of several lines and what follows its closing quotes. -/
def literalLines? : Text → Option (Text × Text)
  | [] => none
  | '\'' :: '\'' :: '\'' :: rest => some (closing '\'' rest)
  | '\r' :: '\n' :: rest => (literalLines? rest).map (prepend ['\n'])
  | char :: rest =>
    if isPlain char || char = '\n' then (literalLines? rest).map (prepend [char]) else none

theorem length_of_literalLines? {text content rest : Text}
    (found : literalLines? text = some (content, rest)) : rest.length ≤ text.length := by
  fun_induction literalLines? text generalizing content with
  | case1 | case5 => cases found
  | case2 text =>
    have shorter : rest.length ≤ text.length := by
      simpa only [Option.some.inj found] using length_closing '\'' text
    simp only [List.length_cons]
    omega
  | case3 text ih =>
    obtain ⟨inner, read⟩ := exists_of_map_eq_some found fun _ => rfl
    exact Nat.le_succ_of_le (Nat.le_succ_of_le (ih read))
  | case4 char text _ _ _ ih =>
    obtain ⟨inner, read⟩ := exists_of_map_eq_some found fun _ => rfl
    exact Nat.le_succ_of_le (ih read)

/-- What follows any blanks and line ends. -/
def skipBreaks : Text → Text
  | '\r' :: '\n' :: rest => skipBreaks rest
  | char :: rest => if isBlank char || char = '\n' then skipBreaks rest else char :: rest
  | [] => []

theorem length_skipBreaks (text : Text) : (skipBreaks text).length ≤ text.length := by
  fun_induction skipBreaks text <;> simp_all <;> omega

/-- What follows an escaped line end: the blanks in front of it, the line end, and all blanks and
line ends behind it. The text begins behind the backslash. -/
def escapedBreak? (text : Text) : Option Text := (dropBreak? (skipBlanks text)).map skipBreaks

theorem length_of_escapedBreak? {text rest : Text} (found : escapedBreak? text = some rest) :
    rest.length < text.length := by
  obtain ⟨after, dropped, rfl⟩ := Option.map_eq_some_iff.1 found
  have first := length_of_dropBreak? dropped
  have second := length_skipBlanks text
  have third := length_skipBreaks after
  omega

/-- The content of a basic string of several lines and what follows its closing quotes. -/
def basicLines? (text : Text) : Option (Text × Text) :=
  match text with
  | [] => none
  | '"' :: '"' :: '"' :: rest => some (closing '"' rest)
  | '\r' :: '\n' :: rest => (basicLines? rest).map (prepend ['\n'])
  | '\\' :: rest =>
    match broken : escapedBreak? rest with
    | some after =>
      have := length_of_escapedBreak? broken
      basicLines? after
    | none =>
      match found : escape? rest with
      | none => none
      | some (char, after) =>
        have := length_of_escape? found
        (basicLines? after).map (prepend [char])
  | char :: rest =>
    if isPlain char || char = '\n' then (basicLines? rest).map (prepend [char]) else none
termination_by text.length

theorem length_of_basicLines? {text content rest : Text}
    (found : basicLines? text = some (content, rest)) : rest.length ≤ text.length := by
  fun_induction basicLines? text generalizing content with
  | case1 | case5 | case8 => cases found
  | case2 text =>
    have shorter : rest.length ≤ text.length := by
      simpa only [Option.some.inj found] using length_closing '"' text
    simp only [List.length_cons]
    omega
  | case3 text ih =>
    obtain ⟨inner, read⟩ := exists_of_map_eq_some found fun _ => rfl
    exact Nat.le_succ_of_le (Nat.le_succ_of_le (ih read))
  | case4 text after _ shorter ih =>
    exact Nat.le_succ_of_le (Nat.le_trans (ih found) (Nat.le_of_lt shorter))
  | case6 text _ char after _ shorter ih =>
    obtain ⟨inner, read⟩ := exists_of_map_eq_some found fun _ => rfl
    exact Nat.le_succ_of_le (Nat.le_trans (ih read) (Nat.le_of_lt shorter))
  | case7 char text _ _ _ _ ih =>
    obtain ⟨inner, read⟩ := exists_of_map_eq_some found fun _ => rfl
    exact Nat.le_succ_of_le (ih read)

/-- A text without the line end at its front. -/
def dropFirstBreak (text : Text) : Text := (dropBreak? text).getD text

theorem length_dropFirstBreak (text : Text) : (dropFirstBreak text).length ≤ text.length := by
  unfold dropFirstBreak
  cases dropped : dropBreak? text with
  | none => exact Nat.le_refl _
  | some rest => exact Nat.le_of_lt (length_of_dropBreak? dropped)

/-- The content of a string within a line and what follows it. -/
def quotedName? : Text → Option (Text × Text)
  | '"' :: rest => basic? rest
  | '\'' :: rest => literal? rest
  | _ => none

theorem length_of_quotedName? {text content rest : Text}
    (found : quotedName? text = some (content, rest)) : rest.length ≤ text.length := by
  unfold quotedName? at found
  split at found
  · exact Nat.le_succ_of_le (length_of_basic? found)
  · exact Nat.le_succ_of_le (length_of_literal? found)
  · cases found

/-- The content of a string of any kind and what follows it. -/
def string? : Text → Option (Text × Text)
  | '"' :: '"' :: '"' :: rest => basicLines? (dropFirstBreak rest)
  | '\'' :: '\'' :: '\'' :: rest => literalLines? (dropFirstBreak rest)
  | text => quotedName? text

theorem length_of_string? {text content rest : Text}
    (found : string? text = some (content, rest)) : rest.length ≤ text.length := by
  unfold string? at found
  split at found
  next text =>
    have lines := length_of_basicLines? found
    have first := length_dropFirstBreak text
    simp only [List.length_cons]
    omega
  next text =>
    have lines := length_of_literalLines? found
    have first := length_dropFirstBreak text
    simp only [List.length_cons]
    omega
  next => exact length_of_quotedName? found

end TypedConfig.Toml
