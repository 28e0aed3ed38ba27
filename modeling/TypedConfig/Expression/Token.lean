import TypedConfig.Decimal.Literal
import TypedConfig.Text.Blank

/-!
# The tokens of expressions

The text of an expression is cut in two steps. `pieces?` finds strings, words and single marks, with
blanks as gaps between them; `tokens?` joins marks to operators and reads words as literals or
identifiers. A word in front of a sign and a further word is one number if the three together write
one, as in `1e-3`. A comment is no gap: what stands on both sides of it stands side by side.
-/

namespace TypedConfig.Expression

/-! ### Pieces -/

/-- A piece of the text of an expression. -/
inductive Piece where
  | string (text : Text)
  | word (text : Text)
  | mark (char : Char)
  | gap
  deriving DecidableEq

/-- The characters that are marks of their own. -/
def isMark (char : Char) : Bool := "+-*/%^(),;=!><&|".toList.contains char

/-- One piece more in front of the others; characters of a word that follow one another are one
word. -/
def consChar (char : Char) : List Piece → List Piece
  | .word text :: pieces => .word (char :: text) :: pieces
  | pieces => .word [char] :: pieces

/-- Where the scanner stands: between pieces, in a string whose content has been read in reverse, in
a comment up to the end of the line, or in one up to its closing mark. -/
inductive Spot where
  | outside
  | string (content : Text)
  | lineComment
  | blockComment

/-- The pieces of a text from a spot on. Inside a string only a quote and a backslash can be
escaped, and a string and a block comment must be closed. -/
def piecesFrom : (spot : Spot) → Text → Option (List Piece)
  | .outside, [] => some []
  | .string _, [] => none
  | .lineComment, [] => some []
  | .blockComment, [] => none
  | .string content, '"' :: text =>
    (piecesFrom .outside text).map (Piece.string content.reverse :: ·)
  | .string content, '\\' :: '"' :: text => piecesFrom (.string ('"' :: content)) text
  | .string content, '\\' :: '\\' :: text => piecesFrom (.string ('\\' :: content)) text
  | .string content, char :: text =>
    if char = '\\' then none else piecesFrom (.string (char :: content)) text
  | .lineComment, '\n' :: text => piecesFrom .outside text
  | .lineComment, _ :: text => piecesFrom .lineComment text
  | .blockComment, '*' :: '/' :: text => piecesFrom .outside text
  | .blockComment, _ :: text => piecesFrom .blockComment text
  | .outside, '/' :: '/' :: text => piecesFrom .lineComment text
  | .outside, '/' :: '*' :: text => piecesFrom .blockComment text
  | .outside, '"' :: text => piecesFrom (.string []) text
  | .outside, char :: text =>
    if isMark char then (piecesFrom .outside text).map (Piece.mark char :: ·)
    else if Text.isBlank char then (piecesFrom .outside text).map (Piece.gap :: ·)
    else (piecesFrom .outside text).map (consChar char)

/-- The pieces of a text. -/
def pieces? (text : Text) : Option (List Piece) := piecesFrom .outside text

/-! ### Tokens -/

/-- The operators between two operands. -/
inductive BinaryOperator where
  | add | subtract | multiply | divide | remainder | power
  | equal | notEqual | greater | less | greaterEqual | lessEqual
  | and | or
  deriving DecidableEq

/-- A token of an expression; every assignment is one kind of token. -/
inductive Token where
  | operator (operator : BinaryOperator)
  | not
  | open
  | close
  | comma
  | semicolon
  | assign
  | identifier (name : Text)
  | string (text : Text)
  | float (number : Binary64)
  | int (number : Int)
  | boolean (flag : Bool)
  deriving DecidableEq

/-- The least integer of the language. -/
def leastInt : Int := -(Nat.pow 2 63 : Int)

/-- The greatest integer of the language. -/
def greatestInt : Int := (Nat.pow 2 63 : Int) - 1

/-- The digits of a text in a radix, if it has digits only and at least one. -/
def digits? (radix : Nat) (text : Text) : Option Nat :=
  if !text.isEmpty && text.all fun char => (Text.digit? radix char).isSome then
    some (Text.toNat radix text)
  else none

/-- The integer that a word writes, in decimal or behind `0x` in base sixteen. -/
def int? (word : Text) : Option Int :=
  let number := match word.dropStart? ['0', 'x'] with
    | some digits => digits? 16 digits
    | none => digits? 10 word
  match number with
  | some number => if (number : Int) ≤ greatestInt then some number else none
  | none => none

/-- The literal that a word writes. -/
def literal? (word : Text) : Option Token :=
  match int? word with
  | some number => some (.int number)
  | none =>
    match Binary64.ofText? word with
    | some number => some (.float number)
    | none =>
      if word = "true".toList then some (.boolean true)
      else if word = "false".toList then some (.boolean false)
      else none

/-- The operator of a mark that stands alone. -/
def single? : Char → Option Token
  | '+' => some (.operator .add)
  | '-' => some (.operator .subtract)
  | '*' => some (.operator .multiply)
  | '/' => some (.operator .divide)
  | '%' => some (.operator .remainder)
  | '^' => some (.operator .power)
  | '(' => some .open
  | ')' => some .close
  | ',' => some .comma
  | ';' => some .semicolon
  | '=' => some .assign
  | '!' => some .not
  | '>' => some (.operator .greater)
  | '<' => some (.operator .less)
  | _ => none

/-- The operator of a mark and an equals sign behind it. -/
def withEquals? : Char → Option Token
  | '=' => some (.operator .equal)
  | '!' => some (.operator .notEqual)
  | '>' => some (.operator .greaterEqual)
  | '<' => some (.operator .lessEqual)
  | '+' | '-' | '*' | '/' | '%' | '^' => some .assign
  | _ => none

/-- The tokens of pieces. -/
def tokensOf : List Piece → Option (List Token)
  | [] => some []
  | .gap :: rest => tokensOf rest
  | .string text :: rest => (tokensOf rest).map (.string text :: ·)
  | .mark '&' :: .mark '&' :: .mark '=' :: rest => (tokensOf rest).map (.assign :: ·)
  | .mark '|' :: .mark '|' :: .mark '=' :: rest => (tokensOf rest).map (.assign :: ·)
  | .mark '&' :: .mark '&' :: rest => (tokensOf rest).map (.operator .and :: ·)
  | .mark '|' :: .mark '|' :: rest => (tokensOf rest).map (.operator .or :: ·)
  | .mark char :: .mark '=' :: rest =>
    match withEquals? char with
    | some token => (tokensOf rest).map (token :: ·)
    | none =>
      match single? char with
      | some token => (tokensOf (.mark '=' :: rest)).map (token :: ·)
      | none => none
  | .mark char :: rest =>
    match single? char with
    | some token => (tokensOf rest).map (token :: ·)
    | none => none
  | .word word :: .mark sign :: .word exponent :: rest =>
    match literal? word with
    | some token => (tokensOf (.mark sign :: .word exponent :: rest)).map (token :: ·)
    | none =>
      match Binary64.ofText? (word ++ sign :: exponent) with
      | some number =>
        if sign = '+' || sign = '-' then (tokensOf rest).map (.float number :: ·)
        else (tokensOf (.mark sign :: .word exponent :: rest)).map (.identifier word :: ·)
      | none => (tokensOf (.mark sign :: .word exponent :: rest)).map (.identifier word :: ·)
  | .word word :: rest => (tokensOf rest).map ((literal? word).getD (.identifier word) :: ·)

/-- The tokens of a text. -/
def tokens? (text : Text) : Option (List Token) := (pieces? text).bind tokensOf

end TypedConfig.Expression
