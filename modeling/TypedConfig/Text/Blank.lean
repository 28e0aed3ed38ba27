import TypedConfig.Text.Basic

/-!
# Blank characters

The characters that carry the Unicode property `White_Space`. Trimming drops them at both ends of
a text, and they separate the tokens of an expression.
-/

namespace TypedConfig

/-- The code points with the property `White_Space`, as ranges with both ends included. -/
def Text.blankRanges : List (Nat × Nat) :=
  [(0x09, 0x0D), (0x20, 0x20), (0x85, 0x85), (0xA0, 0xA0), (0x1680, 0x1680), (0x2000, 0x200A),
   (0x2028, 0x2029), (0x202F, 0x202F), (0x205F, 0x205F), (0x3000, 0x3000)]

/-- Whether a character has the property `White_Space`. -/
def Text.isBlank (char : Char) : Bool := Text.inRanges blankRanges char

/-- A text without the blanks at both ends. -/
def Text.trim (text : Text) : Text := text.trimOf isBlank

/-- ASCII white space: space, tab, line feed, form feed and carriage return. -/
def Text.isBlankAscii (char : Char) : Bool :=
  char = ' ' || char = '\t' || char = '\n' || char = '\r' || char.toNat = 0x0C

/-- The runs of characters between ASCII white space. -/
def Text.wordsAscii (text : Text) : List Text :=
  let parts := text.foldr (fun char parts =>
    if isBlankAscii char then [] :: parts
    else match parts with
      | [] => [[char]]
      | part :: parts => (char :: part) :: parts) [[]]
  parts.filter fun part => !part.isEmpty

example : (Text.blankRanges.map fun range => range.2 + 1 - range.1).sum = 25 := rfl

end TypedConfig
