import TypedConfig.Text.Invisible

/-!
# Quoted texts

A text between double quotes, as it stands in the descriptions of conditions, units and contexts:
the quote, the backslash and the characters without a shape of their own are escaped.
-/

namespace TypedConfig

/-- The digits of a number in base sixteen, in lower case. -/
def Text.ofNatHex (number : Nat) : Text := Nat.toDigits 16 number

/-- One character of a quoted text. -/
def Text.quoteChar (char : Char) : Text :=
  if char = '"' then "\\\""
  else if char = '\\' then "\\\\"
  else if char = '\n' then "\\n"
  else if char = '\r' then "\\r"
  else if char = '\t' then "\\t"
  else if char.toNat = 0 then "\\0"
  else if isInvisible char then "\\u\x7b" ++ Text.ofNatHex char.toNat ++ "\x7d"
  else [char]

/-- A text between quotes. -/
def Text.quoted (text : Text) : Text := '"' :: text.flatMap quoteChar ++ ['"']

/-- A list in square brackets, its items separated by a comma and a blank. -/
def Text.bracketed (items : List Text) : Text := "[" ++ Text.join ", " items ++ "]"

end TypedConfig
