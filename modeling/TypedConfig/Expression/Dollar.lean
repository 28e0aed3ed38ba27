import TypedConfig.Error
import TypedConfig.Expression.Eval

/-!
# Expressions about a value

In an expression about a value, `$` stands for that value wherever it is not part of a string. The
dollars are replaced by the name of a variable, strings are kept as they are written, and the
expression must be a boolean.
-/

namespace TypedConfig.Expression

/-- The name of the variable that a dollar stands for. -/
def valueName : Text := "value"

/-- The text with its dollars replaced; `inString` says whether a string is open in front of it, and
`escaped` whether a backslash in that string escapes the next character. -/
def replaceDollars (inString escaped : Bool) : Text → Text
  | [] => []
  | char :: text =>
    let closes := char = '"' && !escaped
    let inside := if closes then !inString else inString
    let written := if char = '$' && !inString then valueName else [char]
    written ++ replaceDollars inside (inside && char = '\\' && !escaped) text

/-- The text of an expression with the variable in place of the dollars outside strings. -/
def substituteDollars (text : Text) : Text := replaceDollars false false text

/-- Whether an expression is true, of a value if there is one. -/
def holds (expression : Text) (value : Option Value) : Except Cause Bool :=
  let result := match value with
    | some value =>
      eval (fun name => if name = valueName then some (.ofValue value) else none)
        (substituteDollars expression)
    | none => eval (fun _ => none) expression
  match result with
  | some (.boolean flag) => .ok flag
  | _ => .error (.expression expression)

end TypedConfig.Expression
