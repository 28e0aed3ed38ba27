import TypedConfig.Expression.Operand
import TypedConfig.Expression.Token

/-!
# Operator trees

The tokens of an expression are put into a tree one after the other. A stack holds a tree for every
parenthesis that is still open, with the sequences (tuples and chains) that are being read at its
level above it. A new node goes down the right edge of the topmost tree as long as it binds more
tightly than what it meets there, and takes the rest of that edge as its first operand.
-/

namespace TypedConfig.Expression

/-- The operators of a tree. A group is a pair of parentheses, or the whole expression. -/
inductive Operator where
  | group
  | binary (operator : BinaryOperator)
  | negate
  | not
  | assign
  | tuple
  | chain
  | constant (operand : Operand)
  | reference (name : Text)
  | function (name : Text)

namespace Operator

/-- How tightly an operator binds. -/
def precedence : Operator → Nat
  | group => 200
  | binary .power => 120
  | negate | not => 110
  | binary .multiply | binary .divide | binary .remainder => 100
  | binary .add | binary .subtract => 95
  | binary .equal | binary .notEqual | binary .greater | binary .less | binary .greaterEqual
  | binary .lessEqual => 80
  | binary .and => 75
  | binary .or => 70
  | assign => 50
  | tuple => 40
  | chain => 0
  | constant _ | reference _ => 200
  | function _ => 190

/-- The number of operands of an operator, where it is fixed. -/
def arity? : Operator → Option Nat
  | binary _ | assign => some 2
  | group | negate | not | function _ => some 1
  | constant _ | reference _ => some 0
  | tuple | chain => none

/-- Whether an operator stands in front of its only operand. -/
def isUnary : Operator → Bool
  | negate | not | function _ => true
  | _ => false

/-- Whether an operator takes no operand. -/
def isLeaf (operator : Operator) : Bool := operator.arity? = some 0

/-- Whether an operator groups with its equals to the right. -/
def groupsRight : Operator → Bool
  | assign | function _ => true
  | _ => false

/-- Whether an operator is a group. -/
def isGroup : Operator → Bool
  | group => true
  | _ => false

/-- Whether an operator separates the parts of a sequence. -/
def isSequence : Operator → Bool
  | tuple | chain => true
  | _ => false

/-- Whether `inner` may stand below `outer` on the right edge of a tree. -/
def admits (outer inner : Operator) : Bool :=
  outer.precedence < inner.precedence || inner.isUnary
    || (outer.precedence = inner.precedence && outer.groupsRight && inner.groupsRight)

end Operator

/-- An operator with its operands, the last one first. -/
inductive Tree where
  | node (operator : Operator) (children : List Tree)

namespace Tree

/-- The operator of a tree. -/
def operator : Tree → Operator
  | node operator _ => operator

/-- The operands of a tree, the last one first. -/
def children : Tree → List Tree
  | node _ children => children

/-- The group without content. -/
def emptyGroup : Tree := node .group []

/-- The tree with one operand more at its end. -/
def append (tree child : Tree) : Tree := node tree.operator (child :: tree.children)

/-- Puts `new` on top of the last operand of a tree with operator `outer`, whose other operands are
`others`. A group holds a single operand, and operands that stand side by side are refused. -/
def rotate? (outer : Operator) (last : Tree) (others : List Tree) (new : Tree) : Option Tree :=
  if new.operator.isLeaf then none
  else if outer.isGroup && (!others.isEmpty || new.operator.isGroup) then none
  else if new.operator.isGroup && (!new.children.isEmpty || last.operator.isGroup) then none
  else some (node outer (new.append last :: others))

/-- Puts `new` at the right edge of a tree; at the top of a group every operator is admitted. -/
def insert? : (tree : Tree) → (top : Bool) → (new : Tree) → Option Tree
  | node outer children, top, new =>
    if outer.admits new.operator || top then
      if outer.isLeaf then none
      else if outer.arity? = some children.length then
        match children with
        | [] => none
        | last :: others =>
          if last.operator.admits new.operator then
            (insert? last false new).map fun last => node outer (last :: others)
          else rotate? outer last others new
      else some (node outer (new :: children))
    else none

end Tree

/-! ### The stack -/

/-- Ends everything on a stack down to the nearest chain, each tree becoming the last operand of the
one below it: what `ended` has become then, and the rest of the stack. -/
def endToChain? (ended : Tree) : List Tree → Option (Tree × List Tree)
  | [] => none
  | .node .chain children :: below => some (ended, .node .chain children :: below)
  | top :: below => endToChain? (top.append ended) below

/-- Starts the next part of a sequence with operator `operator`. A chain behind a tuple needs a chain
that the tuple is part of. -/
def startPart? (operator : Operator) : List Tree → Option (List Tree)
  | [] => none
  | top :: below =>
    match operator, top.operator with
    | .tuple, .tuple | .chain, .chain => some (top.append .emptyGroup :: below)
    | _, .group =>
      some (.node operator [.emptyGroup, top] :: .emptyGroup :: below)
    | .tuple, .chain =>
      match top.children with
      | last :: others =>
        some (.node .tuple [.emptyGroup, last] :: .node .chain others :: below)
      | [] => none
    | .chain, .tuple =>
      (endToChain? top below).map fun (ended, below) => .node .chain [ended] :: below
    | _, _ => none

/-- Puts a node into the topmost tree of a stack, or into the last part of the topmost sequence. -/
def place? (new : Tree) : List Tree → Option (List Tree)
  | [] => none
  | top :: below =>
    if top.operator.isSequence then
      match top.children with
      | last :: others =>
        (last.insert? true new).map fun last => .node top.operator (last :: others) :: below
      | [] => none
    else (top.insert? true new).map (· :: below)

/-- Ends the sequences on top of a stack: each becomes the content of what lies below it, down to
the first group. -/
def endSequences? (ended : Option Tree) : List Tree → Option (List Tree)
  | [] => none
  | top :: below =>
    let top := match ended with
      | some sequence => top.append sequence
      | none => top
    if top.operator.isGroup then
      if 1 < top.children.length then none else some (top :: below)
    else if top.operator.isSequence then endSequences? (some top) below
    else none

/-! ### Tokens to trees -/

/-- Whether an operand may begin with a token. -/
def Token.beginsOperand : Token → Bool
  | identifier _ | string _ | float _ | int _ | boolean _ | .open => true
  | _ => false

/-- Whether an operand may end with a token. -/
def Token.endsOperand : Token → Bool
  | identifier _ | string _ | float _ | int _ | boolean _ | close => true
  | _ => false

/-- What becomes of the stack at a token, when `next` follows it and when the token before it may
have ended an operand. -/
def step? (stack : List Tree) (afterOperand : Bool) (token : Token) (next : Option Token) :
    Option (List Tree) :=
  let put (operator : Operator) := place? (.node operator []) stack
  match token with
  | .operator .subtract => put (if afterOperand then .binary .subtract else .negate)
  | .operator operator => put (.binary operator)
  | .not => put .not
  | .assign => put .assign
  | .comma => startPart? .tuple stack
  | .semicolon => startPart? .chain stack
  | .string text => put (.constant (.string text))
  | .float number => put (.constant (.float number))
  | .int number => put (.constant (.int number))
  | .boolean flag => put (.constant (.boolean flag))
  | .identifier name =>
    put (if next.any Token.beginsOperand then .function name else .reference name)
  | .open => some (.emptyGroup :: stack)
  | .close =>
    if stack.length ≤ 1 then none
    else match endSequences? none stack with
      | some (group :: below) => place? group below
      | _ => none

/-- The stack behind a list of tokens. -/
def stackOf? (stack : List Tree) (afterOperand : Bool) : List Token → Option (List Tree)
  | [] => some stack
  | token :: rest =>
    match step? stack afterOperand token rest.head? with
    | some stack => stackOf? stack token.endsOperand rest
    | none => none

/-- The tree of an expression. -/
def tree? (tokens : List Token) : Option Tree :=
  match (stackOf? [.emptyGroup] false tokens).bind (endSequences? none) with
  | some [tree] => some tree
  | _ => none

end TypedConfig.Expression
