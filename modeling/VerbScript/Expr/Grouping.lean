import VerbScript.Expr.Preposition

/-!
# From tokens to expressions

Grouping follows the brackets of the tokens. A word that is not reserved and is directly
followed by a group is a call of that verb, `max(1 2)`. On a whole line (level 0) a leading word
that is not reserved makes a call of the line. Grouping never fails: whatever has been lexed is
an expression.
-/

namespace VerbScript

/-- The call of a verb with the nodes that follow it, which are split at a preposition like those of
a line. -/
def Node.callOf (verb : String) (args : List Node) : Node :=
  match Verbcall.ofLine? (.word verb :: args) with
  | some c => .call c
  -- a line that begins with a word always is a call
  | none => .list (.word verb :: args)

mutual

/-- The nodes of the tokens inside a bracket; comments are dropped. A word that may name a verb and
a group behind it make one node; a blank between them does not show any more. -/
def Node.ofTokens : List Token → List Node
  | [] => []
  | .comment _ :: rest => Node.ofTokens rest
  | .word verb :: .group args :: rest =>
    if isReserved verb then
      .word verb :: .list (Node.ofTokens args) :: Node.ofTokens rest
    else Node.callOf verb (Node.ofTokens args) :: Node.ofTokens rest
  | t :: rest => Node.ofToken t :: Node.ofTokens rest

/-- The node of a token that stands alone. A comment has no node of its own and does not come here
from a list. -/
def Node.ofToken : Token → Node
  | .str text => .str text
  | .number n => .number n
  | .bool b => .bool b
  | .null => .null
  | .word text => .word text
  | .reference sigil name index => .reference ⟨sigil, name, Node.ofIndex index⟩
  | .object id => .object id
  | .named name => .named name
  | .comment _ => .null
  | .array items => .array (Node.ofTokens items)
  | .group items => .list (Node.ofTokens items)

/-- The expression of an index. Brackets without anything between them are an index too, with an
empty expression. -/
def Node.ofIndex : Option (List Token) → Option (List Node)
  | none => none
  | some tokens => some (Node.ofTokens tokens)

end

/-- Reads a line of nodes as a call if it begins with a verb, and otherwise leaves it as it is.
Operators and assignment symbols are reserved, and no verbs. -/
def Expr.asCommand (nodes : Expr) : Expr :=
  match nodes.head?.bind Node.asWord? with
  | some word =>
    if isReserved word then nodes
    else
      match Verbcall.ofLine? nodes with
      | some c => [.call c]
      | none => nodes
  | none => nodes

/-- The expression of a token list; level 0 is a whole line, deeper levels are inside brackets. Only
a whole line is read as a command. -/
def Expr.group (level : Nat) (tokens : List Token) : Expr :=
  let nodes := Node.ofTokens tokens
  if level = 0 then Expr.asCommand nodes else nodes

end VerbScript
