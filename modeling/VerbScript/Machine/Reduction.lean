import VerbScript.Operator

/-!
# Reducing operands

An expression resolves to a list of operands, values and operators in the order of the line.
`reduce` makes one value of them. With operators, values and operators have to alternate, and
the operators are applied tier by tier, the tightest first, each tier from left to right. Without
operators one value stands for itself and several are joined to a text; a list that starts with
a number literal needs operators.
-/

namespace VerbScript

/-- A resolved element of an expression. Operators are told by the words of the line, so a value is
never taken for one. -/
inductive Operand where
  | value (v : Value)
  | operator (op : Operator)

namespace Operand

/-- Whether an element stands for an operator. -/
def isOperator : Operand → Bool
  | operator _ => true
  | value _ => false

/-- The value of an element that is not an operator. -/
def value? : Operand → Option Value
  | value v => some v
  | operator _ => none

end Operand

namespace Reduction

/-- The operators of an alternating list, each with the value to its right. The list begins where an
operator has to be; the fault is that of the leftmost place that is wrong. -/
def links : List Operand → Except Fault (List (Operator × Value))
  | [] => .ok []
  | .value v :: _ =>
    .error (.malformedExpression ("expected an operator before " ++ v.display))
  | [.operator _] => .error (.malformedExpression "expression ends with an operator")
  | .operator _ :: .operator op :: _ =>
    .error (.malformedExpression ("operator " ++ op.symbol ++ " has no left operand"))
  | .operator op :: .value v :: rest => (links rest).map ((op, v) :: ·)

/-- The first value of an alternating list, and its links. The operators are applied to these, so
they never lack an operand. -/
def chain : List Operand → Except Fault (Value × List (Operator × Value))
  | [] => .ok (.null, [])
  | .operator op :: _ =>
    .error (.malformedExpression ("operator " ++ op.symbol ++ " has no left operand"))
  | .value v :: rest => (links rest).map (v, ·)

/-- Applies the operators of one tier from left to right. What comes out is again a value and the
links that are left. -/
def foldTier (tier : Tier) (left : Value) :
    List (Operator × Value) → Except Fault (Value × List (Operator × Value))
  | [] => .ok (left, [])
  | (op, right) :: rest =>
    if op.tier = tier then do foldTier tier (← op.apply left right) rest
    else do
      -- an operator of another tier stays, and its right operand is the left one of what follows
      let (right, rest) ← foldTier tier right rest
      return (left, (op, right) :: rest)

/-- Applies the operators of some tiers in turn. After the last tier no link is left, since every
operator belongs to one. -/
def foldTiers : List Tier → Value → List (Operator × Value) → Except Fault Value
  | [], left, _ => .ok left
  | tier :: tiers, left, links => do
    let (left, links) ← foldTier tier left links
    foldTiers tiers left links

/-- The value of operands without an operator among them. Texts need no quotes this way: the words
of a line are joined by blanks. -/
def plain (numberFirst : Bool) : List Value → Except Fault Value
  | [] => .ok .null
  | [v] => .ok v
  | values =>
    if numberFirst then
      .error (.malformedExpression "a list starting with a number needs operators")
    else .ok (.str (" ".intercalate (values.map Value.display)))

end Reduction

/-- The value of a list of operands; `numberFirst` says that the expression starts with a number
literal, which only matters if there is no operator. -/
def reduce (operands : List Operand) (numberFirst : Bool) : Except Fault Value :=
  if operands.any Operand.isOperator then do
    let (first, links) ← Reduction.chain operands
    Reduction.foldTiers Tier.all first links
  else Reduction.plain numberFirst (operands.filterMap Operand.value?)

end VerbScript
