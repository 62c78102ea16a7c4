import VerbScript.Number.Arithmetic
import VerbScript.Fault

/-!
# Operators

Operators are ordinary words of a line; an evaluator recognises them by `Operator.ofWord?`.
Each belongs to one of four tiers (`Operator.tier`), and `Operator.apply` combines two values
if the operator accepts their kinds. `AssignOp` lists the assignment symbols; together with the
operators they are the reserved words, which never name a verb.
-/

namespace VerbScript

/-- How tightly an operator binds. Operators of one tier are applied from left to right. -/
inductive Tier where
  | product
  | sum
  | comparison
  | logic
deriving DecidableEq

/-- The tiers, tightest first. -/
def Tier.all : List Tier := [.product, .sum, .comparison, .logic]

/-- A binary operator. Two words may stand for one operator, as `and` and `&&` do. -/
inductive Operator where
  | mul | div
  | add | sub
  | eq | ne | lt | gt | le | ge | isIn
  | and | or
deriving DecidableEq, Inhabited

namespace Operator

/-- The operator a word stands for. Words are compared as they are written, so `AND` is none. -/
def ofWord? : String → Option Operator
  | "*" => some mul
  | "/" => some div
  | "+" => some add
  | "-" => some sub
  | "==" => some eq
  | "!=" => some ne
  | "<" => some lt
  | ">" => some gt
  | "<=" => some le
  | ">=" => some ge
  | "in" => some isIn
  | "&&" => some and
  | "and" => some and
  | "||" => some or
  | "or" => some or
  | _ => none

/-- The word an operator is written as in messages, one for each operator. Of two spellings it is
the one with signs. -/
def symbol : Operator → String
  | mul => "*"
  | div => "/"
  | add => "+"
  | sub => "-"
  | eq => "=="
  | ne => "!="
  | lt => "<"
  | gt => ">"
  | le => "<="
  | ge => ">="
  | isIn => "in"
  | and => "&&"
  | or => "||"

/-- The tier of an operator. -/
def tier : Operator → Tier
  | mul | div => .product
  | add | sub => .sum
  | eq | ne | lt | gt | le | ge | isIn => .comparison
  | and | or => .logic

/-- Whether the operator takes a left and a right operand of these kinds. Whatever is not accepted
is a type mismatch before the values are looked at. -/
def accepts : Operator → Kind → Kind → Bool
  | add, .number, .number => true
  | add, .string, right =>
    right == .number || right == .string || right == .array || right == .null
  | add, _, _ => false
  | sub, left, right => left == .number && right == .number
  | mul, left, right => left == .number && right == .number
  | div, left, right => left == .number && right == .number
  | lt, left, right => ordered left right
  | gt, left, right => ordered left right
  | le, left, right => ordered left right
  | ge, left, right => ordered left right
  | isIn, left, right => right == .array || (left == .string && right == .string)
  | eq, _, _ => true
  | ne, _, _ => true
  | and, _, _ => true
  | or, _, _ => true
where
  /-- Two numbers or two strings have an order. -/
  ordered (left right : Kind) : Bool :=
    (left == .number && right == .number) || (left == .string && right == .string)

/-- The order of two numbers or of two strings; strings are ordered by code point. A NaN has no
order, so every comparison with one is false. -/
def order? : Value → Value → Option Ordering
  | .number a, .number b => a.order? b
  | .str a, .str b => some (compare a b)
  | _, _ => none

/-- Whether `needle` stands somewhere in `hay`. The empty text stands in every text, the empty one
included. -/
def occursIn (needle : List Char) : List Char → Bool
  | [] => needle.isEmpty
  | c :: rest => needle.isPrefixOf (c :: rest) || occursIn needle rest

/-- Applies an operator to operands whose kinds it accepts. The last case is not reached then. -/
def applyAccepted (op : Operator) (left right : Value) : Except Fault Value :=
  match op, left, right with
  | add, .number a, .number b => .ok (.number (a + b))
  | add, .str a, b => .ok (.str (a ++ b.display))
  | sub, .number a, .number b => .ok (.number (a - b))
  | mul, .number a, .number b => .ok (.number (a * b))
  | div, .number a, .number b =>
    -- division is the only operator that can fail on kinds it accepts
    if b.isZero then .error .divisionByZero else .ok (.number (a / b))
  | eq, a, b => .ok (.bool (a.same b))
  | ne, a, b => .ok (.bool (!a.same b))
  | lt, a, b => .ok (.bool (order? a b == some .lt))
  | gt, a, b => .ok (.bool (order? a b == some .gt))
  | le, a, b => .ok (.bool ((order? a b).any Ordering.isLE))
  | ge, a, b => .ok (.bool ((order? a b).any Ordering.isGE))
  | isIn, needle, .array items => .ok (.bool (items.any needle.same))
  | isIn, .str needle, .str hay => .ok (.bool (occursIn needle.toList hay.toList))
  -- both operands have been evaluated, so nothing is left out here
  | and, a, b => .ok (.bool (a.truthy && b.truthy))
  | or, a, b => .ok (.bool (a.truthy || b.truthy))
  | op, a, b => .error (.typeMismatch op.symbol a.kind b.kind)

/-- Combines two values, or says which kinds do not go together. The kinds are compared first, so a
mismatch is reported before a division by zero. -/
def apply (op : Operator) (left right : Value) : Except Fault Value :=
  if op.accepts left.kind right.kind then op.applyAccepted left right
  else .error (.typeMismatch op.symbol left.kind right.kind)

end Operator

/-- An assignment symbol: a plain one, or one for each arithmetic operator. -/
inductive AssignOp where
  | set | add | sub | mul | div
deriving DecidableEq, Inhabited

namespace AssignOp

/-- The assignment a word stands for. Any other word makes the line a verb call. -/
def ofWord? : String → Option AssignOp
  | "=" => some set
  | "+=" => some add
  | "-=" => some sub
  | "*=" => some mul
  | "/=" => some div
  | _ => none

/-- The word an assignment is written as. -/
def symbol : AssignOp → String
  | set => "="
  | add => "+="
  | sub => "-="
  | mul => "*="
  | div => "/="

/-- The name of an assignment in stored and outlined scripts. It is part of the format of stored
scripts. -/
def title : AssignOp → String
  | set => "Set"
  | add => "Add"
  | sub => "Sub"
  | mul => "Mul"
  | div => "Div"

/-- The operator a compound assignment applies to the old value. A plain assignment applies none,
and does not look at the old value. -/
def operator? : AssignOp → Option Operator
  | set => none
  | add => some .add
  | sub => some .sub
  | mul => some .mul
  | div => some .div

end AssignOp

/-- Operators and assignment symbols never name a verb. The keywords of blocks are not among them:
these count as keywords only at the beginning of a line. -/
def isReserved (word : String) : Bool :=
  (Operator.ofWord? word).isSome || (AssignOp.ofWord? word).isSome

end VerbScript
