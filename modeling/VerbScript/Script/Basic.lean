import VerbScript.Expr.Basic

/-!
# Scripts

A script is a list of statements, some of which hold a block of statements. A `Path` addresses
a statement: each number is a place in a block, and the statement found there holds the block of
the next number.

* `Script.find?` looks a statement up by its path.
* `Script.enclosing?` is the block in which the path's last number is looked up.
-/

namespace VerbScript

/-- A statement of a script. Blocks have no `else`, and the keyword `end` is not part of the
tree. -/
inductive Statement where
  | ifThen (condition : Expr) (block : List Statement)
  | whileLoop (condition : Expr) (block : List Statement)
  | assign (op : AssignOp) (target : Reference Node) (source : Expr)
  | call (c : Verbcall Node)

/-- The statements of a script. -/
abbrev Script := List Statement

/-- The places that lead to a statement, the outermost first. The empty path leads to none. -/
abbrev Path := List Nat

namespace Statement

/-- The block of an `if` or `while`, which may be empty. No other statement has one. -/
def block? : Statement → Option (List Statement)
  | ifThen _ block => some block
  | whileLoop _ block => some block
  | assign .. => none
  | call _ => none

/-- The kind of a statement in messages. It is the word that the statement begins with, where it has
one. -/
def kind : Statement → String
  | ifThen .. => "if"
  | whileLoop .. => "while"
  | assign .. => "assign"
  | call _ => "call"

mutual

/-- Whether two statements are the same data. Blocks are compared statement by statement, to any
depth. -/
def beq : Statement → Statement → Bool
  | ifThen c b, ifThen c' b' | whileLoop c b, whileLoop c' b' => c == c' && beqItems b b'
  | assign op t s, assign op' t' s' => op == op' && t == t' && s == s'
  | call c, call c' => c == c'
  | _, _ => false

/-- Whether two blocks have the same statements. -/
def beqItems : List Statement → List Statement → Bool
  | [], [] => true
  | a :: as, b :: bs => beq a b && beqItems as bs
  | _, _ => false

end

mutual

/-- The comparison decides equality. The proof follows the recursion of `beq`. -/
theorem beq_iff : (a b : Statement) → (beq a b = true ↔ a = b)
  | ifThen _ block, b | whileLoop _ block, b => by cases b <;> simp [beq, beqItems_iff block]
  | assign .., b | call _, b => by cases b <;> simp [beq, and_assoc]

/-- The comparison of blocks decides equality. -/
theorem beqItems_iff : (as bs : List Statement) → (beqItems as bs = true ↔ as = bs)
  | [], bs => by cases bs <;> simp [beqItems]
  | a :: as, bs => by cases bs <;> simp [beqItems, beq_iff a, beqItems_iff as]

end

-- statements are nested in blocks, so the instance cannot be derived
instance : DecidableEq Statement := fun a b => decidable_of_iff (beq a b = true) (beq_iff a b)

end Statement

namespace Script

/-- The statement at a path. A path that goes on behind a statement without a block leads to
none. -/
def find? : Script → Path → Option Statement
  | _, [] => none
  | block, [i] => block[i]?
  | block, i :: j :: rest => do find? (← (← block[i]?).block?) (j :: rest)

/-- The block that holds the statement at a path. The last number of the path is not looked at, so
it may be that of a place behind the block. -/
def enclosing? : Script → Path → Option (List Statement)
  | block, [] => some block
  | block, [_] => some block
  | block, i :: j :: rest => do enclosing? (← (← block[i]?).block?) (j :: rest)

end Script

end VerbScript
