import VerbScript.Operator
import VerbScript.Text.Blank
import VerbScript.Token.Basic

/-!
# Expressions

An expression is a flat list of nodes, operands and operator words in the order of the line;
evaluation combines them. A `Verbcall` keeps every node after the verb as `params` and, beside
them, the direct and the indirect object a preposition splits them into. `Verbcall.directRange?`
and `Verbcall.indirectRange?` find these two parts again among the params.
-/

namespace VerbScript

/-- A named variable or property, with the expression between the brackets of an index. There is at
most one index. -/
structure Reference (ν : Type) where
  sigil : Sigil
  name : String
  index : Option (List ν)
deriving DecidableEq

/-- A verb and what follows it. The objects are parts of the params and kept beside them, so the
places of the parts have to be found again where they are needed. -/
structure Verbcall (ν : Type) where
  verb : String
  /-- The nodes before the preposition, none if there are none. -/
  direct : Option (List ν)
  /-- The phrase that splits the line. -/
  preposition : Option String
  /-- The nodes after the preposition, none if there are none. -/
  indirect : Option (List ν)
  /-- Every node after the verb. -/
  params : List ν
deriving DecidableEq

/-- An operand or an operator word of an expression. The nodes of an expression are in the order of
the line; what binds to what is decided when it is evaluated. -/
inductive Node where
  | str (text : String)
  | number (n : Number)
  | bool (b : Bool)
  | null
  /-- A bare word; operators are words too. -/
  | word (text : String)
  | reference (r : Reference Node)
  | object (id : ObjectId)
  /-- An object by its alias. -/
  | named (name : String)
  /-- `[a b c]`; each item is resolved on its own. -/
  | array (items : List Node)
  /-- `(a b c)`, an expression in parentheses. -/
  | list (items : List Node)
  /-- `verb(a b c)`. -/
  | call (c : Verbcall Node)
deriving Inhabited

/-- An expression: operands and operator words in the order of the line. -/
abbrev Expr := List Node

namespace Node

/-- The text of a word. No other node has one, not even a string. -/
def asWord? : Node → Option String
  | word text => some text
  | _ => none

/-- The operator a node stands for. Only a bare word stands for one: a quoted `+` is a string. -/
def operator? (n : Node) : Option Operator := n.asWord?.bind Operator.ofWord?

/-- Whether a node is a number literal. -/
def isNumber : Node → Bool
  | number _ => true
  | _ => false

mutual

/-- Whether two nodes are the same data. Unlike `Node.same`, which scripts are compared by, this
goes by the bits of a number. -/
def beq : Node → Node → Bool
  | str a, str b | word a, word b | named a, named b => a == b
  | number a, number b => a == b
  | bool a, bool b => a == b
  | null, null => true
  | reference ⟨s, n, i⟩, reference ⟨s', n', i'⟩ => s == s' && n == n' && beqOptional i i'
  | object a, object b => a == b
  | array a, array b | list a, list b => beqItems a b
  | call ⟨v, d, p, i, ps⟩, call ⟨v', d', p', i', ps'⟩ =>
    v == v' && beqOptional d d' && p == p' && beqOptional i i' && beqItems ps ps'
  | _, _ => false

/-- Whether two expressions have the same nodes. Expressions of different lengths never do. -/
def beqItems : List Node → List Node → Bool
  | [], [] => true
  | a :: as, b :: bs => beq a b && beqItems as bs
  | _, _ => false

/-- Whether two optional expressions have the same nodes. -/
def beqOptional : Option (List Node) → Option (List Node) → Bool
  | none, none => true
  | some a, some b => beqItems a b
  | _, _ => false

end

mutual

/-- The comparison decides equality. The proof follows the recursion of `beq`; each kind of list has
its own lemma beside it. -/
theorem beq_iff : (a b : Node) → (beq a b = true ↔ a = b)
  | str _, b | number _, b | bool _, b | null, b | word _, b | object _, b | named _, b => by
    cases b <;> simp [beq]
  | array as, b | list as, b => by cases b <;> simp [beq, beqItems_iff as]
  | reference ⟨s, n, i⟩, b => by
    cases b with
    | reference r =>
      cases r
      simp [beq, beqOptional_iff i, and_assoc]
    | _ => simp [beq]
  | call ⟨v, d, p, i, ps⟩, b => by
    cases b with
    | call c =>
      cases c
      simp [beq, beqOptional_iff d, beqOptional_iff i, beqItems_iff ps, and_assoc]
    | _ => simp [beq]

/-- The comparison of expressions decides equality. It is one of three that are proved together, as
the types are nested. -/
theorem beqItems_iff : (as bs : List Node) → (beqItems as bs = true ↔ as = bs)
  | [], bs => by cases bs <;> simp [beqItems]
  | a :: as, bs => by cases bs <;> simp [beqItems, beq_iff a, beqItems_iff as]

/-- The comparison of optional expressions decides equality. -/
theorem beqOptional_iff : (a b : Option (List Node)) → (beqOptional a b = true ↔ a = b)
  | none, b => by cases b <;> simp [beqOptional]
  | some as, b => by cases b <;> simp [beqOptional, beqItems_iff as]

end

-- nodes are nested in lists of nodes, so the instance cannot be derived
instance : DecidableEq Node := fun a b => decidable_of_iff (beq a b = true) (beq_iff a b)

end Node

namespace Verbcall

variable {ν : Type}

/-- `a - b`, if that is not negative. A call that was not made from a line may have objects longer
than its params. -/
def minus? (a b : Nat) : Option Nat := if b ≤ a then some (a - b) else none

/-- Where the direct object stands among the params: its first and one past its last place. It is as
long as the direct object and ends in front of the preposition, whose words are counted. -/
def directRange? (c : Verbcall ν) : Option (Nat × Nat) := do
  let direct ← c.direct
  let indirectLength := (c.indirect.map List.length).getD 0
  let phraseLength := (c.preposition.map fun p => (Text.words p.toList).length).getD 0
  let stop ← minus? c.params.length (indirectLength + phraseLength)
  let start ← minus? stop direct.length
  return (start, stop)

/-- Where the indirect object stands among the params, which is always their end. -/
def indirectRange? (c : Verbcall ν) : Option (Nat × Nat) := do
  let indirect ← c.indirect
  let start ← minus? c.params.length indirect.length
  return (start, c.params.length)

end Verbcall

end VerbScript
