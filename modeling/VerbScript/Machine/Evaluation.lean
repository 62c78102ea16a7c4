import VerbScript.Machine.Plan
import VerbScript.Machine.Reduction
import VerbScript.Script.Basic
import VerbScript.Table

/-!
# Evaluation

The plans of nodes, expressions and statements. Nodes are resolved from left to right, and a
request is asked where the resolution meets it. Local variables do not change while a statement
is evaluated: an assignment to a variable is the result of its plan (`Effect.write`), and an
assignment to a property ends with the request to write it.
-/

namespace VerbScript

/-- What evaluation may look at. Everything else it has to ask for, which is why a script sees the
world only through its host. -/
structure Scope where
  /-- The object the script runs as. -/
  owner : ObjectId
  locals : Table String Value

/-- The value of a local variable; an unset one is null. -/
def Scope.lookup (s : Scope) (name : String) : Value := s.locals.getD name .null

/-- Whether an expression starts with a number literal. A variable that holds a number does not
count. -/
def Expr.numberFirst (e : Expr) : Bool := e.head?.any Node.isNumber

/-- The value as an index of an array. The fault names the kind of the value, also if it is a
number. -/
def arrayIndex (index : Value) : Except Fault Nat :=
  match index.asIndex? with
  | some i => .ok i
  | none => .error (.typeMismatch "[]" .array index.kind)

/-- The element of an array value. It is checked first that the value is an array, then the index,
and then that there is such an element. -/
def elementAt (whole index : Value) : Except Fault Value :=
  match whole with
  | .array items => do
    let i ← arrayIndex index
    match items[i]? with
    | some item => .ok item
    | none => .error (.indexOutOfBounds i items.length)
  | other => .error (.nonIndexable other.kind)

/-- The places from `start` up to `stop` of a list. -/
def slice {α : Type} (range : Nat × Nat) (items : List α) : List α :=
  (items.take range.2).drop range.1

/-- The value of one object of a verb call, whose place among the params is known. It is reduced
like an expression of its own, from operands that have been resolved for the params already. -/
def callObject (params : List Node) (operands : List Operand) :
    Option (Nat × Nat) → Except Fault (Option Value)
  | none => .ok none
  | some range =>
    (reduce (slice range operands) (Expr.numberFirst (slice range params))).map some

/-- The value of a param: an operator word counts as the word itself, so `and` is not passed as
`&&`. -/
def paramValue (n : Node) : Operand → Value
  | .value v => v
  | .operator op => .str (n.asWord?.getD op.symbol)

/-- The request of a verb call whose params are resolved. Both objects have to reduce to a value,
although the params are passed as well. -/
def callRequest (owner : ObjectId) (c : Verbcall Node) (operands : List Operand) :
    Except Fault Request := do
  let direct ← callObject c.params operands c.directRange?
  let indirect ← callObject c.params operands c.indirectRange?
  return .call owner {
    verb := c.verb
    direct
    preposition := c.preposition
    indirect
    params := List.zipWith paramValue c.params operands
    caller := owner }

/-- The plan of a verb call whose params are resolved. Its only request is the last one of the
call. -/
def callPlan (owner : ObjectId) (c : Verbcall Node) (operands : List Operand) : Plan Value := do
  Plan.request (← Plan.ofExcept (callRequest owner c operands))

mutual

/-- The plan of a single node. An expression in parentheses is reduced, except that a word alone
in them is not an operator. -/
def Node.resolve (s : Scope) : Node → Plan Value
  | .str text => .done (.str text)
  | .number n => .done (.number n)
  | .bool b => .done (.bool b)
  | .null => .done .null
  | .word text => .done (.str text)
  | .object id => .done (.object id)
  | .named name => Plan.request (.resolveAlias name)
  | .array items => do return .array (← resolveItems s items)
  | .list [n] => n.resolve s
  | .list items => do
    Plan.ofExcept (reduce (← resolveOperands s items) (Expr.numberFirst items))
  | .reference ⟨.var, name, index⟩ => resolveIndex s (s.lookup name) index
  | .reference ⟨.prop, name, index⟩ => do
    resolveIndex s (← Plan.request (.getProp s.owner name)) index
  | .call ⟨verb, direct, preposition, indirect, params⟩ => do
    callPlan s.owner ⟨verb, direct, preposition, indirect, params⟩ (← resolveOperands s params)

/-- The plan of the items of an array, in which operator words are just words. Each item is resolved
by itself, from left to right. -/
def resolveItems (s : Scope) : List Node → Plan (List Value)
  | [] => .done []
  | n :: rest => do return (← n.resolve s) :: (← resolveItems s rest)

/-- The plan of the operands of an expression: operator words stand for operators, and nothing is
applied yet. -/
def resolveOperands (s : Scope) : List Node → Plan (List Operand)
  | [] => .done []
  | n :: rest =>
    match n.operator? with
    | some op => do return .operator op :: (← resolveOperands s rest)
    | none => do return .value (← n.resolve s) :: (← resolveOperands s rest)

/-- The plan of a reference whose value is known and which may have an index. A property has been
asked for before its index is evaluated. -/
def resolveIndex (s : Scope) (whole : Value) : Option (List Node) → Plan Value
  | none => .done whole
  | some index => do
    let i ← Plan.ofExcept (reduce (← resolveOperands s index) (Expr.numberFirst index))
    Plan.ofExcept (elementAt whole i)

end

/-- The plan of an expression. All its nodes are resolved before the first of its operators is
applied. -/
def Expr.plan (s : Scope) (e : Expr) : Plan Value := do
  Plan.ofExcept (reduce (← resolveOperands s e) e.numberFirst)

/-- The plan of a verb call. -/
def Verbcall.plan (s : Scope) (c : Verbcall Node) : Plan Value := do
  callPlan s.owner c (← resolveOperands s c.params)

/-! ### Statements -/

/-- The value an assignment leaves in a place that held `old`. The old value is the left operand. -/
def AssignOp.combine (op : AssignOp) (old value : Value) : Except Fault Value :=
  match op.operator? with
  | some operator => operator.apply old value
  | none => .ok value

/-- The array after an assignment to its element `i`; a plain assignment one past the end
appends. -/
def AssignOp.storeAt (op : AssignOp) (whole : Value) (i : Nat) (value : Value) :
    Except Fault Value :=
  match whole with
  | .array items =>
    match items[i]? with
    | some old => (op.combine old value).map fun item => .array (items.set i item)
    | none =>
      -- a compound assignment needs an old element, so it never appends
      if op = .set ∧ i = items.length then .ok (.array (items ++ [value]))
      else .error (.indexOutOfBounds i items.length)
  | other => .error (.nonIndexable other.kind)

/-- What a statement does to the frame that executes it. The write of a property is not among these,
because it is a request of the plan. -/
inductive Effect where
  /-- Enter the block of the statement. -/
  | descend
  /-- Go on behind the statement. -/
  | next
  /-- Set a local variable and go on behind the statement. -/
  | write (name : String) (value : Value)

/-- The plan of the index of an assigned reference, if it has one. An index that is no whole number
fails here, before the target is read. -/
def indexPlan (s : Scope) : Option Expr → Plan (Option Nat)
  | none => .done none
  | some e => do return some (← Plan.ofExcept (arrayIndex (← e.plan s)))

/-- The plan of the value a reference holds before an assignment, without regard to its index. A
variable that was never set holds null. -/
def currentPlan (s : Scope) (target : Reference Node) : Plan Value :=
  match target.sigil with
  | .var => .done (s.lookup target.name)
  | .prop => Plan.request (.getProp s.owner target.name)

/-- The plan of the value an assignment leaves in its target. A plain assignment to the whole target
does not read it. -/
def assignedPlan (s : Scope) (op : AssignOp) (target : Reference Node) (index : Option Nat)
    (value : Value) : Plan Value :=
  match index with
  | some i => do Plan.ofExcept (op.storeAt (← currentPlan s target) i value)
  | none =>
    if op = .set then .done value
    else do Plan.ofExcept (op.combine (← currentPlan s target) value)

/-- The plan of an assignment: the source first, then the index, then the old value if it
matters, and the write last. -/
def assignPlan (s : Scope) (op : AssignOp) (target : Reference Node) (source : Expr) :
    Plan Effect := do
  let value ← source.plan s
  let index ← indexPlan s target.index
  let result ← assignedPlan s op target index value
  match target.sigil with
  | .var => return .write target.name result
  | .prop =>
    let _ ← Plan.request (.setProp s.owner target.name result)
    return .next

/-- The plan of testing the condition of a block. An empty block is never entered, and so a `while`
over one is tested only once. -/
def conditionPlan (s : Scope) (condition : Expr) (block : List Statement) : Plan Effect := do
  let v ← condition.plan s
  return if v.truthy && !block.isEmpty then .descend else .next

/-- The plan of one execution of a statement. For a block it is only the test of its condition; the
statements in it are executed by themselves. -/
def Statement.plan (s : Scope) : Statement → Plan Effect
  | .ifThen condition block => conditionPlan s condition block
  | .whileLoop condition block => conditionPlan s condition block
  | .assign op target source => assignPlan s op target source
  | .call c => do
    let _ ← c.plan s
    return .next

/-- The plan of finding the statement after the one at a path, which is given innermost place
first: the next place of the block, or else behind the statement that holds the block, a `while`
being entered again if its condition still holds. None is the end of the script. -/
def successorPlan (s : Scope) (script : Script) : List Nat → Plan (Option Path)
  | [] => .done none
  | last :: parents =>
    let length := ((script.enclosing? (last :: parents).reverse).map List.length).getD 0
    if last + 1 < length then .done (some ((last + 1) :: parents).reverse)
    else if parents.isEmpty then .done none
    else
      match script.find? parents.reverse with
      | some (.whileLoop condition _) => do
        let v ← condition.plan s
        -- the path comes from inside the block, so there is a first statement
        if v.truthy then return some (0 :: parents).reverse else successorPlan s script parents
      -- an `if` is left without testing its condition again
      | _ => successorPlan s script parents

end VerbScript
