import VerbScript.Machine.Basic
import VerbScript.Proofs.PlanLaws
import VerbScript.World.Basic

/-!
# A direct-style interpreter

The reference for machines: a structured recursive interpreter that asks the host at the point
where evaluation needs an answer, and goes on with it. There are no paths, no logs, no phases and
no stack of frames; the only thing it shares with machines is what needs no host, such as
`reduce`.

* `Dialogue` — a host together with all that has been exchanged with it.
* `Direct σ` — computations that talk to a host of type `σ`: they end with a value or a fault and
  the dialogue so far, or run out of fuel (`none`).
* `Direct.evalNode`, `Direct.evalExpr` and the functions with them — expressions from left to right.
* `Direct.block` — statements: an `if` runs its block once if its condition holds, a `while` tests
  its condition before every round, a call runs the whole script of the callee with variables of its
  own. Fuel is spent by every statement.
* `Direct.interpret` — a whole script, with its variables and its result at the end.

`Plan.perform` runs a plan against the host. It is the bridge to the definitions that machines
execute: `Direct.perform_resolve` and the lemmas after it say that evaluating in direct style is
performing the plan.
-/

namespace VerbScript

variable {σ α β : Type}

/-- A request, and the host's answer to it. The answer is the one that was given, also if it was of
the wrong kind and the script has failed for this. -/
abbrev Exchange := Request × Except Fault Reply

/-- A host, and what has been exchanged with it, the first exchange first. The host keeps a state of
its own, so the order of the exchanges matters to what it answers. -/
structure Dialogue (σ : Type) where
  host : σ
  exchanges : List Exchange := []

/-- Has the host answer a request. -/
def Dialogue.serve [Host σ] (d : Dialogue σ) (r : Request) : Dialogue σ × Except Fault Reply :=
  let (host, reply) := Host.serve d.host r
  ({ host, exchanges := d.exchanges ++ [(r, reply)] }, reply)

/-- Computations that talk to a host; none is a computation that has run out of fuel. A fault ends
the computation, and the dialogue up to it is kept. -/
abbrev Direct (σ : Type) := ExceptT Fault (StateT (Dialogue σ) Option)

/-- On whose behalf a script runs, and how deep it is nested. The limit is handed down from caller
to callee, and the depth grows by one. -/
structure Site where
  owner : ObjectId
  depth : Nat
  maxDepth : Nat

namespace Direct

/-- The computation that has run out of fuel. It has no outcome, not even a dialogue, so that no
fault can be mistaken for it. -/
def outOfFuel : Direct σ α := fun _ => none

/-- A computation that needs no host. -/
def ofExcept (x : Except Fault α) : Direct σ α := fun d => some (x, d)

/-- One exchange with the host. A fault of the host is raised where the request is made, and not a
step later as a machine does. -/
def exchange [Host σ] (r : Request) : Direct σ Reply := fun d =>
  let (d, reply) := d.serve r
  some (reply, d)

/-- The value an answer comes to; `callee` runs a frame to its end. A frame deeper than allowed is
not run. A machine that is brought counts as its outermost frame: hosts bring machines that are at
their beginning, and those have no other. -/
def settle (site : Site) (callee : Frame → Direct σ Value) : Request → Reply → Direct σ Value
  | .call .., .frame m =>
    if site.maxDepth < site.depth + 1 then throw (.callDepthExceeded site.maxDepth)
    else callee m.root
  | .call .., .value v => return v
  | .getProp .., .value v => return v
  | .resolveAlias _, .value v => return v
  | .setProp .., .value _ => return .null
  | .setProp .., .done => return .null
  | r, reply =>
    throw (.unexpectedReply (r.kind.name ++ " cannot be answered with " ++ reply.describe))

/-- Performs a request: the host answers it, and a script that it brings is run to its end at
once. -/
def request [Host σ] (site : Site) (callee : Frame → Direct σ Value) (r : Request) :
    Direct σ Value := do
  settle site callee r (← exchange r)

/-! ### Expressions -/

section Eval

variable (ask : Request → Direct σ Value) (s : Scope)

/-- Makes a verb call whose params are evaluated. A request that cannot be built is not made, and
fails with the fault of building it. -/
def call (c : Verbcall Node) (operands : List Operand) : Direct σ Value := do
  ask (← ofExcept (callRequest s.owner c operands))

mutual

/-- The value of a node. The requests are made where the value is needed, with whatever `ask` does
for each of them. -/
def evalNode : Node → Direct σ Value
  | .str text => return .str text
  | .number n => return .number n
  | .bool b => return .bool b
  | .null => return .null
  | .word text => return .str text
  | .object id => return .object id
  | .named name => ask (.resolveAlias name)
  | .array items => return .array (← evalItems items)
  | .list [n] => evalNode n
  | .list items => do ofExcept (reduce (← evalOperands items) (Expr.numberFirst items))
  | .reference ⟨.var, name, index⟩ => evalIndex (s.lookup name) index
  | .reference ⟨.prop, name, index⟩ => do evalIndex (← ask (.getProp s.owner name)) index
  | .call ⟨verb, direct, preposition, indirect, params⟩ => do
    call ask s ⟨verb, direct, preposition, indirect, params⟩ (← evalOperands params)

/-- The values of the items of an array, from left to right. Each item is evaluated on its own;
there are no operators among them. -/
def evalItems : List Node → Direct σ (List Value)
  | [] => return []
  | n :: rest => do
    let v ← evalNode n
    return v :: (← evalItems rest)

/-- The operands of an expression, from left to right. Operators stand among them as they are, and
are not evaluated. -/
def evalOperands : List Node → Direct σ (List Operand)
  | [] => return []
  | n :: rest =>
    match n.operator? with
    | some op => return .operator op :: (← evalOperands rest)
    | none => do
      let v ← evalNode n
      return .value v :: (← evalOperands rest)

/-- The value of a reference that holds `whole`: an element of it if there is an index, and
otherwise all of it. -/
def evalIndex (whole : Value) : Option (List Node) → Direct σ Value
  | none => return whole
  | some index => do
    let i ← ofExcept (reduce (← evalOperands index) (Expr.numberFirst index))
    ofExcept (elementAt whole i)

end

/-- The value of an expression. -/
def evalExpr (e : Expr) : Direct σ Value := do
  ofExcept (reduce (← evalOperands ask s e) e.numberFirst)

/-- The result of a verb call. -/
def evalCall (c : Verbcall Node) : Direct σ Value := do
  call ask s c (← evalOperands ask s c.params)

/-! ### Statements -/

/-- What a reference holds, before any index is looked at: a variable is looked up, and a property
asked for. -/
def current (target : Reference Node) : Direct σ Value :=
  match target.sigil with
  | .var => return s.lookup target.name
  | .prop => ask (.getProp s.owner target.name)

/-- The place an indexed assignment writes to. Without an index there is none, and the whole target
is written. -/
def evalPlace (target : Reference Node) : Direct σ (Option Nat) :=
  match target.index with
  | none => return none
  | some e => do return some (← ofExcept (arrayIndex (← evalExpr ask s e)))

/-- The value an assignment leaves in its target: an array with one element changed, if there is an
index, and what the operator makes of the old value and the new one otherwise. -/
def assigned (op : AssignOp) (target : Reference Node) (place : Option Nat) (value : Value) :
    Direct σ Value :=
  match place with
  | some i => do ofExcept (op.storeAt (← current ask s target) i value)
  | none => if op = .set then return value
    else do ofExcept (op.combine (← current ask s target) value)

/-- Carries out an assignment, and gives the variables after it. -/
def assign (op : AssignOp) (target : Reference Node) (source : Expr) :
    Direct σ (Table String Value) := do
  let value ← evalExpr ask s source
  let place ← evalPlace ask s target
  let result ← assigned ask s op target place value
  match target.sigil with
  | .var => return s.locals.insert target.name result
  | .prop =>
    let _ ← ask (.setProp s.owner target.name result)
    return s.locals

end Eval

/-- Runs some statements, and gives the variables after them. Every statement spends fuel, and so
does every round of a loop and every statement of a script that is called. Fuel bounds nothing but
how far the interpreter looks: a run that ends gives the same with more of it. -/
def block [Host σ] : Nat → Site → Table String Value → List Statement →
    Direct σ (Table String Value)
  | _, _, locals, [] => return locals
  | 0, _, _, _ :: _ => outOfFuel
  | fuel + 1, site, locals, statement :: rest =>
    -- a callee starts with the variables of its call and gives back its result
    let callee (f : Frame) : Direct σ Value := do
      let locals ← block fuel ⟨f.owner, site.depth + 1, site.maxDepth⟩ f.locals f.script
      return locals.getD Frame.returnName .null
    let ask := request site callee
    let s : Scope := ⟨site.owner, locals⟩
    match statement with
    | .ifThen condition body => do
      if (← evalExpr ask s condition).truthy then
        let locals ← block fuel site locals body
        block fuel site locals rest
      else block fuel site locals rest
    | .whileLoop condition body => do
      if (← evalExpr ask s condition).truthy && !body.isEmpty then
        let locals ← block fuel site locals body
        block fuel site locals (.whileLoop condition body :: rest)
      else block fuel site locals rest
    | .assign op target source => do
      let locals ← assign ask s op target source
      block fuel site locals rest
    | .call c => do
      let _ ← evalCall ask s c
      block fuel site locals rest

/-- Runs a whole script that nothing has called, and gives its variables and its result. The result
is the variable that is named for it, or `null` if the script has not set it. -/
def interpret [Host σ] (fuel : Nat) (owner : ObjectId) (script : Script)
    (locals : Table String Value) (maxDepth : Nat) : Direct σ (Table String Value × Value) := do
  let locals ← block fuel ⟨owner, 0, maxDepth⟩ locals script
  return (locals, locals.getD Frame.returnName .null)

/-! ### Running computations -/

/-- A computation in a row with another one, as it is run: without fuel there is no result, a fault
skips the second computation, and the second goes on with the dialogue of the first. -/
theorem run_bind (x : Direct σ α) (f : α → Direct σ β) (d : Dialogue σ) :
    (x >>= f) d = match x d with
      | none => none
      | some (.error fault, d) => some (.error fault, d)
      | some (.ok a, d) => f a d := by
  change (x d).bind (fun y => ExceptT.bindCont f y.1 y.2) = _
  -- the three cases are those of the outcome of `x`
  cases x d with
  | none => rfl
  | some y =>
    obtain ⟨y, d'⟩ := y
    cases y <;> rfl

/-- An exchange never runs out of fuel. It is in the dialogue from here on, whatever becomes of the
answer. -/
theorem run_exchange [Host σ] (r : Request) (d : Dialogue σ) :
    exchange r d = some ((d.serve r).2, (d.serve r).1) := rfl

end Direct

/-! ### Performing plans -/

namespace Plan

/-- Performs the requests of a plan where it asks them. A machine re-executes its plan from the
beginning with each new answer; here it is gone through once. -/
def perform (ask : Request → Direct σ Value) : Plan α → Direct σ α
  | .done a => pure a
  | .fail fault => throw fault
  | .ask r k => do (k (← ask r)).perform ask

variable (ask : Request → Direct σ Value)

@[simp] theorem perform_done (a : α) : (done a).perform ask = pure a := rfl

/-- Two plans in a row are performed one after the other. The induction is on the first plan; a
fault of it skips the second one on both sides. -/
@[simp] theorem perform_bind (p : Plan α) (f : α → Plan β) :
    (p.bind f).perform ask = p.perform ask >>= fun a => (f a).perform ask := by
  induction p with
  | done a => exact (pure_bind a fun a => (f a).perform ask).symm
  | fail fault => rfl
  | ask r k ih =>
    change (ask r >>= fun v => ((k v).bind f).perform ask)
      = ((ask r >>= fun v => (k v).perform ask) >>= fun a => (f a).perform ask)
    -- the request comes first on both sides, and the rest agrees for every answer
    rw [LawfulMonad.bind_assoc]
    congr 1
    funext v
    exact ih v

@[simp] theorem perform_request (r : Request) : (request r).perform ask = ask r :=
  bind_pure (ask r)

@[simp] theorem perform_ofExcept (x : Except Fault α) :
    (ofExcept x).perform ask = Direct.ofExcept x := by
  cases x <;> rfl

end Plan

namespace Direct

variable (ask : Request → Direct σ Value) (s : Scope)

/-- Making a call is performing the plan of the call. -/
theorem perform_callPlan (c : Verbcall Node) (operands : List Operand) :
    (callPlan s.owner c operands).perform ask = call ask s c operands := by
  simp only [callPlan, call, Plan.bind_eq, Plan.perform_bind, Plan.perform_ofExcept,
    Plan.perform_request]

mutual

/-- **Evaluating a node is performing its plan.** The four statements go together like the
definitions that they compare; each case opens the two and finds the parts in the same order. -/
theorem perform_resolve : ∀ n : Node, (n.resolve s).perform ask = evalNode ask s n
  | .str _ => rfl
  | .number _ => rfl
  | .bool _ => rfl
  | .null => rfl
  | .word _ => rfl
  | .object _ => rfl
  | .named name => Plan.perform_request ask _
  | .array items => by
    unfold Node.resolve evalNode
    simp only [Plan.bind_eq, Plan.perform_bind, Plan.pure_eq, Plan.perform_done,
      perform_resolveItems items]
  | .list [] => by
    unfold Node.resolve evalNode
    simp only [Plan.bind_eq, Plan.perform_bind, Plan.perform_ofExcept, perform_resolveOperands []]
  -- a single node in parentheses is the node itself, also if it is an operator
  | .list [n] => by
    unfold Node.resolve evalNode
    exact perform_resolve n
  | .list (n :: n' :: rest) => by
    unfold Node.resolve evalNode
    simp only [Plan.bind_eq, Plan.perform_bind, Plan.perform_ofExcept,
      perform_resolveOperands (n :: n' :: rest)]
  | .reference ⟨.var, name, index⟩ => by
    unfold Node.resolve evalNode
    exact perform_resolveIndex (s.lookup name) index
  -- the property is asked for before the index is looked at
  | .reference ⟨.prop, name, index⟩ => by
    unfold Node.resolve evalNode
    simp only [Plan.bind_eq, Plan.perform_bind, Plan.perform_request]
    congr 1
    funext v
    exact perform_resolveIndex v index
  | .call ⟨verb, direct, preposition, indirect, params⟩ => by
    unfold Node.resolve evalNode
    simp only [Plan.bind_eq, Plan.perform_bind, perform_callPlan, perform_resolveOperands params]

theorem perform_resolveItems :
    ∀ items : List Node, (resolveItems s items).perform ask = evalItems ask s items
  | [] => rfl
  | n :: rest => by
    unfold resolveItems evalItems
    simp only [Plan.bind_eq, Plan.perform_bind, Plan.pure_eq, Plan.perform_done, perform_resolve n,
      perform_resolveItems rest]

theorem perform_resolveOperands :
    ∀ e : List Node, (resolveOperands s e).perform ask = evalOperands ask s e
  | [] => rfl
  | n :: rest => by
    unfold resolveOperands evalOperands
    -- an operator asks nothing
    cases n.operator?
    case some op =>
      simp only [Plan.bind_eq, Plan.perform_bind, Plan.pure_eq, Plan.perform_done,
        perform_resolveOperands rest]
    case none =>
      simp only [Plan.bind_eq, Plan.perform_bind, Plan.pure_eq, Plan.perform_done,
        perform_resolve n, perform_resolveOperands rest]

theorem perform_resolveIndex (whole : Value) :
    ∀ index : Option (List Node),
      (resolveIndex s whole index).perform ask = evalIndex ask s whole index
  | none => rfl
  | some index => by
    unfold resolveIndex evalIndex
    simp only [Plan.bind_eq, Plan.perform_bind, Plan.perform_ofExcept,
      perform_resolveOperands index]

end

/-- Evaluating an expression is performing its plan. -/
theorem perform_exprPlan (e : Expr) : (e.plan s).perform ask = evalExpr ask s e := by
  simp only [Expr.plan, evalExpr, Plan.bind_eq, Plan.perform_bind, Plan.perform_ofExcept,
    perform_resolveOperands]

/-- So it is with a verb call, and with the parts of an assignment. -/
theorem perform_verbcallPlan (c : Verbcall Node) :
    (c.plan s).perform ask = evalCall ask s c := by
  simp only [Verbcall.plan, evalCall, Plan.bind_eq, Plan.perform_bind, perform_callPlan,
    perform_resolveOperands]

theorem perform_currentPlan (target : Reference Node) :
    (currentPlan s target).perform ask = current ask s target := by
  unfold currentPlan current
  -- a variable is at hand, a property is asked for
  cases target.sigil with
  | var => rfl
  | prop => exact Plan.perform_request ask _

theorem perform_indexPlan (target : Reference Node) :
    (indexPlan s target.index).perform ask = evalPlace ask s target := by
  unfold evalPlace
  cases target.index with
  | none => rfl
  | some e =>
    simp only [indexPlan, Plan.bind_eq, Plan.perform_bind, Plan.perform_ofExcept, Plan.pure_eq,
      Plan.perform_done, perform_exprPlan]

theorem perform_assignedPlan (op : AssignOp) (target : Reference Node) (place : Option Nat)
    (value : Value) :
    (assignedPlan s op target place value).perform ask = assigned ask s op target place value := by
  unfold assignedPlan assigned
  cases place with
  | some i =>
    simp only [Plan.bind_eq, Plan.perform_bind, Plan.perform_ofExcept, perform_currentPlan]
  | none =>
    -- only a compound assignment needs the old value
    by_cases hop : op = .set
    · simp only [hop, if_true, Plan.perform_done]
    · simp only [hop, if_false, Plan.bind_eq, Plan.perform_bind, Plan.perform_ofExcept,
        perform_currentPlan]

/-- The plan of an assignment up to the variables after it. A machine ends with an effect and writes
the variable itself; here the write is part of the plan, so that both sides end with the same
data. -/
def assignLocals (op : AssignOp) (target : Reference Node) (source : Expr) :
    Plan (Table String Value) :=
  (source.plan s).bind fun value =>
    ((indexPlan s target.index).bind fun index => assignedPlan s op target index value).bind
      fun result =>
        match target.sigil with
        | .var => .done (s.locals.insert target.name result)
        | .prop => (Plan.request (.setProp s.owner target.name result)).bind fun _ => .done s.locals

theorem perform_assignLocals (op : AssignOp) (target : Reference Node) (source : Expr) :
    (assignLocals s op target source).perform ask = assign ask s op target source := by
  unfold assignLocals assign
  simp only [Plan.perform_bind, perform_exprPlan, perform_indexPlan, perform_assignedPlan,
    LawfulMonad.bind_assoc]
  -- a property is written by a last request
  cases target.sigil with
  | var => rfl
  | prop => simp only [Plan.perform_bind, Plan.perform_request, Plan.perform_done]

/-! ### The equations of blocks -/

/-- How the scripts that a script at `site` calls are run: one level deeper, with the limit of the
caller, up to the value of the variable that is named for results. -/
def callee [Host σ] (fuel : Nat) (site : Site) (f : Frame) : Direct σ Value := do
  let locals ← block fuel ⟨f.owner, site.depth + 1, site.maxDepth⟩ f.locals f.script
  return locals.getD Frame.returnName .null

section Block

variable [Host σ] (fuel : Nat) (site : Site) (locals : Table String Value) (rest : List Statement)

/-- No statements leave the variables as they are, whatever fuel there is. -/
theorem block_nil : block fuel site locals [] = (pure locals : Direct σ (Table String Value)) := by
  unfold block
  rfl

/-- Without fuel no statement is executed. -/
theorem block_zero (statement : Statement) :
    block 0 site locals (statement :: rest) = (outOfFuel : Direct σ (Table String Value)) := rfl

/-- The equations of a block with its first statement, in terms of plans. They are all that is used
of `block` from here on. -/
theorem block_if (condition : Expr) (body : List Statement) :
    (block (fuel + 1) site locals (.ifThen condition body :: rest) : Direct σ _)
      = (condition.plan ⟨site.owner, locals⟩).perform (request site (callee fuel site)) >>= fun v =>
          if v.truthy then block fuel site locals body >>= fun locals => block fuel site locals rest
          else block fuel site locals rest := by
  rw [perform_exprPlan]
  rfl

/-- A loop is executed again behind its body, with the statements behind it still to come. An empty
body is not entered, whatever the condition says. -/
theorem block_while (condition : Expr) (body : List Statement) :
    (block (fuel + 1) site locals (.whileLoop condition body :: rest) : Direct σ _)
      = (condition.plan ⟨site.owner, locals⟩).perform (request site (callee fuel site)) >>= fun v =>
          if v.truthy && !body.isEmpty then
            block fuel site locals body >>= fun locals =>
              block fuel site locals (.whileLoop condition body :: rest)
          else block fuel site locals rest := by
  rw [perform_exprPlan]
  rfl

theorem block_assign (op : AssignOp) (target : Reference Node) (source : Expr) :
    (block (fuel + 1) site locals (.assign op target source :: rest) : Direct σ _)
      = (assignLocals ⟨site.owner, locals⟩ op target source).perform
          (request site (callee fuel site)) >>= fun locals => block fuel site locals rest := by
  rw [perform_assignLocals]
  rfl

theorem block_call (c : Verbcall Node) :
    (block (fuel + 1) site locals (.call c :: rest) : Direct σ _)
      = ((c.plan ⟨site.owner, locals⟩).bind fun _ => .done locals).perform
          (request site (callee fuel site)) >>= fun locals => block fuel site locals rest := by
  rw [Plan.perform_bind, perform_verbcallPlan, LawfulMonad.bind_assoc]
  rfl

end Block

end Direct

end VerbScript
