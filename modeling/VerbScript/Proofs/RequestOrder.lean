import VerbScript.Proofs.OrdinaryFaults

/-!
# The order of requests

What a statement asks, and in which order, can be read off its syntax: `Node.asks`, `Expr.asks` and
`Statement.asks` list the requests without the values that go with them (`Ask`). The answers decide
only how far down its list a statement comes.

* `Plan.Scheduled owner asks p` — whatever is answered, `p` asks exactly the requests of the list
  `asks`, in order, on behalf of `owner`, unless it fails on the way; and it never fails with the
  regular end of a script.
* `Statement.plan_scheduled` — the plan of a statement is scheduled by the list of its syntax. The
  proof is one induction over nodes, with one lemma per nested list.
* `Plan.Scheduled.every` — what a schedule says about each request and fault, without the order.
-/

namespace VerbScript

/-- What a request is about, without the values that go with it. Values depend on the answers that
were given before, and what a request is about does not. -/
inductive Ask where
  | getProp (name : String)
  | setProp (name : String)
  | resolveAlias (name : String)
  | call (verb : String)
deriving DecidableEq

namespace Request

/-- What the request is about. The object that asks and the value that is written are left out, and
of a call all but the verb. -/
def ask : Request → Ask
  | getProp _ name => .getProp name
  | setProp _ name _ => .setProp name
  | resolveAlias name => .resolveAlias name
  | call _ args => .call args.verb

/-- The request names `owner` as its object, or names no object at all. A name is resolved for
anyone, so it is a request of every object. -/
def IsOf (owner : ObjectId) : Request → Prop
  | getProp object _ => object = owner
  | setProp object _ _ => object = owner
  | resolveAlias _ => True
  | call object _ => object = owner

/-- Every request is made on behalf of some object. -/
theorem exists_isOf (r : Request) : ∃ owner, r.IsOf owner := by
  cases r with
  | getProp object name => exact ⟨object, rfl⟩
  | setProp object name value => exact ⟨object, rfl⟩
  | resolveAlias name => exact ⟨⟨0⟩, trivial⟩
  | call object args => exact ⟨object, rfl⟩

end Request

/-! ### The requests of the syntax -/

mutual

/-- The requests of a node: those of a property start with the property itself, those of a call
end with the call. -/
def Node.asks : Node → List Ask
  | .str _ => []
  | .number _ => []
  | .bool _ => []
  | .null => []
  | .word _ => []
  | .object _ => []
  | .named name => [.resolveAlias name]
  | .array items => listAsks items
  | .list items => listAsks items
  | .reference ⟨.var, _, index⟩ => indexAsks index
  | .reference ⟨.prop, name, index⟩ => .getProp name :: indexAsks index
  | .call ⟨verb, _, _, _, params⟩ => listAsks params ++ [.call verb]

/-- The requests of some nodes, from left to right, which is the order in which they are
evaluated. -/
def listAsks : List Node → List Ask
  | [] => []
  | n :: rest => n.asks ++ listAsks rest

/-- The requests of the index of a reference. They come behind those for what the reference holds,
when it is read. -/
def indexAsks : Option (List Node) → List Ask
  | none => []
  | some index => listAsks index

end

/-- The requests of an expression. -/
def Expr.asks (e : Expr) : List Ask := listAsks e

/-- The requests for the value a reference holds before an assignment. A variable is not asked for,
and a plain assignment to a whole property does not read it. -/
def currentAsks (op : AssignOp) (target : Reference Node) : List Ask :=
  if target.sigil = .prop ∧ (op ≠ .set ∨ target.index.isSome) then [.getProp target.name] else []

/-- The requests for writing a reference. Variables are written without asking anyone. -/
def writeAsks (target : Reference Node) : List Ask :=
  if target.sigil = .prop then [.setProp target.name] else []

/-- The requests of one execution of a statement. The statements of a block are no part of it, since
each of them is an execution of its own. -/
def Statement.asks : Statement → List Ask
  | .ifThen condition _ => condition.asks
  | .whileLoop condition _ => condition.asks
  | .assign op target source =>
    source.asks ++ indexAsks target.index ++ currentAsks op target ++ writeAsks target
  | .call c => listAsks c.params ++ [.call c.verb]

/-! ### Schedules -/

namespace Plan

variable {α β : Type} {owner : ObjectId}

/-- **A schedule of a plan.** Unless it fails, the plan asks exactly the requests listed, in order
and on behalf of `owner`; it never fails with the end of a script. A fault may come at any place of
the list, so a plan that fails has asked an initial part of it. -/
def Scheduled (owner : ObjectId) : List Ask → Plan α → Prop
  | asks, done _ => asks = []
  | _, fail fault => fault ≠ .endOfScript
  | asks, ask r k => ∃ rest, asks = r.ask :: rest ∧ r.IsOf owner ∧ ∀ v, (k v).Scheduled owner rest

/-- Plans are scheduled one after the other, and so are their lists. The induction is on the first
plan, whose faults end both. -/
theorem Scheduled.bind {p : Plan α} {f : α → Plan β} {l₁ l₂ : List Ask}
    (hp : p.Scheduled owner l₁) (hf : ∀ a, (f a).Scheduled owner l₂) :
    (p.bind f).Scheduled owner (l₁ ++ l₂) := by
  induction p generalizing l₁ with
  | done a =>
    obtain rfl : l₁ = [] := hp
    exact hf a
  | fail fault => exact hp
  | ask r k ih =>
    -- the first request of `p` is the first one of the whole list
    obtain ⟨rest, rfl, hr, hk⟩ := hp
    exact ⟨rest ++ l₂, rfl, hr, fun v => ih v (hk v)⟩

/-- A plan that asks nothing adds nothing to the list. -/
theorem Scheduled.bind_quiet {p : Plan α} {f : α → Plan β} {l : List Ask}
    (hp : p.Scheduled owner l) (hf : ∀ a, (f a).Scheduled owner []) :
    (p.bind f).Scheduled owner l := by
  have h := hp.bind hf
  rwa [List.append_nil] at h

/-- A single request is scheduled by itself. -/
theorem scheduled_request {r : Request} (h : r.IsOf owner) :
    (request r).Scheduled owner [r.ask] :=
  ⟨[], rfl, h, fun _ => rfl⟩

/-- A result that needs no host asks nothing. Its faults are a script's own, and so none is the end
of a script. -/
theorem scheduled_ofExcept {x : Except Fault α} (h : FailsWith Fault.Own x) :
    (ofExcept x).Scheduled owner [] := by
  cases x with
  | ok a => rfl
  | error fault => exact (h fault rfl).ordinary.ne_end

/-- **A schedule without its order.** Every request of a scheduled plan is made on behalf of
`owner`, and no fault of it is the end of a script. This is enough where it does not matter what is
asked, but for whom. -/
theorem Scheduled.every {p : Plan α} {l : List Ask} (h : p.Scheduled owner l) :
    p.Every (·.IsOf owner) (· ≠ .endOfScript) := by
  induction p generalizing l with
  | done a => trivial
  | fail fault => exact h
  | ask r k ih =>
    obtain ⟨rest, -, hr, hk⟩ := h
    exact ⟨hr, fun v => ih v (hk v)⟩

end Plan

/-! ### The schedule of the syntax -/

/-- The request of a call names the verb of the call and the object that runs the script. The
objects of the call are found among its operands before, and they may be at fault. -/
theorem callRequest_ask {owner : ObjectId} {c : Verbcall Node} {operands : List Operand}
    {r : Request} (h : callRequest owner c operands = .ok r) :
    r.ask = .call c.verb ∧ r.IsOf owner := by
  unfold callRequest at h
  cases hd : callObject c.params operands c.directRange? with
  | error fault =>
    rw [hd] at h
    cases h
  | ok direct =>
    cases hi : callObject c.params operands c.indirectRange? with
    | error fault =>
      rw [hd, hi] at h
      cases h
    | ok indirect =>
      rw [hd, hi] at h
      cases h
      exact ⟨rfl, rfl⟩

/-- The call itself is one request. All that the operands ask has been asked before. -/
theorem callPlan_scheduled (owner : ObjectId) (c : Verbcall Node) (operands : List Operand) :
    (callPlan owner c operands).Scheduled owner [.call c.verb] := by
  unfold callPlan
  cases h : callRequest owner c operands with
  | error fault =>
    -- a failed plan is scheduled by every list
    exact (callRequest_own owner c operands fault h).ordinary.ne_end
  | ok r =>
    obtain ⟨hask, hof⟩ := callRequest_ask h
    rw [← hask]
    exact Plan.scheduled_request hof

section Resolve

variable (s : Scope)

mutual

/-- **The schedule of a node**, through what is nested in it. The cases are those of `Node.resolve`,
which tells a list of one node from all others. -/
theorem Node.resolve_scheduled : ∀ n : Node, (n.resolve s).Scheduled s.owner n.asks
  | .str _ => rfl
  | .number _ => rfl
  | .bool _ => rfl
  | .null => rfl
  | .word _ => rfl
  | .object _ => rfl
  | .named name => by
    have hr : (Request.resolveAlias name).IsOf s.owner := trivial
    exact Plan.scheduled_request hr
  | .array items => by
    unfold Node.resolve Node.asks
    exact (resolveItems_scheduled items).bind_quiet fun _ => rfl
  | .list [] => by
    unfold Node.resolve Node.asks
    exact (resolveOperands_scheduled []).bind_quiet fun _ =>
      Plan.scheduled_ofExcept (reduce_own _ _)
  | .list [n] => by
    unfold Node.resolve Node.asks listAsks listAsks
    rw [List.append_nil]
    exact n.resolve_scheduled
  | .list (n :: n' :: rest) => by
    unfold Node.resolve Node.asks
    exact (resolveOperands_scheduled (n :: n' :: rest)).bind_quiet fun _ =>
      Plan.scheduled_ofExcept (reduce_own _ _)
  | .reference ⟨.var, name, index⟩ => by
    unfold Node.resolve Node.asks
    exact resolveIndex_scheduled (s.lookup name) index
  | .reference ⟨.prop, name, index⟩ => by
    unfold Node.resolve Node.asks
    have hr : (Request.getProp s.owner name).IsOf s.owner := rfl
    -- the property is read before its index is evaluated
    exact (Plan.scheduled_request hr).bind fun v => resolveIndex_scheduled v index
  | .call ⟨verb, direct, preposition, indirect, params⟩ => by
    unfold Node.resolve Node.asks
    exact (resolveOperands_scheduled params).bind fun operands =>
      callPlan_scheduled s.owner ⟨verb, direct, preposition, indirect, params⟩ operands

/-- The items of an array are resolved from left to right, in the order of the list. -/
theorem resolveItems_scheduled :
    ∀ items : List Node, (resolveItems s items).Scheduled s.owner (listAsks items)
  | [] => rfl
  | n :: rest => by
    unfold resolveItems listAsks
    exact n.resolve_scheduled.bind fun _ => (resolveItems_scheduled rest).bind_quiet fun _ => rfl

/-- So are operands. The operators among them are not resolved, and ask nothing. The others are
resolved from left to right, which is the order of the schedule. -/
theorem resolveOperands_scheduled :
    ∀ e : List Node, (resolveOperands s e).Scheduled s.owner (listAsks e)
  | [] => rfl
  | n :: rest => by
    unfold resolveOperands listAsks
    split
    next op hop =>
      -- an operator is a word, and a word asks nothing
      have hnil : n.asks = [] := by
        cases n with
        | word text => rfl
        | _ => cases hop
      rw [hnil, List.nil_append]
      exact (resolveOperands_scheduled rest).bind_quiet fun _ => rfl
    next =>
      exact n.resolve_scheduled.bind fun _ =>
        (resolveOperands_scheduled rest).bind_quiet fun _ => rfl

/-- An index asks what its expression does. Taking the element asks nothing, as the whole array has
been read by then. -/
theorem resolveIndex_scheduled (whole : Value) :
    ∀ index : Option (List Node),
      (resolveIndex s whole index).Scheduled s.owner (indexAsks index)
  | none => rfl
  | some index => by
    unfold resolveIndex indexAsks
    refine (resolveOperands_scheduled index).bind_quiet fun operands => ?_
    exact (Plan.scheduled_ofExcept (reduce_own _ _)).bind_quiet fun i =>
      Plan.scheduled_ofExcept (elementAt_own _ _)

end

/-- An expression asks what its operands do. Reducing them asks nothing. -/
theorem Expr.plan_scheduled (e : Expr) : (e.plan s).Scheduled s.owner e.asks :=
  (resolveOperands_scheduled s e).bind_quiet fun _ => Plan.scheduled_ofExcept (reduce_own _ _)

/-- A call asks what its params do, and then calls. -/
theorem Verbcall.plan_scheduled (c : Verbcall Node) :
    (c.plan s).Scheduled s.owner (listAsks c.params ++ [.call c.verb]) :=
  (resolveOperands_scheduled s c.params).bind fun _ => callPlan_scheduled _ _ _

/-! ### Statements -/

/-- The old value of a target is asked for if it is a property. A variable is looked up without the
host. -/
theorem currentPlan_scheduled (target : Reference Node) :
    (currentPlan s target).Scheduled s.owner
      (if target.sigil = .prop then [.getProp target.name] else []) := by
  obtain ⟨sigil, name, index⟩ := target
  cases sigil with
  | var => rfl
  | prop =>
    have hr : (Request.getProp s.owner name).IsOf s.owner := rfl
    exact Plan.scheduled_request hr

/-- An assignment to an element reads the whole array first. It does so even for a plain `=`, since
the other elements have to stay. -/
theorem assignedPlan_scheduled_some (op : AssignOp) {target : Reference Node} {e : Expr}
    (h : target.index = some e) (i : Nat) (value : Value) :
    (assignedPlan s op target (some i) value).Scheduled s.owner (currentAsks op target) := by
  have hasks : currentAsks op target
      = if target.sigil = .prop then [.getProp target.name] else [] := by
    simp [currentAsks, h]
  rw [hasks]
  exact (currentPlan_scheduled s target).bind_quiet fun _ =>
    Plan.scheduled_ofExcept (op.storeAt_own _ _ _)

/-- An assignment without an index reads its target only for an operator. A plain `=` replaces
whatever was there. -/
theorem assignedPlan_scheduled_none (op : AssignOp) {target : Reference Node}
    (h : target.index = none) (value : Value) :
    (assignedPlan s op target none value).Scheduled s.owner (currentAsks op target) := by
  unfold assignedPlan
  -- only a plain `=` without an index does not read its target first
  by_cases hop : op = .set
  · have hasks : currentAsks op target = [] := by simp [currentAsks, h, hop]
    rw [hasks, if_pos hop]
    rfl
  · have hasks : currentAsks op target
        = if target.sigil = .prop then [.getProp target.name] else [] := by
      simp [currentAsks, hop]
    rw [hasks, if_neg hop]
    exact (currentPlan_scheduled s target).bind_quiet fun _ =>
      Plan.scheduled_ofExcept (op.combine_own _ _)

/-- The plan from the index of an assignment up to the value it leaves. The index is asked for after
the source and before the target is read. -/
theorem indexed_assignedPlan_scheduled (op : AssignOp) (target : Reference Node) (value : Value) :
    ((indexPlan s target.index).bind fun index => assignedPlan s op target index value).Scheduled
      s.owner (indexAsks target.index ++ currentAsks op target) := by
  -- the plan of the index knows whether there is an index, so the cases are split before it
  cases h : target.index with
  | none => exact assignedPlan_scheduled_none s op h value
  | some e =>
    have heq : ((indexPlan s (some e)).bind fun index => assignedPlan s op target index value)
        = (Expr.plan s e).bind fun v => (Plan.ofExcept (arrayIndex v)).bind fun i =>
            assignedPlan s op target (some i) value := by
      simp only [indexPlan, Plan.bind_eq, Plan.pure_eq, Plan.bind_assoc, Plan.done_bind]
    rw [heq]
    refine (Expr.plan_scheduled s e).bind fun v => ?_
    exact (Plan.scheduled_ofExcept (arrayIndex_own v)).bind fun i =>
      assignedPlan_scheduled_some s op h i value

/-- The plan of what an assignment does with the value it has computed. A variable is an effect of
the statement, and a property is one more request. -/
def writePlan (s : Scope) (target : Reference Node) (result : Value) : Plan Effect :=
  match target.sigil with
  | .var => .done (.write target.name result)
  | .prop => (Plan.request (.setProp s.owner target.name result)).bind fun _ => .done .next

/-- An assignment evaluates its source, makes the value that it leaves, and writes this. -/
theorem assignPlan_eq (op : AssignOp) (target : Reference Node) (source : Expr) :
    assignPlan s op target source
      = (source.plan s).bind fun value =>
          ((indexPlan s target.index).bind fun index =>
            assignedPlan s op target index value).bind (writePlan s target) := by
  simp only [assignPlan, Plan.bind_eq, Plan.bind_assoc]
  rfl

/-- Writing asks for one request, if the target is a property. It is the last one of the
statement. -/
theorem writePlan_scheduled (target : Reference Node) (result : Value) :
    (writePlan s target result).Scheduled s.owner (writeAsks target) := by
  obtain ⟨sigil, name, index⟩ := target
  cases sigil with
  | var => rfl
  | prop =>
    have hr : (Request.setProp s.owner name result).IsOf s.owner := rfl
    exact (Plan.scheduled_request hr).bind_quiet fun _ => rfl

/-- **The schedule of a statement.** Whatever is answered, the plan of a statement asks the requests
of its syntax in their order, on behalf of the owner of the script. For an assignment these are
those of the source, the index, the old value and the write. -/
theorem Statement.plan_scheduled (statement : Statement) :
    (statement.plan s).Scheduled s.owner statement.asks := by
  cases statement with
  | ifThen condition block => exact (condition.plan_scheduled s).bind_quiet fun _ => rfl
  | whileLoop condition block => exact (condition.plan_scheduled s).bind_quiet fun _ => rfl
  | assign op target source =>
    change (assignPlan s op target source).Scheduled _ _
    -- the source comes first, then the index and the old value, then the write
    rw [assignPlan_eq, Statement.asks, List.append_assoc, List.append_assoc]
    refine (source.plan_scheduled s).bind fun value => ?_
    rw [← List.append_assoc]
    exact (indexed_assignedPlan_scheduled s op target value).bind fun result =>
      writePlan_scheduled s target result
  | call c => exact (c.plan_scheduled s).bind_quiet fun _ => rfl

/-! ### Going on to the next statement -/

/-- The plan of going on asks only on behalf of the owner, and never fails with the end of a script:
that the script is over is a result of the plan. -/
theorem successorPlan_every (script : Script) (path : List Nat) :
    (successorPlan s script path).Every (·.IsOf s.owner) (· ≠ .endOfScript) := by
  fun_induction successorPlan s script path with
  | case1 => trivial
  | case2 => trivial
  | case3 => trivial
  | case4 last parents length hlt hne condition block hfind ih =>
    -- a `while` tests its condition again, and the walk goes on above it if that does not hold
    refine (condition.plan_scheduled s).every.bind fun v => ?_
    split
    · trivial
    · exact ih
  | case5 last parents length hlt hne hfind ih => exact ih

end Resolve

end VerbScript
