import VerbScript.Machine.Evaluation
import VerbScript.Proofs.PlanLaws

/-!
# The faults of evaluation

Two faults say nothing about what a script computes: the end of a script, which is no failure at
all, and the complaint about an answer that does not fit its request. All other faults are
*ordinary*. Of these a script runs into some by *itself*, and evaluation raises no other ones; the
rest can come from nowhere but the host.

* `Fault.Ordinary`, `Fault.Own` — the predicates. `FailsWith faults x` says of all that `x` can fail
  with that it is one of `faults`.
* `reduce_own`, `elementAt_own`, `callRequest_own`, `AssignOp.storeAt_own` — the operations that
  evaluation is made of.
* `Plan.Regular` — the same of plans, whatever is answered: `Statement.plan_regular` for the
  execution of a statement, `successorPlan_regular` for the search for the next one.
-/

namespace VerbScript

namespace Fault

/-- Neither the end of a script nor a complaint about an answer. These are the faults that a host
may answer with, and that a task may report. -/
def Ordinary : Fault → Prop
  | endOfScript => False
  | unexpectedReply _ => False
  | _ => True

/-- What a script runs into by itself, whatever its host answers: it computes what cannot be
computed, or calls too deep, or takes too long. -/
def Own : Fault → Prop
  | typeMismatch .. => True
  | nonIndexable _ => True
  | indexOutOfBounds .. => True
  | divisionByZero => True
  | malformedExpression _ => True
  | callDepthExceeded _ => True
  | tickLimitExceeded _ => True
  | _ => False

variable {fault : Fault}

/-- The script's own faults are among the ordinary ones. The converse fails: a property or a verb
may be missing, which only the host can say. -/
theorem Own.ordinary (h : fault.Own) : fault.Ordinary := by
  cases fault <;> trivial

theorem Ordinary.ne_end (h : fault.Ordinary) : fault ≠ .endOfScript := by
  rintro rfl
  exact h

/-- The test that tells the end of a script from a failure. -/
theorem isEnd_eq_false (h : fault ≠ .endOfScript) : fault.isEnd = false := by
  unfold isEnd
  split
  · exact absurd rfl h
  · rfl

theorem Ordinary.ne_unexpectedReply (h : fault.Ordinary) (detail : String) :
    fault ≠ .unexpectedReply detail := by
  rintro rfl
  exact h

end Fault

variable {α β : Type} {faults faults' : Fault → Prop}

/-- Whatever the computation fails with is one of `faults`. Nothing is said of computations that
succeed, so the predicate can be read off the branches of a definition one by one. -/
def FailsWith (faults : Fault → Prop) (x : Except Fault α) : Prop :=
  ∀ fault, x = .error fault → faults fault

namespace FailsWith

theorem ok (a : α) : FailsWith faults (.ok a) := fun _ => nofun

theorem error {fault : Fault} (h : faults fault) :
    FailsWith faults (.error fault : Except Fault α) := by
  rintro _ ⟨⟩
  exact h

/-- Two computations in a row fail with what the first fails with, or the second on a result of
it. -/
theorem bind {x : Except Fault α} {f : α → Except Fault β} (hx : FailsWith faults x)
    (hf : ∀ a, FailsWith faults (f a)) : FailsWith faults (x >>= f) := by
  cases x with
  | ok a => exact hf a
  | error fault => exact error (hx fault rfl)

theorem map {x : Except Fault α} (hx : FailsWith faults x) (f : α → β) :
    FailsWith faults (x.map f) := by
  cases x with
  | ok a => exact ok (f a)
  | error fault => exact error (hx fault rfl)

/-- What fails with few faults fails with more. -/
theorem mono {x : Except Fault α} (hx : FailsWith faults x)
    (hsub : ∀ fault, faults fault → faults' fault) : FailsWith faults' x :=
  fun fault h => hsub fault (hx fault h)

/-- In particular, no computation that fails with ordinary faults pretends that the script is
over. -/
theorem ne_end {x : Except Fault α} (hx : FailsWith Fault.Ordinary x) :
    x ≠ .error .endOfScript :=
  fun h => hx _ h

end FailsWith

open FailsWith

/-! ### Operations -/

/-- An operator fails on operands of kinds that it does not take, and a division fails on zero. Both
are faults of the script's own. -/
theorem Operator.apply_own (op : Operator) (left right : Value) :
    FailsWith Fault.Own (op.apply left right) := by
  unfold Operator.apply
  split
  · -- the operator takes operands of these kinds; otherwise they are a mismatch
    unfold Operator.applyAccepted
    split
    -- division is the only operation with a failure of its own
    case h_5 =>
      split
      · exact error trivial
      · exact ok _
    -- the kinds have been accepted, so no operator comes here; the case fails with a mismatch all
    -- the same
    case h_16 => exact error trivial
    all_goals exact ok _
  · exact error trivial

namespace Reduction

/-- What does not alternate between operands and operators is malformed. -/
theorem links_own (operands : List Operand) : FailsWith Fault.Own (links operands) := by
  fun_induction links operands with
  | case1 => exact ok _
  | case2 => exact error trivial
  | case3 => exact error trivial
  | case4 => exact error trivial
  | case5 op v rest ih => exact ih.map _

theorem chain_own (operands : List Operand) : FailsWith Fault.Own (chain operands) := by
  unfold chain
  split
  · exact ok _
  · exact error trivial
  · exact (links_own _).map _

theorem foldTier_own (tier : Tier) (left : Value) (links : List (Operator × Value)) :
    FailsWith Fault.Own (foldTier tier left links) := by
  fun_induction foldTier tier left links with
  | case1 => exact ok _
  -- an operator of the tier is applied to what has been combined so far
  | case2 left op right rest _ ih => exact (op.apply_own left right).bind ih
  -- one of another tier is kept, and what stands to its right is combined first
  | case3 left op right rest _ ih => exact ih.bind fun _ => ok _

theorem foldTiers_own (tiers : List Tier) (left : Value) (links : List (Operator × Value)) :
    FailsWith Fault.Own (foldTiers tiers left links) := by
  fun_induction foldTiers tiers left links with
  | case1 => exact ok _
  | case2 tier tiers left links ih =>
    exact (foldTier_own tier left links).bind fun x => ih x.1 x.2

/-- Without operators one value stands for itself and several are joined to a text. The only failure
is that of a list which begins with a number. -/
theorem plain_own (numberFirst : Bool) (values : List Value) :
    FailsWith Fault.Own (plain numberFirst values) := by
  unfold plain
  split
  · exact ok _
  · exact ok _
  · split
    · exact error trivial
    · exact ok _

end Reduction

/-- **Combining operands** fails with the script's own faults only: the chain may be malformed, and
each of its operators may fail. -/
theorem reduce_own (operands : List Operand) (numberFirst : Bool) :
    FailsWith Fault.Own (reduce operands numberFirst) := by
  unfold reduce
  -- an operator among the operands makes them a chain, which is combined tier by tier
  split
  · exact (Reduction.chain_own operands).bind fun _ => Reduction.foldTiers_own _ _ _
  · exact Reduction.plain_own _ _

theorem arrayIndex_own (index : Value) : FailsWith Fault.Own (arrayIndex index) := by
  unfold arrayIndex
  split
  · exact ok _
  · exact error trivial

/-- Reading an element fails if there is nothing to index, if the index is none, or beyond the
end. -/
theorem elementAt_own (whole index : Value) : FailsWith Fault.Own (elementAt whole index) := by
  unfold elementAt
  split
  · refine (arrayIndex_own index).bind fun i => ?_
    split
    · exact ok _
    · exact error trivial
  · exact error trivial

theorem callObject_own (params : List Node) (operands : List Operand)
    (range : Option (Nat × Nat)) : FailsWith Fault.Own (callObject params operands range) := by
  cases range with
  | none => exact ok _
  | some range => exact (reduce_own _ _).map _

/-- The request of a call is built from its two objects, each of which is an expression of its own.
It is asked only if both can be combined. -/
theorem callRequest_own (owner : ObjectId) (c : Verbcall Node) (operands : List Operand) :
    FailsWith Fault.Own (callRequest owner c operands) :=
  (callObject_own _ _ _).bind fun _ => (callObject_own _ _ _).bind fun _ => ok _

theorem AssignOp.combine_own (op : AssignOp) (old value : Value) :
    FailsWith Fault.Own (op.combine old value) := by
  unfold AssignOp.combine
  split
  · exact Operator.apply_own _ _ _
  · exact ok _

/-- Writing an element fails as reading it does, and a compound assignment may fail in its
operator. -/
theorem AssignOp.storeAt_own (op : AssignOp) (whole : Value) (i : Nat) (value : Value) :
    FailsWith Fault.Own (op.storeAt whole i value) := by
  unfold AssignOp.storeAt
  split
  · -- an array: the element is there, or a plain assignment appends one at the end
    split
    · exact (op.combine_own _ _).map _
    · split
      · exact ok _
      · exact error trivial
  · exact error trivial

/-! ### Plans -/

namespace Plan

/-- Whatever is answered, the plan fails with the script's own faults only. The requests it makes
may be any: that a host answers one with a fault is no failure of the plan. -/
def Regular (p : Plan α) : Prop := p.Every (fun _ => True) Fault.Own

theorem Regular.bind {p : Plan α} {f : α → Plan β} (hp : p.Regular) (hf : ∀ a, (f a).Regular) :
    (p.bind f).Regular := Every.bind hp hf

theorem regular_done (a : α) : (done a).Regular := trivial

theorem regular_request (r : Request) : (request r).Regular := ⟨trivial, fun _ => trivial⟩

/-- A computation becomes a plan that asks nothing and fails as the computation does. -/
theorem regular_ofExcept {x : Except Fault α} (h : FailsWith Fault.Own x) :
    (ofExcept x).Regular := by
  cases x with
  | ok a => trivial
  | error fault => exact h fault rfl

/-- What is known of a plan holds of each replay: an execution that fails does so with an own
fault. -/
theorem Regular.own {p : Plan α} (hp : p.Regular) {log : List Value} {fault : Fault}
    (h : p.replay log = .failed fault) : fault.Own := hp.of_failed h

theorem Regular.ordinary {p : Plan α} (hp : p.Regular) {log : List Value} {fault : Fault}
    (h : p.replay log = .failed fault) : fault.Ordinary := (hp.own h).ordinary

end Plan

open Plan

section Resolve

variable (s : Scope)

theorem callPlan_regular (owner : ObjectId) (c : Verbcall Node) (operands : List Operand) :
    (callPlan owner c operands).Regular :=
  (regular_ofExcept (callRequest_own owner c operands)).bind fun r => regular_request r

mutual

/-- **Resolving a node** fails with the script's own faults only. The four statements are proved
together, since a node may hold an expression, in brackets or as an index, whose nodes are resolved
in turn. -/
theorem Node.resolve_regular : ∀ n : Node, (n.resolve s).Regular
  | .str _ => trivial
  | .number _ => trivial
  | .bool _ => trivial
  | .null => trivial
  | .word _ => trivial
  | .object _ => trivial
  | .named _ => regular_request _
  | .array items => by
    unfold Node.resolve
    exact (resolveItems_regular items).bind fun _ => regular_done _
  | .list [] => by
    unfold Node.resolve
    exact (resolveOperands_regular []).bind fun _ => regular_ofExcept (reduce_own _ _)
  -- a single node in parentheses is resolved by itself and need not be an operand
  | .list [n] => by
    unfold Node.resolve
    exact n.resolve_regular
  | .list (n :: n' :: rest) => by
    unfold Node.resolve
    exact (resolveOperands_regular (n :: n' :: rest)).bind fun _ =>
      regular_ofExcept (reduce_own _ _)
  -- a variable is known to the machine, a property has to be asked for
  | .reference ⟨.var, name, index⟩ => by
    unfold Node.resolve
    exact resolveIndex_regular (s.lookup name) index
  | .reference ⟨.prop, name, index⟩ => by
    unfold Node.resolve
    exact (regular_request _).bind fun v => resolveIndex_regular v index
  | .call ⟨verb, direct, preposition, indirect, params⟩ => by
    unfold Node.resolve
    exact (resolveOperands_regular params).bind fun _ => callPlan_regular _ _ _

theorem resolveItems_regular : ∀ items : List Node, (resolveItems s items).Regular
  | [] => trivial
  | n :: rest => by
    unfold resolveItems
    exact n.resolve_regular.bind fun _ => (resolveItems_regular rest).bind fun _ => regular_done _

theorem resolveOperands_regular : ∀ e : List Node, (resolveOperands s e).Regular
  | [] => trivial
  | n :: rest => by
    unfold resolveOperands
    -- an operator is no request; any other node is resolved and becomes an operand
    split
    · exact (resolveOperands_regular rest).bind fun _ => regular_done _
    · exact n.resolve_regular.bind fun _ =>
        (resolveOperands_regular rest).bind fun _ => regular_done _

theorem resolveIndex_regular (whole : Value) :
    ∀ index : Option (List Node), (resolveIndex s whole index).Regular
  | none => trivial
  | some index => by
    unfold resolveIndex
    -- the index is an expression, and its value is looked up in the whole
    refine (resolveOperands_regular index).bind fun operands => ?_
    exact (regular_ofExcept (reduce_own _ _)).bind fun i =>
      regular_ofExcept (elementAt_own _ _)

end

/-- Evaluating an expression resolves its nodes from left to right and combines what they give. -/
theorem Expr.plan_regular (e : Expr) : (e.plan s).Regular :=
  (resolveOperands_regular s e).bind fun _ => regular_ofExcept (reduce_own _ _)

/-! ### Statements -/

theorem indexPlan_regular (index : Option Expr) : (indexPlan s index).Regular := by
  cases index with
  | none => trivial
  | some e =>
    refine (e.plan_regular s).bind fun v => ?_
    exact (regular_ofExcept (arrayIndex_own v)).bind fun _ => regular_done _

theorem currentPlan_regular (target : Reference Node) : (currentPlan s target).Regular := by
  unfold currentPlan
  split
  · exact regular_done _
  · exact regular_request _

/-- The value that an assignment writes is computed from the old one only if it has to be: for an
element always, for a whole variable or property if the assignment is a compound one. -/
theorem assignedPlan_regular (op : AssignOp) (target : Reference Node) (index : Option Nat)
    (value : Value) : (assignedPlan s op target index value).Regular := by
  unfold assignedPlan
  -- an element is stored in the old value
  split
  · exact (currentPlan_regular s target).bind fun _ => regular_ofExcept (op.storeAt_own _ _ _)
  · -- a plain assignment does not look at the old value
    split
    · exact regular_done _
    · exact (currentPlan_regular s target).bind fun _ => regular_ofExcept (op.combine_own _ _)

/-- **Executing a statement** fails with the script's own faults only. Everything that a statement
evaluates has its lemma above. -/
theorem Statement.plan_regular (statement : Statement) : (statement.plan s).Regular := by
  cases statement with
  | ifThen condition block => exact (condition.plan_regular s).bind fun _ => regular_done _
  | whileLoop condition block => exact (condition.plan_regular s).bind fun _ => regular_done _
  | assign op target source =>
    -- source, index, old value and write come in this order; each step may rely on nothing but that
    -- the earlier ones gave a result
    refine (source.plan_regular s).bind fun value => ?_
    refine (indexPlan_regular s target.index).bind fun index => ?_
    refine (assignedPlan_regular s op target index value).bind fun result => ?_
    cases target.sigil with
    | var => exact regular_done _
    | prop => exact (regular_request _).bind fun _ => regular_done _
  | call c =>
    refine ((resolveOperands_regular s c.params).bind fun operands => ?_).bind fun _ =>
      regular_done _
    exact callPlan_regular s.owner c operands

/-- **Going on to the next statement** fails with the script's own faults only: that the script is
over is a result of the search. -/
theorem successorPlan_regular (script : Script) (path : List Nat) :
    (successorPlan s script path).Regular := by
  fun_induction successorPlan s script path with
  | case1 => trivial
  | case2 => trivial
  | case3 => trivial
  | case4 last parents length hlt hne condition block hfind ih =>
    -- only a loop that is left has its condition looked at once more
    refine (condition.plan_regular s).bind fun v => ?_
    split
    · exact regular_done _
    · exact ih
  | case5 last parents length hlt hne hfind ih => exact ih

end Resolve

end VerbScript
