import VerbScript.Proofs.LocalWrites

/-!
# Assignments to elements of arrays

`$a[i] op e` evaluates `e`, then `i`, and then changes one element of the array that `$a` holds. If
neither expression needs the host, the assignment is through in one step: it leaves the array with
one element changed or added, or it fails and nothing is written.

* `Expr.ComesTo s e x` — seen from `s`, the expression comes to `x` without asking the host.
* `AssignOp.Puts op items k value item` — `op` with `value` leaves `item` at place `k` of the array:
  a plain assignment at any place and one past the end, a compound one where there is an element
  that the operator takes.
* `Updates items k item items'` — the array with `item` at place `k`.
* `ElementFault` — why an assignment to an element fails, in the order in which this is found out.
* `elementResult_cases` — one of both happens, and `Frame.At.assigns_element` is what a step of the
  frame makes of it.
-/

namespace VerbScript

variable {s : Scope} {op : AssignOp} {items : List Value} {k : Nat} {value item : Value}

/-! ### The element and the array -/

/-- What an assignment of `value` leaves at place `k` of an array. It says when there is such a
thing, so it is missing where the assignment fails. -/
inductive AssignOp.Puts (op : AssignOp) (items : List Value) (k : Nat) (value : Value) :
    Value → Prop where
  /-- The value itself, also one past the end. -/
  | assigned (plain : op = .set) (within : k ≤ items.length) : Puts op items k value value
  /-- What the operator makes of the old element and the value. -/
  | combined {operator : Operator} {old item : Value} (compound : op.operator? = some operator)
      (here : items[k]? = some old) (applied : operator.apply old value = .ok item) :
      Puts op items k value item

/-- What is assigned is put within the array, or right behind it. -/
theorem AssignOp.Puts.within (h : op.Puts items k value item) : k ≤ items.length := by
  cases h with
  | assigned plain within => exact within
  | combined compound here applied => exact Nat.le_of_lt (List.getElem?_eq_some_iff.1 here).1

/-- The array with an item in place of its element `k`, or behind its last one if `k` is its
length. -/
def replaced (items : List Value) (k : Nat) (item : Value) : List Value :=
  items.take k ++ item :: items.drop (k + 1)

/-- The second array is the first one with `item` at place `k`, and has nothing else that the first
one has not. -/
structure Updates (items : List Value) (k : Nat) (item : Value) (after : List Value) : Prop where
  length : after.length = max items.length (k + 1)
  here : after[k]? = some item
  elsewhere : ∀ j, j ≠ k → after[j]? = items[j]?

/-- This array is the update, for a place within the array or right behind it. It has the items
before the place, the new one, and those behind it, where there are any. -/
theorem updates_replaced (item : Value) (h : k ≤ items.length) :
    Updates items k item (replaced items k item) := by
  have htake : (items.take k).length = k := List.length_take_of_le h
  refine ⟨?_, ?_, fun j hj => ?_⟩
  · -- one item more if the place was behind the array, and as many as before otherwise
    rw [replaced, List.length_append, htake, List.length_cons, List.length_drop]
    omega
  · rw [replaced, List.getElem?_append_right (by omega), htake, Nat.sub_self]
    rfl
  · rw [replaced]
    rcases Nat.lt_or_gt_of_ne hj with hlt | hgt
    · rw [List.getElem?_append_left (by omega), List.getElem?_take_of_lt hlt]
    · -- behind the item, the places are those of the old array
      obtain ⟨d, rfl⟩ : ∃ d, j = k + 1 + d := ⟨j - (k + 1), by omega⟩
      rw [List.getElem?_append_right (by omega), htake, show k + 1 + d - k = d + 1 by omega,
        List.getElem?_cons_succ, List.getElem?_drop]

/-- Where something can be put, storing succeeds and leaves the array with it. An element is
replaced or a value is appended; both give the array that is cut at the place and joined again. -/
theorem AssignOp.storeAt_of_puts (h : op.Puts items k value item) :
    op.storeAt (.array items) k value = .ok (.array (replaced items k item)) := by
  -- at an element, setting is the same as cutting and joining
  have hset : ∀ (old item : Value), items[k]? = some old →
      items.set k item = replaced items k item := by
    intro old item hold
    rw [List.set_eq_take_append_cons_drop, if_pos (List.getElem?_eq_some_iff.1 hold).1, replaced]
  unfold storeAt
  cases h with
  | assigned plain within =>
    -- an element is replaced, or the value is appended
    cases hold : items[k]? with
    | some old =>
      have hcombine : op.combine old value = .ok value := by
        rw [plain]
        rfl
      simp only [hold, hcombine, Except.map, hset old value hold]
    | none =>
      have hend : k = items.length := Nat.le_antisymm within (List.getElem?_eq_none_iff.1 hold)
      simp only [hold]
      rw [if_pos ⟨plain, hend⟩, replaced, hend, List.take_length, List.drop_eq_nil_of_le (by omega)]
  | @combined operator old item compound here applied =>
    -- a compound assignment asks its operator
    have hcombine : op.combine old value = .ok item := by
      unfold combine
      rw [compound]
      exact applied
    simp only [here, hcombine, Except.map, hset old item here]

/-! ### Why it fails -/

/-- An operator fails on the kinds of its operands, or because it would divide by zero. The first of
these names the operator and both kinds. -/
theorem Operator.apply_error {operator : Operator} {left right : Value} {fault : Fault}
    (h : operator.apply left right = .error fault) :
    fault = .divisionByZero ∨ fault = .typeMismatch operator.symbol left.kind right.kind := by
  unfold Operator.apply at h
  split at h
  · unfold Operator.applyAccepted at h
    split at h
    -- dividing, which is refused for zero
    case h_5 =>
      split at h
      · exact .inl (Except.error.inj h).symm
      · cases h
    case h_16 => exact .inr (Except.error.inj h).symm
    all_goals cases h
  · exact .inr (Except.error.inj h).symm

/-- **Why an assignment to an element fails**, if the source comes to the first result, the index to
the second, and the variable holds `whole`. The constructors are in the order in which the reasons
are looked for, and each of them excludes those before it. -/
inductive ElementFault (op : AssignOp) (whole : Value) :
    Except Fault Value → Except Fault Value → Fault → Prop where
  | source {y : Except Fault Value} (fault : Fault) : ElementFault op whole (.error fault) y fault
  | index {value : Value} (fault : Fault) : ElementFault op whole (.ok value) (.error fault) fault
  /-- The index is no whole number from zero on. -/
  | notIndex {value i : Value} (noIndex : i.asIndex? = none) :
      ElementFault op whole (.ok value) (.ok i) (.typeMismatch "[]" .array i.kind)
  | notArray {value i : Value} {k : Nat} (place : i.asIndex? = some k)
      (noArray : ∀ items, whole ≠ .array items) :
      ElementFault op whole (.ok value) (.ok i) (.nonIndexable whole.kind)
  /-- A plain assignment leaves no gap behind the array, and a compound one needs an element. -/
  | outside {value i : Value} {k : Nat} {items : List Value} (place : i.asIndex? = some k)
      (array : whole = .array items)
      (beyond : op = .set ∧ items.length < k ∨ op ≠ .set ∧ items.length ≤ k) :
      ElementFault op whole (.ok value) (.ok i) (.indexOutOfBounds k items.length)
  | mismatch {value i old : Value} {k : Nat} {items : List Value} {operator : Operator}
      (place : i.asIndex? = some k) (array : whole = .array items)
      (compound : op.operator? = some operator) (here : items[k]? = some old)
      (refused : operator.apply old value
        = .error (.typeMismatch operator.symbol old.kind value.kind)) :
      ElementFault op whole (.ok value) (.ok i)
        (.typeMismatch operator.symbol old.kind value.kind)
  | zero {value i old : Value} {k : Nat} {items : List Value} {operator : Operator}
      (place : i.asIndex? = some k) (array : whole = .array items)
      (compound : op.operator? = some operator) (here : items[k]? = some old)
      (refused : operator.apply old value = .error .divisionByZero) :
      ElementFault op whole (.ok value) (.ok i) .divisionByZero

/-- Every assignment but the plain one has an operator. -/
theorem AssignOp.operator?_eq_none {op : AssignOp} : op.operator? = none ↔ op = .set := by
  cases op <;> simp [operator?]

/-- An assignment at a place puts an element there, or fails. The cases are those of storing: what
has the place, if there is an element at it, and if the assignment has an operator. -/
theorem AssignOp.storeAt_cases (op : AssignOp) (whole : Value) {i : Value} {k : Nat} (value : Value)
    (hk : i.asIndex? = some k) :
    (∃ items item, whole = .array items ∧ op.Puts items k value item) ∨
    ∃ fault, ElementFault op whole (.ok value) (.ok i) fault ∧
      op.storeAt whole k value = .error fault := by
  cases whole with
  | array items =>
    unfold storeAt
    cases hold : items[k]? with
    | none =>
      -- past the end only a plain assignment succeeds, and only at the first place
      have hle : items.length ≤ k := List.getElem?_eq_none_iff.1 hold
      by_cases hend : op = .set ∧ k = items.length
      · exact .inl ⟨items, value, rfl, .assigned hend.1 (Nat.le_of_eq hend.2)⟩
      · refine .inr ⟨_, .outside hk rfl ?_, ?_⟩
        · by_cases hop : op = .set
          · exact .inl ⟨hop, Nat.lt_of_le_of_ne hle fun heq => hend ⟨hop, heq.symm⟩⟩
          · exact .inr ⟨hop, hle⟩
        · simp only [hold]
          rw [if_neg hend]
    | some old =>
      have hlt : k < items.length := (List.getElem?_eq_some_iff.1 hold).1
      simp only [hold]
      -- at an element a plain assignment succeeds, and a compound one if its operator does
      cases hop : op.operator? with
      | none => exact .inl ⟨items, value, rfl, .assigned (operator?_eq_none.1 hop)
        (Nat.le_of_lt hlt)⟩
      | some operator =>
        have hcombine : op.combine old value = operator.apply old value := by
          unfold combine
          rw [hop]
        rw [hcombine]
        cases happly : operator.apply old value with
        | ok item => exact .inl ⟨items, item, rfl, .combined hop hold happly⟩
        | error fault =>
          rcases Operator.apply_error happly with rfl | rfl
          · exact .inr ⟨_, .zero hk rfl hop hold happly, rfl⟩
          · exact .inr ⟨_, .mismatch hk rfl hop hold happly, rfl⟩
  -- nothing else has elements
  | null => exact .inr ⟨_, .notArray hk nofun, rfl⟩
  | bool b => exact .inr ⟨_, .notArray hk nofun, rfl⟩
  | number n => exact .inr ⟨_, .notArray hk nofun, rfl⟩
  | str text => exact .inr ⟨_, .notArray hk nofun, rfl⟩
  | object id => exact .inr ⟨_, .notArray hk nofun, rfl⟩

/-! ### The whole assignment -/

/-- What is assigned to a variable that holds `whole`, if the source comes to `x` and the index to
`y`. -/
def elementResult (op : AssignOp) (whole : Value) (x y : Except Fault Value) :
    Except Fault Value :=
  x.bind fun value => y.bind fun i => (arrayIndex i).bind fun k => op.storeAt whole k value

/-- **The conditions of an assignment to an element**: both expressions have values, the variable
holds an array, the index is a place, and something can be put there. What is put is `item`. -/
structure PutsElement (op : AssignOp) (whole : Value) (x y : Except Fault Value)
    (items : List Value) (k : Nat) (item : Value) : Prop where
  array : whole = .array items
  place : ∃ i, y = .ok i ∧ i.asIndex? = some k
  puts : ∃ value, x = .ok value ∧ op.Puts items k value item

variable {whole : Value} {x y : Except Fault Value}

/-- An index that is a place is accepted. -/
theorem arrayIndex_ok {i : Value} (hk : i.asIndex? = some k) : arrayIndex i = .ok k := by
  unfold arrayIndex
  rw [hk]

/-- If both expressions have values and the index is a place, the rest is up to storing. -/
theorem elementResult_ok {value i : Value} (hk : i.asIndex? = some k) :
    elementResult op whole (.ok value) (.ok i) = op.storeAt whole k value := by
  change (arrayIndex i).bind _ = _
  rw [arrayIndex_ok hk]
  rfl

/-- Under the conditions the variable is assigned the updated array. -/
theorem PutsElement.elementResult_eq (h : PutsElement op whole x y items k item) :
    elementResult op whole x y = .ok (.array (replaced items k item)) := by
  obtain ⟨rfl, ⟨i, rfl, hk⟩, value, rfl, hputs⟩ := h
  rw [elementResult_ok hk]
  exact AssignOp.storeAt_of_puts hputs

/-- **An assignment to an element has its effect, or fails for one of the reasons.** The cases are
in the order of the evaluation: the source, the index, and then what it is an index of. -/
theorem elementResult_cases (op : AssignOp) (whole : Value) (x y : Except Fault Value) :
    (∃ items k item, PutsElement op whole x y items k item) ∨
    ∃ fault, ElementFault op whole x y fault ∧ elementResult op whole x y = .error fault := by
  cases x with
  | error fault => exact .inr ⟨fault, .source fault, rfl⟩
  | ok value =>
    cases y with
    | error fault => exact .inr ⟨fault, .index fault, rfl⟩
    | ok i =>
      cases hk : i.asIndex? with
      | none =>
        refine .inr ⟨_, .notIndex hk, ?_⟩
        change (arrayIndex i).bind _ = _
        unfold arrayIndex
        rw [hk]
        rfl
      | some k =>
        rcases op.storeAt_cases whole value hk with
          ⟨items, item, rfl, hputs⟩ | ⟨fault, hfault, hstore⟩
        · exact .inl ⟨items, k, item, rfl, ⟨i, rfl, hk⟩, value, rfl, hputs⟩
        · exact .inr ⟨fault, hfault, (elementResult_ok hk).trans hstore⟩

/-! ### Expressions that need no host -/

/-- Seen from `s`, the expression comes to `x`, and the host is not asked. What it comes to may be a
fault. -/
def Expr.ComesTo (s : Scope) (e : Expr) (x : Except Fault Value) : Prop :=
  e.plan s = Plan.ofExcept x

/-- Evaluations that need no host go on from one to the next like results. -/
theorem Plan.ofExcept_bind {α β : Type} (x : Except Fault α) (f : α → Except Fault β) :
    ((ofExcept x).bind fun a => ofExcept (f a)) = ofExcept (x.bind f) := by
  cases x <;> rfl

/-- If the index needs no host where it is evaluated, the assignment needs none. It is evaluated
only behind a source that has come to a value, so nothing is asked of it if the source fails. -/
theorem resultPlan_element {name : String} {index source : Expr} (hsource : source.ComesTo s x)
    (hindex : ∀ value, x = .ok value → index.ComesTo s y) :
    resultPlan s op ⟨.var, name, some index⟩ source
      = .ofExcept (elementResult op (s.lookup name) x y) := by
  unfold resultPlan
  rw [show source.plan s = _ from hsource]
  -- the source is evaluated before the index
  cases x with
  | error fault =>
    -- the index is not evaluated
    rfl
  | ok value =>
    change ((indexPlan s (some index)).bind fun i =>
      assignedPlan s op ⟨.var, name, some index⟩ i value) = _
    simp only [indexPlan, Plan.bind_eq, Plan.pure_eq, Plan.bind_assoc, Plan.done_bind]
    rw [show index.plan s = _ from hindex value rfl]
    simp only [assignedPlan, currentPlan, Plan.bind_eq, Plan.done_bind, Plan.ofExcept_bind]
    rfl

/-- A reference with an index evaluates the index and takes the element. -/
theorem resolveIndex_some (whole : Value) (index : Expr) :
    resolveIndex s whole (some index)
      = (index.plan s).bind fun i => .ofExcept (elementAt whole i) := by
  simp only [resolveIndex, Expr.plan, Plan.bind_eq, Plan.bind_assoc]

/-- **Reading an element** of an array in a variable. The index may be another expression than the
one that was written with. -/
theorem Node.resolve_element {name : String} {index : Expr} {i : Value}
    (hwhole : s.lookup name = .array items) (hindex : index.ComesTo s (.ok i))
    (hk : i.asIndex? = some k) (hitem : items[k]? = some item) :
    Node.resolve s (.reference ⟨.var, name, some index⟩) = .done item := by
  have helement : elementAt (.array items) i = .ok item := by
    unfold elementAt
    simp only [arrayIndex_ok hk, bind, Except.bind, hitem]
  rw [Node.resolve, hwhole, resolveIndex_some, show index.plan s = _ from hindex]
  exact congrArg Plan.ofExcept helement

/-! ### Steps -/

/-- A machine that gives up because its executing frame does keeps the variables of its outermost
frame. -/
theorem Machine.unwind_abort_locals (m : Machine) (fault : Fault) :
    let given := ({ m with current := (m.current.abort fault).1 } : Machine).unwind
    given.callers = [] ∧ given.current.locals = m.root.locals := by
  rcases ({ m with current := (m.current.abort fault).1 } : Machine).unwind_cases with
    ⟨hnil, heq⟩ | ⟨upper, root, hcallers, heq⟩
  · -- the frame that gives up is the outermost one, or this is below it
    have hroot : m.root = m.current := root_of_callers hnil
    rw [heq, hroot]
    exact ⟨hnil, rfl⟩
  · have hroot : m.root = root := root_of_concat hcallers
    rw [heq, hroot]
    exact ⟨rfl, rfl⟩

namespace Frame

variable {f : Frame} {name : String} {index source : Expr}

/-- The frame assigns what the assignment comes to, and it assigns nothing if this is a fault. So
what the frame does is a question about the element alone, with no plan in it. -/
theorem At.assigns_iff_result {assigned : Value}
    (hat : f.At (.assign op ⟨.var, name, some index⟩ source)) (hsource : source.ComesTo f.scope x)
    (hindex : ∀ value, x = .ok value → index.ComesTo f.scope y) :
    f.Assigns name assigned ↔ elementResult op (f.scope.lookup name) x y = .ok assigned := by
  constructor
  · rintro ⟨op', index', source', hat', hresult⟩
    -- there is only one statement at the path
    have hsame := hat'.found.symm.trans hat.found
    cases hsame
    -- what the statement has come to is what both expressions lead to
    rw [resultPlan_element hsource hindex] at hresult
    cases hcomes : elementResult op (f.scope.lookup name) x y with
    | ok v =>
      rw [hcomes] at hresult
      exact congrArg _ (Outcome.done.inj hresult)
    | error fault =>
      rw [hcomes] at hresult
      cases hresult
  · intro h
    refine ⟨op, index, source, hat, ?_⟩
    rw [resultPlan_element hsource hindex, h]
    rfl

/-- A frame whose assignment fails gives up, and is as before. The fault is no end of the script, as
none that an evaluation fails with is. -/
theorem At.step_of_elementFault {fault : Fault}
    (hat : f.At (.assign op ⟨.var, name, some index⟩ source)) (hsource : source.ComesTo f.scope x)
    (hindex : ∀ value, x = .ok value → index.ComesTo f.scope y)
    (hfault : elementResult op (f.scope.lookup name) x y = .error fault) :
    f.step = f.abort fault ∧ fault ≠ .endOfScript := by
  have hplan : (Statement.assign op ⟨.var, name, some index⟩ source).plan f.scope
      = .fail fault := by
    change assignPlan f.scope op ⟨.var, name, some index⟩ source = _
    rw [assignPlan_eq_resultPlan, resultPlan_element hsource hindex, hfault]
    rfl
  have hfailed : ((Statement.assign op ⟨.var, name, some index⟩ source).plan f.scope).replay
      f.replies = .failed fault := by
    rw [hplan]
    rfl
  refine ⟨?_, ((Statement.plan_regular f.scope _).ordinary hfailed).ne_end⟩
  rw [step_execute hat.toReady hat.phase hat.found, hplan]
  rfl

/-- **An assignment to an element is an update of the array.** A frame executes `$a[i] op e`, and
its evaluation needs no host: the source comes to `x`, and unless this is a fault the index comes to
`y`. Then the variable is assigned if and only if it holds an array, both results are values, the
index is a place of the array or, for a plain assignment, the one behind it, and the operator of a
compound assignment takes the old element and the value.

In this case the variable holds the array with the new element at the place, no other variable
changes, and whatever index comes to the place afterwards reads the new element. In all other cases
the step fails for a reason that `ElementFault` lists, and neither the frame nor the outermost frame
of a machine that gives up for it has any variable changed. -/
theorem At.assigns_element (hat : f.At (.assign op ⟨.var, name, some index⟩ source))
    (hsource : source.ComesTo f.scope x)
    (hindex : ∀ value, x = .ok value → index.ComesTo f.scope y) :
    ((∃ whole, f.Assigns name whole) ↔
      ∃ items k item, PutsElement op (f.scope.lookup name) x y items k item) ∧
    (∀ items k item, PutsElement op (f.scope.lookup name) x y items k item →
      ∃ after, Updates items k item after ∧ f.Assigns name (.array after) ∧
        f.step.1.scope.lookup name = .array after ∧
        (∀ other, other ≠ name → f.step.1.locals.get? other = f.locals.get? other) ∧
        ∀ j i, Expr.ComesTo f.step.1.scope j (.ok i) → i.asIndex? = some k →
          Node.resolve f.step.1.scope (.reference ⟨.var, name, some j⟩) = .done item) ∧
    ((∀ items k item, ¬PutsElement op (f.scope.lookup name) x y items k item) →
      ∃ fault, ElementFault op (f.scope.lookup name) x y fault ∧
        f.step.2 = .error fault ∧ f.step.1.locals = f.locals ∧
        ∀ m : Machine, m.current = f → m.step.2 = .error fault ∧ m.step.1.callers = [] ∧
          m.step.1.current.locals = m.root.locals) := by
  have hputs : ∀ {items k item}, PutsElement op (f.scope.lookup name) x y items k item →
      f.Assigns name (.array (replaced items k item)) := fun h =>
    (hat.assigns_iff_result hsource hindex).2 h.elementResult_eq
  refine ⟨⟨?_, ?_⟩, fun items k item h => ?_, fun hnone => ?_⟩
  · -- what is assigned is not a fault, so the conditions hold
    rintro ⟨whole, hassigns⟩
    rw [hat.assigns_iff_result hsource hindex] at hassigns
    rcases elementResult_cases op (f.scope.lookup name) x y with h | ⟨fault, -, hfault⟩
    · exact h
    · cases hassigns.symm.trans hfault
  · rintro ⟨items, k, item, h⟩
    exact ⟨_, hputs h⟩
  · -- under the conditions, the updated array is what the variable holds after the step
    have hwithin : k ≤ items.length := by
      obtain ⟨value, -, hvalue⟩ := h.puts
      exact hvalue.within
    have hupdates := updates_replaced item hwithin
    have hlookup : f.step.1.scope.lookup name = .array (replaced items k item) := by
      change (f.step.1.locals.get? name).getD .null = _
      rw [(hputs h).locals, Table.get?_insert_self]
      rfl
    refine ⟨_, hupdates, hputs h, hlookup, fun other hother => ?_, fun j i hj hi => ?_⟩
    · rw [(hputs h).locals, Table.get?_insert_of_ne _ _ hother]
    · exact Node.resolve_element hlookup hj hi hupdates.here
  · -- and without them, the frame gives up with the fault
    obtain ⟨fault, hfault, hresult⟩ :=
      (elementResult_cases op (f.scope.lookup name) x y).resolve_left
        fun ⟨items, k, item, h⟩ => hnone items k item h
    obtain ⟨hstep, hend⟩ := hat.step_of_elementFault hsource hindex hresult
    refine ⟨fault, hfault, by rw [hstep]; rfl, by rw [hstep]; rfl, ?_⟩
    rintro m rfl
    have hm := Machine.step_of_fault hstep hend
    refine ⟨congrArg Prod.snd hm, ?_⟩
    rw [hm]
    exact Machine.unwind_abort_locals m fault

/-- A frame that assigns to the place behind a shelf with two things. -/
def shelving (op : AssignOp) : Frame :=
  { owner := ⟨1⟩
    script := [.assign op ⟨.var, "shelf", some [.number (.ofNat 2)]⟩ [.str "vase"]]
    locals := .ofList [("shelf", .array [.str "lamp", .str "book"])] }

theorem at_shelving (op : AssignOp) : (shelving op).At
    (.assign op ⟨.var, "shelf", some [.number (.ofNat 2)]⟩ [.str "vase"]) :=
  ⟨⟨rfl, rfl, rfl⟩, rfl, rfl⟩

/-- A third thing is put on the shelf, but nothing can be appended to what is not there. The first
is a plain assignment right behind the last element, the second a compound one at the same place. -/
theorem shelving_assigns :
    let s := (shelving .set).scope
    let source : Expr := [.str "vase"]
    let index : Expr := [.number (.ofNat 2)]
    source.ComesTo s (.ok (.str "vase")) ∧ index.ComesTo s (.ok (.number (.ofNat 2))) ∧
      (∃ whole, (shelving .set).Assigns "shelf" whole) ∧
      ¬(∃ whole, (shelving .add).Assigns "shelf" whole) ∧
      (shelving .add).step.1.locals = (shelving .add).locals := by
  have hsource : ∀ op, Expr.ComesTo (shelving op).scope [.str "vase"] (.ok (.str "vase")) :=
    fun op => rfl
  have hindex : ∀ op, Expr.ComesTo (shelving op).scope [.number (.ofNat 2)]
      (.ok (.number (.ofNat 2))) := fun op => rfl
  have hplace : (Value.number (.ofNat 2)).asIndex? = some 2 := by decide
  obtain ⟨happends, -⟩ := (at_shelving .set).assigns_element (hsource .set) fun _ _ => hindex .set
  obtain ⟨hadds, -, hfails⟩ :=
    (at_shelving .add).assigns_element (hsource .add) fun _ _ => hindex .add
  have hnone : ∀ items k item, ¬PutsElement .add ((shelving .add).scope.lookup "shelf")
      (.ok (.str "vase")) (.ok (.number (.ofNat 2))) items k item := by
    intro items k item h
    obtain ⟨_, hi, hk⟩ := h.place
    cases hi
    cases hplace.symm.trans hk
    obtain ⟨_, -, hputs⟩ := h.puts
    cases h.array
    -- a compound assignment needs a third element
    cases hputs with
    | assigned plain within => cases plain
    | combined compound here applied => cases here
  obtain ⟨fault, -, -, hlocals, -⟩ := hfails hnone
  refine ⟨hsource .set, hindex .set, happends.2 ⟨_, 2, .str "vase", rfl, ⟨_, rfl, hplace⟩, _, rfl,
    .assigned rfl (Nat.le_refl 2)⟩, fun h => ?_, hlocals⟩
  obtain ⟨items, k, item, h⟩ := hadds.1 h
  exact hnone items k item h

end Frame

end VerbScript
