import Mathlib.Data.List.Forall2
import VerbScript.Proofs.OperatorTrees

/-!
# Reduction and precedence

`reduce` applies the operators of a line tier by tier. This is the same as evaluating the one tree
that the line has in the grammar of operators.

* `Computes` — the values of a chain are those of its trees.
* `Reduction.foldTier_cases`, `Reduction.foldTiers_cases` — reducing values computes what is joined,
  or fails with the fault of a node of it.
* `Reduction.foldInPlace`, `Reduction.foldAllInPlace` — the same reduction as a loop that edits a
  list of values and a list of operators in place. `Reduction.foldAllInPlace_eq` says that it never
  looks beyond their ends, and ends with one value and no operator.
* `reduce_precedence` — what the reduction of a line is.
-/

namespace VerbScript

/-! ### Reducing values -/

/-- The values of a chain are those of its trees. Both chains have the same operators in the same
order. -/
structure Computes (values : Value × List (Operator × Value)) (chain : TreeChain) : Prop where
  first : chain.1.eval = .ok values.1
  links : List.Forall₂ (fun value tree => value.1 = tree.1 ∧ tree.2.eval = .ok value.2)
    values.2 chain.2

/-- Some tree of the chain has a node that fails with this fault. It is the first tree, or one
behind an operator. -/
def TreeChain.Fails (fault : Fault) (chain : TreeChain) : Prop :=
  chain.1.Fails fault ∨ ∃ link ∈ chain.2, link.2.Fails fault

/-- A value is the tree of one leaf. -/
theorem computes_leaves (v : Value) (links : List (Operator × Value)) :
    Computes (v, links) (leaves v links) := by
  refine ⟨rfl, ?_⟩
  rw [leaves, List.forall₂_map_right_iff]
  exact List.forall₂_same.2 fun link _ => ⟨rfl, rfl⟩

/-- Whether the first tree stands alone or behind an operator, the same nodes fail. The operators
between the trees have not been applied yet, so they are no nodes. -/
theorem TreeChain.fails_cons {fault : Fault} {op : Operator} {right : OperatorTree}
    {rest : List (Operator × OperatorTree)} :
    (∃ link ∈ (op, right) :: rest, link.2.Fails fault) ↔ TreeChain.Fails fault (right, rest) := by
  constructor
  · rintro ⟨link, hlink, hfails⟩
    rcases List.mem_cons.1 hlink with rfl | hrest
    · exact .inl hfails
    · exact .inr ⟨link, hrest, hfails⟩
  · rintro (hright | ⟨link, hlink, hfails⟩)
    · exact ⟨_, List.mem_cons_self, hright⟩
    · exact ⟨link, List.mem_cons_of_mem _ hlink, hfails⟩

/-- A failing node stays a node of what is joined: joining puts trees below new nodes and takes none
of them apart. -/
theorem TreeChain.Fails.joinTier {fault : Fault} {tier : Tier} {left : OperatorTree}
    {links : List (Operator × OperatorTree)} (h : TreeChain.Fails fault (left, links)) :
    (joinTier tier left links).Fails fault := by
  fun_induction VerbScript.joinTier tier left links with
  | case1 left => exact h
  | case2 left op right rest _ ih =>
    -- the first tree and its right neighbour go below one node
    refine ih ?_
    rcases h with hleft | hlinks
    · exact .inl (.left hleft)
    · rcases TreeChain.fails_cons.1 hlinks with hright | hrest
      · exact .inl (.right hright)
      · exact .inr hrest
  | case3 left op right rest _ joined ih =>
    rcases h with hleft | hlinks
    · exact .inl hleft
    · exact .inr (TreeChain.fails_cons.2 (ih (TreeChain.fails_cons.1 hlinks)))

/-- So it does when several tiers are joined in turn. -/
theorem TreeChain.Fails.joinTiers {fault : Fault} {chain : TreeChain} (h : chain.Fails fault)
    (tiers : List Tier) : (joinTiers tiers chain).Fails fault := by
  induction tiers generalizing chain with
  | nil => exact h
  | cons tier tiers ih => exact ih h.joinTier

namespace Reduction

/-- **Reducing one tier** of values computes what is joined, or fails with the fault of a node of
it. -/
theorem foldTier_cases (tier : Tier) {v : Value} {values : List (Operator × Value)}
    {t : OperatorTree} {trees : List (Operator × OperatorTree)}
    (h : Computes (v, values) (t, trees)) :
    (∃ reduced, foldTier tier v values = .ok reduced ∧ Computes reduced (joinTier tier t trees)) ∨
    ∃ fault, foldTier tier v values = .error fault ∧ (joinTier tier t trees).Fails fault := by
  obtain ⟨hfirst, hlinks⟩ := h
  dsimp only at hfirst hlinks
  -- the induction is on the operators that are left; what has been combined so far is `v`, of the
  -- tree `t`
  induction hlinks generalizing v t with
  | nil => exact .inl ⟨(v, []), rfl, hfirst, .nil⟩
  | @cons value tree values trees hhead hrest ih =>
    obtain ⟨op, w⟩ := value
    obtain ⟨op', right⟩ := tree
    obtain ⟨rfl, hright⟩ : op = op' ∧ right.eval = .ok w := hhead
    rw [foldTier, joinTier]
    by_cases htier : op.tier = tier
    · -- the operator is applied to the value so far, which is that of the tree so far
      simp only [if_pos htier]
      cases happly : op.apply v w with
      | error fault =>
        right
        have hnode : (OperatorTree.apply op t right).Fails fault := .node hfirst hright happly
        have hchain : TreeChain.Fails fault (.apply op t right, trees) := .inl hnode
        exact ⟨fault, rfl, hchain.joinTier⟩
      | ok combined =>
        have hcombined : (OperatorTree.apply op t right).eval = .ok combined := by
          rw [OperatorTree.eval_apply hfirst hright, happly]
        exact ih hcombined
    · -- an operator of another tier is kept, and what follows it is reduced by itself
      simp only [if_neg htier]
      rcases ih hright with ⟨reduced, hreduced, hcomputes⟩ | ⟨fault, hfault, hfails⟩
      · left
        rw [hreduced]
        refine ⟨(v, (op, reduced.1) :: reduced.2), rfl, hfirst, ?_⟩
        exact .cons ⟨rfl, hcomputes.first⟩ hcomputes.links
      · right
        rw [hfault]
        exact ⟨fault, rfl, .inr (TreeChain.fails_cons.2 hfails)⟩

/-- **Reducing some tiers** of values computes the first tree of what is joined, or fails with the
fault of a node. -/
theorem foldTiers_cases (tiers : List Tier) {v : Value} {values : List (Operator × Value)}
    {chain : TreeChain} (h : Computes (v, values) chain) :
    (∃ reduced, foldTiers tiers v values = .ok reduced ∧
      (joinTiers tiers chain).1.eval = .ok reduced) ∨
    ∃ fault, foldTiers tiers v values = .error fault ∧ (joinTiers tiers chain).Fails fault := by
  induction tiers generalizing v values chain with
  | nil => exact .inl ⟨v, rfl, h.first⟩
  | cons tier tiers ih =>
    rw [foldTiers, joinTiers_cons]
    rcases foldTier_cases tier h with
      ⟨reduced, hreduced, hcomputes⟩ | ⟨fault, hfault, hfails⟩
    · rw [hreduced]
      exact ih hcomputes
    · right
      rw [hfault]
      exact ⟨fault, rfl, hfails.joinTiers tiers⟩

/-- The reduction of a chain whose tree is known. If the chain is joined to one tree, nothing is
left over whose failing could matter. -/
theorem foldTiers_tree {v : Value} {values : List (Operator × Value)} {t : OperatorTree}
    (hjoined : joinTiers Tier.all (leaves v values) = (t, [])) :
    (∃ reduced, foldTiers Tier.all v values = .ok reduced ∧ t.eval = .ok reduced) ∨
    ∃ fault, foldTiers Tier.all v values = .error fault ∧ t.Fails fault := by
  rcases foldTiers_cases Tier.all (computes_leaves v values) with
    ⟨reduced, hreduced, heval⟩ | ⟨fault, hfault, hfails⟩
  · rw [hjoined] at heval
    exact .inl ⟨reduced, hreduced, heval⟩
  · rw [hjoined] at hfails
    rcases hfails with hfails | ⟨link, hlink, -⟩
    · exact .inr ⟨fault, hfault, hfails⟩
    · exact absurd hlink List.not_mem_nil

/-! ### The same reduction in place -/

/-- One tier of the reduction as a loop over a list of values and a list of operators, from the
operator at place `i` on. An operator of the tier is taken out together with its right operand, and
its result is put in the place of its left operand; the next operator then stands at the same place.
The loop has no result if it looks for an operand beyond the end of the values. -/
def foldInPlace (tier : Tier) (values : List Value) (operators : List Operator) (i : Nat) :
    Option (Except Fault (List Value × List Operator)) :=
  if h : i < operators.length then
    if operators[i].tier = tier then
      match values[i]?, values[i + 1]? with
      | some left, some right =>
        match operators[i].apply left right with
        | .ok v => foldInPlace tier ((values.eraseIdx (i + 1)).set i v) (operators.eraseIdx i) i
        | .error fault => some (.error fault)
      | _, _ => none
    else foldInPlace tier values operators (i + 1)
  else some (.ok (values, operators))
termination_by operators.length - i
decreasing_by
  · rw [List.length_eraseIdx_of_lt h]
    omega
  · omega

/-- The loops of some tiers in turn, each on what the one before has left of both lists. It is
missing if a loop goes out of range. -/
def foldAllInPlace : List Tier → List Value → List Operator →
    Option (Except Fault (List Value × List Operator))
  | [], values, operators => some (.ok (values, operators))
  | tier :: tiers, values, operators =>
    match foldInPlace tier values operators 0 with
    | some (.ok (values, operators)) => foldAllInPlace tiers values operators
    | ended => ended

/-- Without the right operand, and with the result in the place of the left one. -/
theorem set_eraseIdx_operands (passed : List Value) (left right v : Value) (rest : List Value) :
    ((passed ++ left :: right :: rest).eraseIdx (passed.length + 1)).set passed.length v
      = passed ++ v :: rest := by
  rw [List.eraseIdx_append_of_length_le (Nat.le_succ _), List.set_append_right _ _ (Nat.le_refl _)]
  simp

theorem eraseIdx_operator (passed : List Operator) (op : Operator) (rest : List Operator) :
    (passed ++ op :: rest).eraseIdx passed.length = passed ++ rest := by
  rw [List.eraseIdx_append_of_length_le (Nat.le_refl _)]
  simp

/-- **The loop of a tier** leaves what it has passed, and reduces what follows. The induction is on
what follows; that the two lists are in step is what keeps every index in range. -/
theorem foldInPlace_eq (tier : Tier) (passed : List Value) (passedOperators : List Operator)
    (hpassed : passed.length = passedOperators.length) (left : Value)
    (links : List (Operator × Value)) :
    foldInPlace tier (passed ++ left :: links.map Prod.snd) (passedOperators ++ links.map Prod.fst)
        passedOperators.length
      = some ((foldTier tier left links).map fun reduced =>
          (passed ++ reduced.1 :: reduced.2.map Prod.snd,
            passedOperators ++ reduced.2.map Prod.fst)) := by
  induction links generalizing passed passedOperators left with
  | nil =>
    -- the place is behind the last operator
    have hend : ¬ passedOperators.length < (passedOperators ++ []).length := by simp
    rw [List.map_nil, List.map_nil, foldInPlace, dif_neg hend]
    rfl
  | cons link links ih =>
    obtain ⟨op, right⟩ := link
    have hi : passedOperators.length < (passedOperators ++ op :: links.map Prod.fst).length := by
      simp
    have hop : (passedOperators ++ op :: links.map Prod.fst)[passedOperators.length] = op := by
      simp
    rw [List.map_cons, List.map_cons, foldInPlace, dif_pos hi, hop, foldTier]
    by_cases htier : op.tier = tier
    · -- the operands of the operator stand at its own place and at the next one
      have hleft : (passed ++ left :: right :: links.map Prod.snd)[passedOperators.length]?
          = some left := by
        rw [← hpassed]
        simp
      have hright : (passed ++ left :: right :: links.map Prod.snd)[passedOperators.length + 1]?
          = some right := by
        rw [← hpassed]
        simp
      simp only [if_pos htier, hleft, hright]
      cases happly : op.apply left right with
      | error fault => rfl
      | ok v =>
        -- the next operator stands where this one stood
        dsimp only
        rw [eraseIdx_operator, ← hpassed, set_eraseIdx_operands, hpassed]
        exact ih passed passedOperators hpassed v
    · simp only [if_neg htier]
      -- the loop has passed one more value and one more operator
      have hmore : (passed ++ [left]).length = (passedOperators ++ [op]).length := by
        simp [hpassed]
      have hnext := ih (passed ++ [left]) (passedOperators ++ [op]) hmore right
      rw [List.append_assoc, List.append_assoc, List.length_append] at hnext
      refine hnext.trans ?_
      cases foldTier tier right links with
      | error fault => rfl
      | ok reduced =>
        show some (Except.ok _) = some (Except.ok _)
        simp

/-- **The loops of some tiers** that leave no operator end with one value. The trees are only needed
to know that no operator is left over. -/
theorem foldAllInPlace_eq {tiers : List Tier} {v : Value} {values : List (Operator × Value)}
    {chain : TreeChain} (h : Computes (v, values) chain) (hall : (joinTiers tiers chain).2 = []) :
    foldAllInPlace tiers (v :: values.map Prod.snd) (values.map Prod.fst)
      = some ((foldTiers tiers v values).map fun reduced => ([reduced], [])) := by
  induction tiers generalizing v values chain with
  | nil =>
    have hnone : chain.2 = [] := hall
    have hvalues : values = [] := by
      have hlinks := h.links
      rw [hnone] at hlinks
      exact List.forall₂_nil_right_iff.1 hlinks
    subst hvalues
    rfl
  | cons tier tiers ih =>
    have hloop := foldInPlace_eq tier [] [] rfl v values
    rw [List.nil_append, List.nil_append, List.length_nil] at hloop
    rw [foldAllInPlace, foldTiers, hloop]
    rcases foldTier_cases tier h with ⟨reduced, hreduced, hcomputes⟩ | ⟨fault, hfault, -⟩
    · rw [hreduced]
      exact ih hcomputes hall
    · rw [hfault]
      rfl

end Reduction

/-! ### Reduction and precedence -/

/-- The operator of an operand, if it is one. Reading a line collects values and operators into two
lists. -/
def Operand.operator? : Operand → Option Operator
  | .operator op => some op
  | .value _ => none

/-- The values of an alternating line, in order. -/
theorem filterMap_value?_links (links : List (Operator × Value)) :
    (links.flatMap linkOperands).filterMap Operand.value? = links.map Prod.snd := by
  induction links with
  | nil => rfl
  | cons link links ih =>
    show link.2 :: (links.flatMap linkOperands).filterMap Operand.value? = _
    rw [ih, List.map_cons]

/-- And its operators. -/
theorem filterMap_operator?_links (links : List (Operator × Value)) :
    (links.flatMap linkOperands).filterMap Operand.operator? = links.map Prod.fst := by
  induction links with
  | nil => rfl
  | cons link links ih =>
    show link.1 :: (links.flatMap linkOperands).filterMap Operand.operator? = _
    rw [ih, List.map_cons]

/-- What it means that a line is reduced by the precedence of its operators, which is said by the
tree of the line. The fault is left open where several nodes would fail. -/
structure ReducesTo (line : List Operand) (result : Except Fault Value) (t : OperatorTree) :
    Prop where
  /-- The result is a value exactly if the tree has this value. -/
  value : ∀ v, result = .ok v ↔ t.eval = .ok v
  /-- There is a fault exactly if some node of the tree fails. -/
  fails : (∃ fault, result = .error fault) ↔ ∃ fault, t.Fails fault
  /-- The fault is that of a node whose operands have values. -/
  fault : ∀ fault, result = .error fault → t.Fails fault
  /-- The loop in place has this result, with one value and no operator left. -/
  inPlace : Reduction.foldAllInPlace Tier.all (line.filterMap Operand.value?)
    (line.filterMap Operand.operator?) = some (result.map fun v => ([v], []))

/-- A line whose chain is joined to a tree is reduced by the precedence of this tree. The value, the
faults and the loop over the two vectors are each followed tier by tier elsewhere; here the three
are put together. -/
theorem reducesTo_of_joined {v : Value} {found : List (Operator × Value)} {t : OperatorTree}
    (hjoined : joinTiers Tier.all (leaves v found) = (t, [])) :
    ReducesTo (.value v :: found.flatMap linkOperands) (Reduction.foldTiers Tier.all v found)
      t := by
  -- the loop starts with the values and the operators of the line
  have hloop : Reduction.foldAllInPlace Tier.all
      ((Operand.value v :: found.flatMap linkOperands).filterMap Operand.value?)
      ((Operand.value v :: found.flatMap linkOperands).filterMap Operand.operator?)
        = some ((Reduction.foldTiers Tier.all v found).map fun v => ([v], [])) := by
    show Reduction.foldAllInPlace _ (v :: (found.flatMap linkOperands).filterMap Operand.value?)
      ((found.flatMap linkOperands).filterMap Operand.operator?) = _
    rw [filterMap_value?_links, filterMap_operator?_links]
    exact Reduction.foldAllInPlace_eq (computes_leaves v found) (by rw [hjoined])
  rcases Reduction.foldTiers_tree hjoined with ⟨reduced, hreduced, heval⟩ | ⟨fault, hfault, hfails⟩
  · -- the tree has a value, so no node of it fails
    have hsound : ∀ fault, ¬ t.Fails fault := fun fault h => h.eval_ne_ok reduced heval
    have hok : ∀ fault, Reduction.foldTiers Tier.all v found ≠ .error fault := by
      intro fault h
      rw [hreduced] at h
      cases h
    refine ⟨fun w => by rw [hreduced, heval], ?_, fun fault h => absurd h (hok fault), hloop⟩
    exact ⟨fun ⟨fault, h⟩ => absurd h (hok fault), fun ⟨fault, h⟩ => absurd h (hsound fault)⟩
  · -- some node fails, so the tree has no value
    have hne : ∀ w, Reduction.foldTiers Tier.all v found ≠ .ok w := by
      intro w h
      rw [hfault] at h
      cases h
    refine ⟨fun w => ?_, ⟨fun _ => ⟨fault, hfails⟩, fun _ => ⟨fault, hfault⟩⟩, fun fault' h => ?_,
      hloop⟩
    · exact ⟨fun h => absurd h (hne w), fun h => absurd h (hfails.eval_ne_ok w)⟩
    · rw [hfault] at h
      cases h
      exact hfails

/-- **Reduction is precedence.** Let a line of operands have an operator. If it alternates, it has
exactly one tree in the grammar of four left-associative levels, and reduction gives the value of
this tree, or the fault of one of its nodes if it has none. If it does not alternate, it is
malformed. -/
theorem reduce_precedence (line : List Operand) (numberFirst : Bool)
    (hop : line.any Operand.isOperator = true) :
    (Alternates line →
      (∃! t : OperatorTree, t.Level 4 ∧ t.operands = line) ∧
      ∀ t : OperatorTree, t.Level 4 → t.operands = line →
        ReducesTo line (reduce line numberFirst) t) ∧
    (¬ Alternates line → ∃ message,
      reduce line numberFirst = .error (.malformedExpression message)) := by
  have hreduce : reduce line numberFirst
      = (Reduction.chain line).bind fun found => Reduction.foldTiers Tier.all found.1 found.2 := by
    rw [reduce, if_pos hop]
    rfl
  constructor
  · intro halternates
    refine ⟨exists_unique_tree halternates, ?_⟩
    -- the grammar leaves no choice: a tree of the line is the one that joining builds
    intro t hlevel hoperands
    obtain ⟨v, found, hchain, rfl⟩ := Reduction.chain_of_alternates halternates
    rw [hreduce, hchain]
    exact reducesTo_of_joined (hlevel.eq_joined hoperands)
  · intro halternates
    have hne : line ≠ [] := by
      intro hnil
      rw [hnil] at hop
      cases hop
    obtain ⟨message, hmessage⟩ := Reduction.chain_of_not_alternates hne halternates
    refine ⟨message, ?_⟩
    rw [hreduce, hmessage]
    rfl

/-- A comparison in the middle of sums: `'a' + 'b' == 'ab' and 'x' < 'y' + 'z'`. -/
def comparedSums : OperatorTree :=
  .apply .and
    (.apply .eq (.apply .add (.value (.str "a")) (.value (.str "b"))) (.value (.str "ab")))
    (.apply .lt (.value (.str "x")) (.apply .add (.value (.str "y")) (.value (.str "z"))))

theorem comparedSums_level : comparedSums.Level 4 := by
  have hvalue : ∀ v : Value, (OperatorTree.value v).Level 1 := fun v => .tighter (.value v)
  have hsum : ∀ a b : Value, (OperatorTree.apply .add (.value a) (.value b)).Level 2 := fun a b =>
    @OperatorTree.Level.apply .add _ _ (.tighter (hvalue a)) (hvalue b)
  refine @OperatorTree.Level.apply .and _ _ (.tighter ?_) ?_
  · exact @OperatorTree.Level.apply .eq _ _ (.tighter (hsum _ _)) (.tighter (hvalue _))
  · exact @OperatorTree.Level.apply .lt _ _ (.tighter (.tighter (hvalue _))) (hsum _ _)

/-- The line of the tree above is reduced to the value of the tree. -/
theorem comparedSums_reduced :
    comparedSums.operands.any Operand.isOperator = true ∧ Alternates comparedSums.operands ∧
    reduce comparedSums.operands false = .ok (.bool true) ∧
    ∃! t : OperatorTree, t.Level 4 ∧ t.operands = comparedSums.operands := by
  have hop : comparedSums.operands.any Operand.isOperator = true := rfl
  have halternates : Alternates comparedSums.operands :=
    .more _ _ (.more _ _ (.more _ _ (.more _ _ (.more _ _ (.last _)))))
  have hprecedence := (reduce_precedence comparedSums.operands false hop).1 halternates
  have heval : comparedSums.eval = .ok (.bool true) := by rfl
  have hreduces := hprecedence.2 comparedSums comparedSums_level rfl
  exact ⟨hop, halternates, (hreduces.value _).2 heval, hprecedence.1⟩

/-- An operator at the end of a line has no right operand. -/
example : reduce [.value .null, .operator .add] false
    = .error (.malformedExpression "expression ends with an operator") := rfl

end VerbScript
