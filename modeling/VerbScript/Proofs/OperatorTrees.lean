import Mathlib.Data.List.Basic
import Mathlib.Logic.ExistsUnique
import VerbScript.Machine.Reduction

/-!
# Operator trees

A line of values with operators between them has a tree in the grammar of four left-associative
levels, in which `*` and `/` bind tighter than `+` and `-`, these tighter than the comparisons, and
these tighter than `and` and `or`. The tree is found the way values are reduced: tier by tier, each
from left to right, but joining trees instead of applying operators.

* `OperatorTree.Level` — the grammar; `OperatorTree.operands` — the line of a tree;
  `OperatorTree.eval` and `OperatorTree.Fails` — its value, and the faults of its nodes.
* `Alternates` — the lines that have a tree, and `Reduction.chain_of_alternates`,
  `Reduction.chain_of_not_alternates` — how they are told from the others.
* `joinTier`, `joinTiers` — joining the operators of a tier, and of some tiers in turn.
* `joinTiers_all` — joining all tiers gives a tree of the grammar for the line.
* `OperatorTree.Level.joined` — every tree of the grammar is joined from its line; so a line has one
  tree only (`exists_unique_tree`).
-/

namespace VerbScript

/-- The place of a tier among all tiers, the tightest one first. Levels of trees are counted by
it. -/
def Tier.rank : Tier → Nat
  | .product => 0
  | .sum => 1
  | .comparison => 2
  | .logic => 3

/-- Tiers of one rank are the same. -/
theorem Tier.eq_of_rank {tier tier' : Tier} (h : tier.rank = tier'.rank) : tier = tier' := by
  cases tier <;> cases tier' <;> trivial

/-- There are four ranks. -/
theorem Tier.rank_lt (tier : Tier) : tier.rank < 4 := by
  cases tier <;> decide

/-- Every one of the four ranks is that of a tier. So a grammar by ranks is one by tiers. -/
theorem Tier.exists_rank {k : Nat} (h : k < 4) : ∃ tier : Tier, tier.rank = k := by
  rcases k with _ | _ | _ | _ | k
  · exact ⟨.product, rfl⟩
  · exact ⟨.sum, rfl⟩
  · exact ⟨.comparison, rfl⟩
  · exact ⟨.logic, rfl⟩
  · omega

/-- The first tiers are those of the lower ranks. -/
theorem Tier.mem_take_all (tier : Tier) (k : Nat) : tier ∈ Tier.all.take k ↔ tier.rank < k := by
  rcases k with _ | _ | _ | _ | k <;> cases tier <;> simp [Tier.all, Tier.rank]

/-- The tiers up to one of them are those before it, and it. -/
theorem Tier.take_all_succ_rank (tier : Tier) :
    Tier.all.take (tier.rank + 1) = Tier.all.take tier.rank ++ [tier] := by
  cases tier <;> rfl

/-! ### Trees -/

/-- An expression in which every operator has its two operands. It is what the operands of a line
are a way of writing; the program builds no such tree. -/
inductive OperatorTree where
  | value (v : Value)
  | apply (op : Operator) (left right : OperatorTree)

namespace OperatorTree

/-- The operands of a tree in the order of the line. There are no brackets on it, so it does not
show how the tree is built. -/
def operands : OperatorTree → List Operand
  | value v => [.value v]
  | apply op left right => left.operands ++ .operator op :: right.operands

/-- **The grammar**, the tightest level first: an expression of the next level is one of this level,
or one of the next level, an operator of this level's tier, and one of this level. The left operand
may have operators of the same tier, which is what makes them associate to the left. -/
inductive Level : Nat → OperatorTree → Prop where
  | value (v : Value) : Level 0 (value v)
  | tighter {k : Nat} {t : OperatorTree} (h : Level k t) : Level (k + 1) t
  | apply {op : Operator} {left right : OperatorTree} (hleft : Level (op.tier.rank + 1) left)
      (hright : Level op.tier.rank right) : Level (op.tier.rank + 1) (apply op left right)

/-- The value of a tree; both operands of a node come before its operator. The left one comes first,
so its fault is the one reported. -/
def eval : OperatorTree → Except Fault Value
  | value v => .ok v
  | apply op left right => do op.apply (← left.eval) (← right.eval)

/-- Some node of the tree, both of whose operands have values, fails with this fault. A tree may
fail with several faults, and which one comes first depends on the order of evaluation. -/
inductive Fails (fault : Fault) : OperatorTree → Prop where
  | node {op : Operator} {left right : OperatorTree} {a b : Value} (hleft : left.eval = .ok a)
      (hright : right.eval = .ok b) (h : op.apply a b = .error fault) :
      Fails fault (apply op left right)
  | left {op : Operator} {left right : OperatorTree} (h : Fails fault left) :
      Fails fault (apply op left right)
  | right {op : Operator} {left right : OperatorTree} (h : Fails fault right) :
      Fails fault (apply op left right)

/-- A node whose operands have values applies its operator to them. There is no operator that leaves
its right operand alone. -/
theorem eval_apply {op : Operator} {left right : OperatorTree} {a b : Value}
    (hleft : left.eval = .ok a) (hright : right.eval = .ok b) :
    (apply op left right).eval = op.apply a b := by
  rw [eval, hleft, hright]
  rfl

/-- A tree with a failing node has no value. The operands are evaluated from left to right, and a
fault of either of them keeps the operator from being applied. -/
theorem Fails.eval_ne_ok {fault : Fault} {t : OperatorTree} (h : t.Fails fault) (v : Value) :
    t.eval ≠ .ok v := by
  induction h generalizing v with
  -- the node itself fails
  | node hleft hright h =>
    rw [eval_apply hleft hright, h]
    exact nofun
  -- otherwise an operand has no value, so the operator is not applied
  | @left op left right _ ih =>
    rw [eval]
    cases hleft : left.eval with
    | error fault' => exact nofun
    | ok a => exact absurd hleft (ih a)
  | @right op left right _ ih =>
    rw [eval]
    cases hleft : left.eval with
    | error fault' => exact nofun
    | ok a =>
      cases hright : right.eval with
      | error fault' => exact nofun
      | ok b => exact absurd hright (ih b)

/-- The first value on the line of a tree, down its left operands. -/
def first : OperatorTree → Value
  | value v => v
  | apply _ left _ => left.first

/-- The operators on the line of a tree, each with the value to its right. With the first value this
is the whole line. -/
def links : OperatorTree → List (Operator × Value)
  | value _ => []
  | apply op left right => left.links ++ (op, right.first) :: right.links

end OperatorTree

/-! ### Lines -/

/-- The operands that an operator and its right operand are written as. -/
def linkOperands (link : Operator × Value) : List Operand := [.operator link.1, .value link.2]

/-- The line of a tree is its first value and its links, one after the other. In this form it is
compared with the chain of the line. -/
theorem OperatorTree.operands_eq (t : OperatorTree) :
    t.operands = .value t.first :: t.links.flatMap linkOperands := by
  induction t with
  | value v => rfl
  | apply op left right ihleft ihright =>
    rw [operands, ihleft, ihright, links, List.flatMap_append, List.flatMap_cons]
    rfl

/-- A value, an operator, a value and so on, up to a value. Only such a line can be the line of a
tree. -/
inductive Alternates : List Operand → Prop where
  | last (v : Value) : Alternates [.value v]
  | more (v : Value) (op : Operator) {rest : List Operand} (h : Alternates rest) :
      Alternates (.value v :: .operator op :: rest)

/-- A value with links behind it alternates. Each link is an operator and a value. -/
theorem alternates_links (v : Value) (links : List (Operator × Value)) :
    Alternates (.value v :: links.flatMap linkOperands) := by
  induction links generalizing v with
  | nil => exact .last v
  | cons link links ih => exact .more v link.1 (ih link.2)

namespace Reduction

/-- What is not a chain of links is malformed. A link is an operator with the value to its right,
and the line is read link by link. -/
theorem links_cases (line : List Operand) :
    (∃ found, links line = .ok found ∧ line = found.flatMap linkOperands) ∨
    ∃ message, links line = .error (.malformedExpression message) := by
  fun_induction links line with
  | case1 => exact .inl ⟨[], rfl, rfl⟩
  | case2 => exact .inr ⟨_, rfl⟩
  | case3 => exact .inr ⟨_, rfl⟩
  | case4 => exact .inr ⟨_, rfl⟩
  | case5 op v rest ih =>
    rcases ih with ⟨found, hfound, hrest⟩ | ⟨message, hmessage⟩
    · refine .inl ⟨(op, v) :: found, ?_, ?_⟩
      · rw [hfound]
        rfl
      · rw [hrest]
        rfl
    · right
      rw [hmessage]
      exact ⟨message, rfl⟩

/-- Links are read back from their operands. So a line has one chain, and a tree is known to belong
to a line by comparing links. -/
theorem links_flatMap (found : List (Operator × Value)) :
    links (found.flatMap linkOperands) = .ok found := by
  induction found with
  | nil => rfl
  | cons link found ih =>
    rw [List.flatMap_cons]
    show (links (found.flatMap linkOperands)).map _ = _
    rw [ih]
    rfl

/-- The chain of a line that alternates. Such a line is a value, and then an operator and a value
again and again. -/
theorem chain_of_alternates {line : List Operand} (h : Alternates line) :
    ∃ v found, chain line = .ok (v, found) ∧ line = .value v :: found.flatMap linkOperands := by
  have hline : ∃ v, ∃ found : List (Operator × Value),
      line = .value v :: found.flatMap linkOperands := by
    induction h with
    | last v => exact ⟨v, [], rfl⟩
    | more v op _ ih =>
      obtain ⟨w, found, rfl⟩ := ih
      exact ⟨v, (op, w) :: found, rfl⟩
  -- the line is a value and links, and links are read back
  obtain ⟨v, found, rfl⟩ := hline
  refine ⟨v, found, ?_, rfl⟩
  rw [chain, links_flatMap]
  rfl

/-- A line with operands that does not alternate is malformed. Either it begins with an operator, or
two operands of one kind stand side by side, or it ends with an operator. -/
theorem chain_of_not_alternates {line : List Operand} (hne : line ≠ []) (h : ¬ Alternates line) :
    ∃ message, chain line = .error (.malformedExpression message) := by
  cases line with
  | nil => exact absurd rfl hne
  | cons operand rest =>
    cases operand with
    -- an operator has nothing to its left
    | operator op => exact ⟨_, rfl⟩
    | value v =>
      rcases links_cases rest with ⟨found, -, hrest⟩ | ⟨message, hmessage⟩
      · rw [hrest] at h
        exact absurd (alternates_links v found) h
      · refine ⟨message, ?_⟩
        rw [chain, hmessage]
        rfl

end Reduction

/-! ### Joining trees tier by tier -/

/-- A tree, and operators with the trees to their right. This is what reduction works on, with trees
in place of the values that they come to. -/
abbrev TreeChain := OperatorTree × List (Operator × OperatorTree)

/-- Joins the operators of one tier from left to right. An operator of another tier stays, and
behind it a new tree is begun. -/
def joinTier (tier : Tier) (left : OperatorTree) : List (Operator × OperatorTree) → TreeChain
  | [] => (left, [])
  | (op, right) :: rest =>
    if op.tier = tier then joinTier tier (.apply op left right) rest
    else
      let joined := joinTier tier right rest
      (left, (op, joined.1) :: joined.2)

/-- Joins the operators of some tiers in turn. What is left are operators of other tiers. -/
def joinTiers (tiers : List Tier) (chain : TreeChain) : TreeChain :=
  tiers.foldl (fun chain tier => joinTier tier chain.1 chain.2) chain

/-- The first tier is joined first. -/
theorem joinTiers_cons (tier : Tier) (tiers : List Tier) (chain : TreeChain) :
    joinTiers (tier :: tiers) chain = joinTiers tiers (joinTier tier chain.1 chain.2) := rfl

/-- Some tiers after others are joined in what these leave. -/
theorem joinTiers_append (tiers tiers' : List Tier) (chain : TreeChain) :
    joinTiers (tiers ++ tiers') chain = joinTiers tiers' (joinTiers tiers chain) :=
  List.foldl_append

/-- The last tier is joined last. Its operators bind the loosest, so they come to stand at the
top. -/
theorem joinTiers_concat (tiers : List Tier) (tier : Tier) (chain : TreeChain) :
    joinTiers (tiers ++ [tier]) chain
      = joinTier tier (joinTiers tiers chain).1 (joinTiers tiers chain).2 :=
  joinTiers_append tiers [tier] chain

/-- One tree is all there is to join. Without a link there is no operator of any tier. -/
theorem joinTiers_single (tiers : List Tier) (t : OperatorTree) :
    joinTiers tiers (t, []) = (t, []) := by
  induction tiers with
  | nil => rfl
  | cons tier tiers ih => exact ih

/-- The chain of single values. -/
def leaves (v : Value) (links : List (Operator × Value)) : TreeChain :=
  (.value v, links.map fun link => (link.1, .value link.2))

/-- The operands of a chain in the order of the line. -/
def TreeChain.operands (chain : TreeChain) : List Operand :=
  chain.1.operands ++ chain.2.flatMap fun link => .operator link.1 :: link.2.operands

/-- The chain of single values has the line that they were read from. Nothing has been joined at
that point. -/
theorem leaves_operands (v : Value) (links : List (Operator × Value)) :
    (leaves v links).operands = .value v :: links.flatMap linkOperands := by
  show [Operand.value v] ++ (links.map _).flatMap _ = _
  rw [List.flatMap_map]
  rfl

/-- The trees of a chain are of level `k`, and so are the operators between them or looser. It is
what joining the tiers up to `k` leads to. -/
structure TreeChain.AtLevel (k : Nat) (chain : TreeChain) : Prop where
  first : chain.1.Level k
  links : ∀ link ∈ chain.2, link.2.Level k ∧ k ≤ link.1.tier.rank

/-- Joining loses and moves nothing. The operands of what is left, read from left to right, are
those of the chain before. -/
theorem joinTier_operands (tier : Tier) (left : OperatorTree)
    (links : List (Operator × OperatorTree)) :
    (joinTier tier left links).operands = TreeChain.operands (left, links) := by
  fun_induction joinTier tier left links with
  | case1 => rfl
  | case2 left op right rest _ ih =>
    rw [ih]
    simp [TreeChain.operands, OperatorTree.operands]
  -- the operator stays where it is, and what is joined behind it keeps its line
  | case3 left op right rest _ joined ih =>
    have hrest : joined.1.operands ++ (joined.2.flatMap fun link =>
        .operator link.1 :: link.2.operands)
        = right.operands ++ rest.flatMap fun link => .operator link.1 :: link.2.operands := ih
    simp [TreeChain.operands, hrest]

/-- Joining the operators of a tier lifts a chain from the level of the tier to the next one. The
tree on the left grows while it is joined, so it may be of the next level already. -/
theorem joinTier_atLevel {tier : Tier} {left : OperatorTree}
    {links : List (Operator × OperatorTree)} (hleft : left.Level (tier.rank + 1))
    (hlinks : ∀ link ∈ links, link.2.Level tier.rank ∧ tier.rank ≤ link.1.tier.rank) :
    (joinTier tier left links).AtLevel (tier.rank + 1) := by
  fun_induction joinTier tier left links with
  | case1 left => exact ⟨hleft, fun _ hlink => absurd hlink List.not_mem_nil⟩
  | case2 left op right rest htier ih =>
    obtain ⟨hhead, hrest⟩ := List.forall_mem_cons.1 hlinks
    subst htier
    -- the tree on the left has taken an operator of this tier, and is of the next level
    exact ih (.apply hleft hhead.1) hrest
  | case3 left op right rest htier joined ih =>
    obtain ⟨hhead, hrest⟩ := List.forall_mem_cons.1 hlinks
    have hjoined := ih (.tighter hhead.1) hrest
    -- the operator stays, so it is looser than the tier
    have hrank : op.tier.rank ≠ tier.rank := mt Tier.eq_of_rank htier
    have hlooser : tier.rank + 1 ≤ op.tier.rank := by
      have hle : tier.rank ≤ op.tier.rank := hhead.2
      omega
    refine ⟨hleft, List.forall_mem_cons.2 ⟨⟨hjoined.first, hlooser⟩, hjoined.links⟩⟩

/-- Joining the `k` tightest tiers of single values gives a chain of level `k`. The induction is on
the tiers, and each of them lifts the chain by one level. -/
theorem joinTiers_atLevel (v : Value) (links : List (Operator × Value)) {k : Nat} (hk : k ≤ 4) :
    (joinTiers (Tier.all.take k) (leaves v links)).AtLevel k := by
  induction k with
  | zero =>
    refine ⟨.value v, fun link hlink => ?_⟩
    obtain ⟨source, -, rfl⟩ := List.mem_map.1 hlink
    exact ⟨.value source.2, Nat.zero_le _⟩
  | succ k ih =>
    obtain ⟨tier, rfl⟩ := Tier.exists_rank hk
    have hchain := ih (Nat.le_of_succ_le hk)
    rw [Tier.take_all_succ_rank, joinTiers_concat]
    exact joinTier_atLevel (.tighter hchain.first) hchain.links

/-- So joining some tiers loses and moves nothing either. -/
theorem joinTiers_operands (tiers : List Tier) (chain : TreeChain) :
    (joinTiers tiers chain).operands = chain.operands := by
  induction tiers generalizing chain with
  | nil => rfl
  | cons tier tiers ih => exact (ih _).trans (joinTier_operands tier chain.1 chain.2)

/-- **Joining all tiers** of single values leaves one tree of the grammar, with the same line. There
is no looser operator that could be left. -/
theorem joinTiers_all (v : Value) (links : List (Operator × Value)) :
    ∃ t : OperatorTree, joinTiers Tier.all (leaves v links) = (t, []) ∧ t.Level 4 ∧
      t.operands = .value v :: links.flatMap linkOperands := by
  have hlevel : (joinTiers Tier.all (leaves v links)).AtLevel 4 :=
    joinTiers_atLevel v links (Nat.le_refl 4)
  have hoperands := (joinTiers_operands Tier.all (leaves v links)).trans (leaves_operands v links)
  rcases hjoined : joinTiers Tier.all (leaves v links) with ⟨t, rest⟩
  rw [hjoined] at hlevel hoperands
  -- no operator is looser than the last tier
  have hrest : rest = [] := by
    refine List.eq_nil_iff_forall_not_mem.2 fun link hlink => ?_
    have hlooser := (hlevel.links link hlink).2
    have hlast := link.1.tier.rank_lt
    omega
  subst hrest
  refine ⟨t, rfl, hlevel.first, ?_⟩
  simpa [TreeChain.operands] using hoperands

/-! ### Every tree of the grammar is joined from its line -/

/-- An operator of another tier divides the work: what is before it and what is behind it are joined
apart. -/
theorem joinTier_append_of_ne {tier : Tier} {op : Operator} (h : op.tier ≠ tier)
    (left right : OperatorTree) (before after : List (Operator × OperatorTree)) :
    joinTier tier left (before ++ (op, right) :: after) =
      ((joinTier tier left before).1, (joinTier tier left before).2 ++
        (op, (joinTier tier right after).1) :: (joinTier tier right after).2) := by
  fun_induction joinTier tier left before with
  | case1 left => rw [List.nil_append, joinTier, if_neg h]; rfl
  | case2 left op' right' rest htier ih => rw [List.cons_append, joinTier, if_pos htier, ih]
  | case3 left op' right' rest htier joined ih =>
    rw [List.cons_append, joinTier, if_neg htier, ih]
    rfl

/-- The same for some tiers, none of which is that of the operator. What stands before the operator
and what stands behind it are joined apart from each other. -/
theorem joinTiers_append_of_not_mem {tiers : List Tier} {op : Operator} (h : op.tier ∉ tiers)
    (left right : OperatorTree) (before after : List (Operator × OperatorTree)) :
    joinTiers tiers (left, before ++ (op, right) :: after) =
      ((joinTiers tiers (left, before)).1, (joinTiers tiers (left, before)).2 ++
        (op, (joinTiers tiers (right, after)).1) :: (joinTiers tiers (right, after)).2) := by
  induction tiers generalizing left right before after with
  | nil => rfl
  | cons tier tiers ih =>
    obtain ⟨hne, hrest⟩ := not_or.1 (mt List.mem_cons.2 h)
    rw [joinTiers_cons, joinTiers_cons, joinTiers_cons, joinTier_append_of_ne hne, ih hrest]

/-- What is joined to one tree goes on with what follows. This is where operators of one tier group
to the left. -/
theorem joinTier_append_of_eq {tier : Tier} {left t : OperatorTree}
    {before : List (Operator × OperatorTree)} (h : joinTier tier left before = (t, []))
    (after : List (Operator × OperatorTree)) :
    joinTier tier left (before ++ after) = joinTier tier t after := by
  fun_induction joinTier tier left before with
  | case1 left =>
    cases h
    rfl
  | case2 left op right rest htier ih => rw [List.cons_append, joinTier, if_pos htier, ih h]
  | case3 left op right rest htier joined ih => cases h

/-- **A tree of the grammar is joined from its line** by the tiers up to its level. The induction is
on how the grammar builds the tree; a level more adds a tier with nothing to do. -/
theorem OperatorTree.Level.joined {k : Nat} {t : OperatorTree} (h : t.Level k) :
    joinTiers (Tier.all.take k) (leaves t.first t.links) = (t, []) := by
  induction h with
  | value v => rfl
  | @tighter k t _ ih =>
    rw [List.take_add_one, joinTiers_append, ih]
    exact joinTiers_single _ t
  | @apply op left right _ _ ihleft ihright =>
    rw [Tier.take_all_succ_rank, joinTiers_concat] at ihleft ⊢
    -- the tighter tiers join both sides apart, and the right one to the tree `right`
    have hline : leaves (OperatorTree.apply op left right).first
        (OperatorTree.apply op left right).links
          = ((leaves left.first left.links).1, (leaves left.first left.links).2 ++
              (op, .value right.first) :: (leaves right.first right.links).2) := by
      simp [leaves, OperatorTree.first, OperatorTree.links]
    have htier : op.tier ∉ Tier.all.take op.tier.rank := by
      rw [Tier.mem_take_all]
      exact Nat.lt_irrefl _
    rw [hline, joinTiers_append_of_not_mem htier]
    have hright : joinTiers (Tier.all.take op.tier.rank)
        (.value right.first, (leaves right.first right.links).2) = (right, []) := ihright
    rw [hright]
    -- then the operator's own tier joins what is on the left to `left`, and goes on to `op`
    exact (joinTier_append_of_eq ihleft [(op, right)]).trans (by rw [joinTier, if_pos rfl]; rfl)

/-- A tree of the grammar is what the chain of its line is joined to. This gives the uniqueness:
another tree of the grammar with the same operands is the same result of joining. -/
theorem OperatorTree.Level.eq_joined {t : OperatorTree} (h : t.Level 4) {v : Value}
    {links : List (Operator × Value)}
    (hline : t.operands = .value v :: links.flatMap linkOperands) :
    joinTiers Tier.all (leaves v links) = (t, []) := by
  rw [t.operands_eq] at hline
  obtain ⟨hfirst, hrest⟩ := List.cons.inj hline
  have hv : t.first = v := by cases hfirst; rfl
  -- the links of the line are read back, so they are those of the tree
  have hlinks : t.links = links := by
    have hread : Reduction.links (t.links.flatMap linkOperands) = .ok links := by
      rw [hrest, Reduction.links_flatMap]
    rw [Reduction.links_flatMap] at hread
    exact Except.ok.inj hread
  rw [← hv, ← hlinks]
  exact h.joined

/-- **A line has exactly one tree.** Joining finds one, and every tree of the grammar is what
joining makes of its line. -/
theorem exists_unique_tree {line : List Operand} (h : Alternates line) :
    ∃! t : OperatorTree, t.Level 4 ∧ t.operands = line := by
  obtain ⟨v, found, -, rfl⟩ := Reduction.chain_of_alternates h
  obtain ⟨t, hjoined, hlevel, hoperands⟩ := joinTiers_all v found
  refine ⟨t, ⟨hlevel, hoperands⟩, ?_⟩
  -- another tree would be joined from the same chain
  rintro t' ⟨hlevel', hoperands'⟩
  have hjoined' := hlevel'.eq_joined hoperands'
  rw [hjoined] at hjoined'
  exact (Prod.mk.inj hjoined').1.symm

end VerbScript
