import Mathlib.Control.Monad.Basic
import VerbScript.Proofs.BlockGrammar
import VerbScript.Proofs.ProperTokens

/-!
# Compiled scripts are well-formed

What holds of tokens, that words and names are non-empty and numbers finite, holds of the
expressions they are grouped into; and grouping adds that every call has a verb that is no operator
and no assignment symbol, and is the call of the line it is written as.

* `Node.WellFormed`, `Statement.WellFormed` — the properties, at every depth.
* `Verbcall.ofLine?_word` — a line that begins with a word is always a call, so the cases in which
  grouping would not make one do not occur (`Node.callOf_eq`).
* `Node.grouping_wellFormed` — grouping, along its recursion.
* `LineForm.read_wellFormed` — one line.
* `Script.compile_wellFormed` — scripts are written as lines that have been read, and statements
  inherit the property from the lines they are written as.
-/

namespace VerbScript

/-! ### The properties -/

/-- The verb of a call is a non-empty word that is not reserved, and the call is the one of the line
of its verb and its params. -/
structure Verbcall.Faithful (c : Verbcall Node) : Prop where
  nonempty : c.verb ≠ ""
  notOperator : Operator.ofWord? c.verb = none
  notAssignment : AssignOp.ofWord? c.verb = none
  line : Verbcall.ofLine? (.word c.verb :: c.params) = some c

/-- **A well-formed node**: words and names are non-empty, numbers are finite, calls are faithful,
and all nodes inside are well-formed. The property goes through brackets, indices, and the params
and objects of calls. -/
inductive Node.WellFormed : Node → Prop where
  | str (text : String) : WellFormed (.str text)
  | number {n : Number} (finite : n.isFinite = true) : WellFormed (.number n)
  | bool (b : Bool) : WellFormed (.bool b)
  | null : WellFormed .null
  | word {text : String} (nonempty : text ≠ "") : WellFormed (.word text)
  | reference {r : Reference Node} (nonempty : r.name ≠ "")
      (index : ∀ nodes, r.index = some nodes → ∀ n ∈ nodes, WellFormed n) :
      WellFormed (.reference r)
  | object (id : ObjectId) : WellFormed (.object id)
  | named {name : String} (nonempty : name ≠ "") : WellFormed (.named name)
  | array {items : List Node} (inside : ∀ n ∈ items, WellFormed n) : WellFormed (.array items)
  | list {items : List Node} (inside : ∀ n ∈ items, WellFormed n) : WellFormed (.list items)
  | call {c : Verbcall Node} (faithful : c.Faithful)
      (direct : ∀ nodes, c.direct = some nodes → ∀ n ∈ nodes, WellFormed n)
      (indirect : ∀ nodes, c.indirect = some nodes → ∀ n ∈ nodes, WellFormed n)
      (params : ∀ n ∈ c.params, WellFormed n) : WellFormed (.call c)

/-- A well-formed expression. It may be empty; that conditions and sources are not is asked of
statements. -/
def Expr.WellFormed (e : Expr) : Prop := ∀ n ∈ e, n.WellFormed

/-- **A well-formed statement**: conditions and sources are non-empty, and all nodes and statements
inside are well-formed. Blocks may be empty: nothing need stand before the line that ends them. -/
inductive Statement.WellFormed : Statement → Prop where
  | ifThen {condition : Expr} {block : List Statement} (nonempty : condition ≠ [])
      (regular : Expr.WellFormed condition) (inside : ∀ s ∈ block, WellFormed s) :
      WellFormed (.ifThen condition block)
  | whileLoop {condition : Expr} {block : List Statement} (nonempty : condition ≠ [])
      (regular : Expr.WellFormed condition) (inside : ∀ s ∈ block, WellFormed s) :
      WellFormed (.whileLoop condition block)
  | assign {op : AssignOp} {target : Reference Node} {source : Expr}
      (assigned : (Node.reference target).WellFormed) (nonempty : source ≠ [])
      (regular : Expr.WellFormed source) : WellFormed (.assign op target source)
  | call {c : Verbcall Node} (regular : (Node.call c).WellFormed) : WellFormed (.call c)

/-- A script all of whose statements are well-formed, at whatever depth they stand. -/
def Script.WellFormed (script : Script) : Prop := ∀ s ∈ script, s.WellFormed

/-! ### Calls -/

/-- A word that is not reserved is neither an operator nor an assignment symbol. -/
theorem isReserved_eq_false {word : String} (h : ¬ isReserved word = true) :
    Operator.ofWord? word = none ∧ AssignOp.ofWord? word = none := by
  unfold isReserved at h
  simpa using h

/-- Nodes that are taken if there are any are all of them. -/
theorem eq_of_nonEmpty? {α : Type} {items nodes : List α} (h : nonEmpty? items = some nodes) :
    nodes = items := by
  cases items with
  | nil => cases h
  | cons first rest =>
    cases h
    rfl

/-- A line that begins with a word is split at one of the phrases in it, or not at all. Which phrase
it is does not matter for the parts being well-formed. -/
theorem Verbcall.ofLine?_split (verb : String) (args : List Node) :
    ∃ (start : Nat) (phrases : List Preposition.Match),
      Verbcall.ofLine? (.word verb :: args) = some (match phrases with
        | m :: _ =>
          { verb
            direct := nonEmpty? (((.word verb :: args : List Node).take m.start).drop start)
            preposition := some m.phrase
            indirect := nonEmpty? ((.word verb :: args : List Node).drop m.stop)
            params := args }
        | [] =>
          { verb
            direct := nonEmpty? ((.word verb :: args : List Node).drop start)
            preposition := none
            indirect := none
            params := args }) := by
  unfold Verbcall.ofLine?
  generalize (Preposition.find (.word verb :: args)).filter _ = found
  -- what matters is where the first phrase stands: right behind the verb it belongs to the verb
  rcases found with _ | ⟨m, rest⟩
  · exact ⟨1, [], rfl⟩
  · by_cases hfirst : m.start = 1
    · refine ⟨m.stop, rest, ?_⟩
      simp only [hfirst, if_true]
      cases rest <;> rfl
    · refine ⟨1, m :: rest, ?_⟩
      simp only [hfirst, if_false]
      rfl

/-- **A line that begins with a word is a call** of this word with the nodes behind it, and its
objects are parts of the line. -/
theorem Verbcall.ofLine?_word (verb : String) (args : List Node) :
    ∃ c, Verbcall.ofLine? (.word verb :: args) = some c ∧ c.verb = verb ∧ c.params = args ∧
      (∀ nodes, c.direct = some nodes → nodes ⊆ .word verb :: args) ∧
      (∀ nodes, c.indirect = some nodes → nodes ⊆ .word verb :: args) := by
  -- an object that is there is a piece of the line
  have hpart : ∀ {items nodes : List Node}, items ⊆ .word verb :: args →
      nonEmpty? items = some nodes → nodes ⊆ .word verb :: args := by
    intro items nodes hitems hnodes
    rw [eq_of_nonEmpty? hnodes]
    exact hitems
  obtain ⟨start, phrases, heq⟩ := Verbcall.ofLine?_split verb args
  rw [heq]
  cases phrases with
  | nil =>
    refine ⟨_, rfl, rfl, rfl, fun nodes hnodes => ?_, nofun⟩
    exact hpart (List.drop_subset _ _) hnodes
  | cons m rest =>
    refine ⟨_, rfl, rfl, rfl, fun nodes hnodes => ?_, fun nodes hnodes => ?_⟩
    · exact hpart (fun n hn => List.mem_of_mem_take (List.mem_of_mem_drop hn)) hnodes
    · exact hpart (List.drop_subset _ _) hnodes

/-- **Calls are well-formed** if the nodes of their line are: the objects of a call are parts of its
line, so nothing in them is new. The verb has to be a word that is not reserved. -/
theorem Verbcall.wellFormed_of_line {verb : String} {args : List Node} (hverb : verb ≠ "")
    (hplain : ¬ isReserved verb = true) (hargs : Expr.WellFormed args) :
    ∃ c, Verbcall.ofLine? (.word verb :: args) = some c ∧ (Node.call c).WellFormed := by
  obtain ⟨c, hline, rfl, rfl, hdirect, hindirect⟩ := Verbcall.ofLine?_word verb args
  obtain ⟨hoperator, hassign⟩ := isReserved_eq_false hplain
  -- the whole line is well-formed, and the objects are pieces of it
  have hnodes : ∀ n ∈ Node.word c.verb :: c.params, n.WellFormed := by
    intro n hn
    rcases List.mem_cons.1 hn with rfl | hn
    · exact .word hverb
    · exact hargs n hn
  refine ⟨c, hline, .call ⟨hverb, hoperator, hassign, hline⟩ ?_ ?_ hargs⟩
  · intro nodes heq n hn
    exact hnodes n (hdirect nodes heq hn)
  · intro nodes heq n hn
    exact hnodes n (hindirect nodes heq hn)

/-- A group behind a word is the call that its line makes. -/
theorem Node.callOf_eq {verb : String} {args : List Node} {c : Verbcall Node}
    (h : Verbcall.ofLine? (.word verb :: args) = some c) : Node.callOf verb args = .call c := by
  unfold Node.callOf
  rw [h]

/-- So is a whole line, if its word is not reserved. -/
theorem Expr.asCommand_eq {verb : String} {args : List Node} {c : Verbcall Node}
    (h : Verbcall.ofLine? (.word verb :: args) = some c) (hplain : ¬ isReserved verb = true) :
    Expr.asCommand (.word verb :: args) = [.call c] := by
  unfold Expr.asCommand
  simp only [List.head?_cons, Option.bind_some, Node.asWord?, if_neg hplain, h]

/-- So a group behind a word is grouped into a well-formed node. -/
theorem Node.callOf_wellFormed {verb : String} {args : List Node} (hverb : verb ≠ "")
    (hplain : ¬ isReserved verb = true) (hargs : Expr.WellFormed args) :
    (Node.callOf verb args).WellFormed := by
  obtain ⟨c, hline, hcall⟩ := Verbcall.wellFormed_of_line hverb hplain hargs
  rw [Node.callOf_eq hline]
  exact hcall

/-! ### Grouping -/

/-- An expression is well-formed if its first node and the others are. -/
theorem Expr.WellFormed.cons {n : Node} {rest : Expr} (hn : n.WellFormed)
    (hrest : Expr.WellFormed rest) : Expr.WellFormed (n :: rest) := by
  intro n' hn'
  rcases List.mem_cons.1 hn' with rfl | hn'
  · exact hn
  · exact hrest n' hn'

/-- **Grouping proper tokens** gives well-formed nodes. The induction is along the recursion of
grouping, which takes tokens in a row, one token, and the tokens of an index. -/
theorem Node.grouping_wellFormed :
    (∀ tokens : List Token, (∀ t ∈ tokens, t.Proper) → Expr.WellFormed (Node.ofTokens tokens)) ∧
    (∀ t : Token, t.Proper → (Node.ofToken t).WellFormed) ∧
    (∀ index : Option (List Token), (∀ items, index = some items → ∀ t ∈ items, t.Proper) →
      ∀ nodes, Node.ofIndex index = some nodes → Expr.WellFormed nodes) := by
  -- what a list of tokens hands down to its parts
  have htail : ∀ {t : Token} {rest : List Token}, (∀ t' ∈ t :: rest, t'.Proper) →
      ∀ t' ∈ rest, t'.Proper := fun h t' ht' => h t' (List.mem_cons_of_mem _ ht')
  have hverb : ∀ {verb : String} {rest : List Token}, (∀ t ∈ .word verb :: rest, t.Proper) →
      verb ≠ "" := by
    intro verb rest h
    cases h _ List.mem_cons_self with
    | word nonempty => exact nonempty
  have hargs : ∀ {args rest : List Token}, (∀ t ∈ .group args :: rest, t.Proper) →
      ∀ t ∈ args, t.Proper := by
    intro args rest h
    cases h _ List.mem_cons_self with
    | group inside => exact inside
  apply Node.ofTokens.mutual_induct
  -- tokens that stand alone
  case case1 => exact fun text _ => .str text
  case case2 =>
    intro n h
    cases h with
    | number finite => exact .number finite
  case case3 => exact fun b _ => .bool b
  case case4 => exact fun _ => .null
  case case5 =>
    intro text h
    cases h with
    | word nonempty => exact .word nonempty
  case case6 =>
    intro sigil name index ih h
    cases h with
    | reference nonempty inside => exact .reference nonempty (ih inside)
  case case7 => exact fun id _ => .object id
  case case8 =>
    intro name h
    cases h with
    | named nonempty => exact .named nonempty
  case case9 => exact fun text _ => .null
  case case10 =>
    intro items ih h
    cases h with
    | array inside => exact .array (ih inside)
  case case11 =>
    intro items ih h
    cases h with
    | group inside => exact .list (ih inside)
  -- the tokens of an index
  case case12 => exact nofun
  case case13 =>
    rintro tokens ih h nodes ⟨⟩
    exact ih (h tokens rfl)
  -- tokens in a row: a comment, an operator before a group, a call, and all others
  case case14 => exact fun _ n hn => absurd hn List.not_mem_nil
  case case15 =>
    intro text rest ih h
    rw [Node.ofTokens]
    exact ih (htail h)
  case case16 =>
    intro verb args rest hreserved ihargs ihrest h
    rw [Node.ofTokens, if_pos hreserved]
    refine .cons (.word (hverb h)) (.cons (.list (ihargs (hargs (htail h)))) ?_)
    exact ihrest (htail (htail h))
  case case17 =>
    intro verb args rest hplain ihargs ihrest h
    rw [Node.ofTokens, if_neg hplain]
    refine .cons (Node.callOf_wellFormed (hverb h) hplain (ihargs (hargs (htail h)))) ?_
    exact ihrest (htail (htail h))
  case case18 =>
    intro t rest hcomment hcall iht ihrest h
    rw [Node.ofTokens.eq_4 t rest hcomment hcall]
    exact .cons (iht (h t List.mem_cons_self)) (ihrest (htail h))

/-- Only a line that begins with a word which is not reserved is read as a call. Any other line is
left as the nodes it is made of. -/
theorem Expr.asCommand_cases (nodes : Expr) :
    Expr.asCommand nodes = nodes ∨
      ∃ verb args, nodes = .word verb :: args ∧ ¬ isReserved verb = true := by
  cases nodes with
  | nil => exact .inl rfl
  | cons n args =>
    cases n with
    | word verb =>
      by_cases hplain : isReserved verb = true
      · exact .inl (if_pos hplain)
      · exact .inr ⟨verb, args, rfl, hplain⟩
    | _ => exact .inl rfl

/-- Reading a well-formed line as a command gives a well-formed expression. It is the one call of
the line, or the line itself. -/
theorem Expr.asCommand_wellFormed {nodes : Expr} (h : Expr.WellFormed nodes) :
    Expr.WellFormed (Expr.asCommand nodes) := by
  rcases Expr.asCommand_cases nodes with heq | ⟨verb, args, rfl, hplain⟩
  · rw [heq]
    exact h
  · have hargs : Expr.WellFormed args := fun n hn => h n (List.mem_cons_of_mem _ hn)
    cases h _ List.mem_cons_self with
    | word nonempty =>
      obtain ⟨c, hline, hcall⟩ := Verbcall.wellFormed_of_line nonempty hplain hargs
      rw [Expr.asCommand_eq hline hplain]
      exact .cons hcall fun n hn => absurd hn List.not_mem_nil

/-- **Grouping at any level** gives a well-formed expression. The level decides only whether the
line is read as a command. -/
theorem Expr.group_wellFormed (level : Nat) {tokens : List Token} (h : ∀ t ∈ tokens, t.Proper) :
    Expr.WellFormed (Expr.group level tokens) := by
  have hnodes := Node.grouping_wellFormed.1 tokens h
  unfold Expr.group
  dsimp only
  split
  · exact Expr.asCommand_wellFormed hnodes
  · exact hnodes

/-! ### Comments -/

/-- Only comments leave nothing behind. So an expression is empty only if there was nothing to
read. -/
theorem Node.ofTokens_eq_nil {tokens : List Token} (h : Node.ofTokens tokens = []) :
    ∀ t ∈ tokens, t.isComment = true := by
  induction tokens with
  | nil => exact fun t ht => absurd ht List.not_mem_nil
  | cons t rest ih =>
    by_cases ht : t.isComment = true
    · cases t with
      | comment text =>
        intro t' ht'
        rcases List.mem_cons.1 ht' with rfl | ht'
        · rfl
        · exact ih h t' ht'
      | _ => cases ht
    · -- any other token is grouped into a node, alone or with a group behind it
      exfalso
      unfold Node.ofTokens at h
      split at h
      next heq => cases heq
      next text rest' heq =>
        cases heq
        exact ht rfl
      next => split at h <;> cases h
      next => cases h

/-- Leaving out the comments at the end adds no tokens. -/
theorem Token.mem_of_mem_dropComments {tokens : List Token} {t : Token}
    (h : t ∈ Token.dropComments tokens) : t ∈ tokens := by
  unfold Token.dropComments at h
  exact List.mem_reverse.1 ((List.dropWhile_sublist _).mem (List.mem_reverse.1 h))

/-- What is left of a line without its comments does not end with a comment. Those before its last
token stay where they are. -/
theorem Token.dropComments_last {tokens before : List Token} {last : Token}
    (h : Token.dropComments tokens = before ++ [last]) : last.isComment = false := by
  unfold Token.dropComments at h
  have hhead : (tokens.reverse.dropWhile Token.isComment).head? = some last := by
    rw [List.reverse_eq_iff.1 h, List.reverse_append]
    rfl
  have hlast := List.head?_dropWhile_not Token.isComment tokens.reverse
  rw [hhead] at hlast
  simpa using hlast

/-- The end of a line without its comments is grouped into a non-empty expression. So the source of
an assignment and the condition of a block are never empty. -/
theorem Node.ofTokens_ne_nil {tokens rest : List Token}
    (hend : rest <:+ Token.dropComments tokens) (hrest : rest ≠ []) :
    Node.ofTokens rest ≠ [] := by
  intro hnil
  -- the last token is no comment, and only comments are grouped into nothing
  obtain ⟨before, last, rfl⟩ : ∃ before last, rest = before ++ [last] := by
    rcases List.eq_nil_or_concat rest with hnil | ⟨before, last, hconcat⟩
    · exact absurd hnil hrest
    · exact ⟨before, last, by rw [hconcat, List.concat_eq_append]⟩
  obtain ⟨front, hfront⟩ := hend
  rw [← List.append_assoc] at hfront
  have hlast : last.isComment = false := Token.dropComments_last hfront.symm
  have hcomment := Node.ofTokens_eq_nil hnil last (by simp)
  rw [hlast] at hcomment
  cases hcomment

/-! ### Lines -/

/-- What a well-formed script asks of a line it is written as. The lines of a block are asked for by
themselves. -/
def LineForm.WellFormed : LineForm → Prop
  | .skip => True
  | .opening _ condition => condition ≠ [] ∧ Expr.WellFormed condition
  | .closing => True
  | .statement s => s.WellFormed

/-- The end of a line, as an expression. -/
theorem Expr.group_end {tokens rest : List Token} (h : ∀ t ∈ Token.dropComments tokens, t.Proper)
    (hend : rest <:+ Token.dropComments tokens) (hrest : ¬ rest.isEmpty = true) :
    Expr.group 1 rest ≠ [] ∧ Expr.WellFormed (Expr.group 1 rest) :=
  ⟨Node.ofTokens_ne_nil hend (mt List.isEmpty_iff.2 hrest),
    Expr.group_wellFormed 1 fun t ht => h t (hend.mem ht)⟩

/-- The target of an assignment is the node that its token is grouped into, so it is well-formed.
Only references are targets. -/
theorem Token.asTarget?_wellFormed {t : Token} {r : Reference Node} (ht : t.Proper)
    (h : t.asTarget? = some r) : (Node.reference r).WellFormed := by
  have hnode : Node.ofToken t = .reference r := by
    cases t with
    | reference sigil name index =>
      cases h
      rfl
    | _ => cases h
  rw [← hnode]
  exact Node.grouping_wellFormed.2.1 t ht

/-- A line that is read as a command is a well-formed call. A line that comes to anything else is at
fault. -/
theorem Statement.command_wellFormed {tokens : List Token} (h : ∀ t ∈ tokens, t.Proper) :
    Yields Statement.WellFormed (Statement.ofTokens.command tokens) := by
  have hline := Expr.group_wellFormed 0 h
  unfold Statement.ofTokens.command
  split
  next c heq =>
    rw [heq] at hline
    exact .ok (.call (hline _ List.mem_cons_self))
  next => exact .error _

/-- A line that is read as an assignment is well-formed, and so is any other statement, which is a
call. -/
theorem Statement.ofTokens_wellFormed {tokens : List Token} (h : ∀ t ∈ tokens, t.Proper) :
    Yields Statement.WellFormed (Statement.ofTokens tokens) := by
  have hproper : ∀ t ∈ Token.dropComments tokens, t.Proper :=
    fun t ht => h t (Token.mem_of_mem_dropComments ht)
  unfold Statement.ofTokens
  dsimp only
  split
  next target symbol source heq =>
    split
    next op hop =>
      split
      next => exact .error _
      next r hr =>
        split
        next => exact .error _
        next hsource =>
          -- the source is the end of the line behind its target and the symbol
          have hend : source <:+ Token.dropComments tokens := ⟨[target, symbol], heq.symm⟩
          obtain ⟨hnonempty, hregular⟩ := Expr.group_end hproper hend hsource
          have htarget := hproper target (by rw [heq]; exact List.mem_cons_self)
          exact .ok (.assign (Token.asTarget?_wellFormed htarget hr) hnonempty hregular)
    next => exact Statement.command_wellFormed hproper
  next => exact Statement.command_wellFormed hproper

/-- So is every form that a line can have: the condition of a block is the end of its line, behind
the keyword. -/
theorem LineForm.ofTokens_wellFormed {tokens : List Token} (h : ∀ t ∈ tokens, t.Proper) :
    Yields LineForm.WellFormed (LineForm.ofTokens tokens) := by
  have hproper : ∀ t ∈ Token.dropComments tokens, t.Proper :=
    fun t ht => h t (Token.mem_of_mem_dropComments ht)
  -- both kinds of blocks read their condition alike
  have hcondition : ∀ (kind : BlockKind) {keyword : Token} {condition : List Token},
      Token.dropComments tokens = keyword :: condition →
      Yields LineForm.WellFormed (LineForm.ofCondition kind condition) := by
    intro kind keyword condition heq
    unfold LineForm.ofCondition
    split
    · exact .error _
    · next hnonempty =>
      have hend : condition <:+ Token.dropComments tokens := ⟨[keyword], heq.symm⟩
      exact .ok (Expr.group_end hproper hend hnonempty)
  unfold LineForm.ofTokens
  split
  next => exact .ok trivial
  next condition heq => exact hcondition .ifThen heq
  next condition heq => exact hcondition .whileLoop heq
  next => exact .ok trivial
  next => exact (Statement.ofTokens_wellFormed hproper).map fun s hs => hs

/-- **A line that can be read** is well-formed: its tokens are proper, so their nodes are
well-formed, and what is missing for a statement is reported as a fault. -/
theorem LineForm.read_wellFormed (line : List Char) :
    Yields LineForm.WellFormed (LineForm.read line) :=
  (Token.lex_proper (Text.trim line)).bind fun _ h => LineForm.ofTokens_wellFormed h

/-! ### Scripts -/

mutual

/-- A statement is well-formed if the lines it is written as are. It goes down to the lines of its
block, to any depth. -/
theorem Statement.wellFormed_of_forms :
    ∀ s : Statement, (∀ form ∈ s.forms, form.WellFormed) → s.WellFormed
  | .ifThen condition block, h => by
    obtain ⟨hnonempty, hregular⟩ := h (.opening .ifThen condition) List.mem_cons_self
    exact .ifThen hnonempty hregular (block_wellFormed_of_forms block fun form hform =>
      h form (List.mem_cons_of_mem _ (List.mem_append_left _ hform)))
  | .whileLoop condition block, h => by
    obtain ⟨hnonempty, hregular⟩ := h (.opening .whileLoop condition) List.mem_cons_self
    exact .whileLoop hnonempty hregular (block_wellFormed_of_forms block fun form hform =>
      h form (List.mem_cons_of_mem _ (List.mem_append_left _ hform)))
  | .assign op target source, h => h (.statement (.assign op target source)) List.mem_cons_self
  | .call c, h => h (.statement (.call c)) List.mem_cons_self

/-- The same for the statements of a block, whose lines follow one another. The lines of each
statement are among those of the block. -/
theorem block_wellFormed_of_forms :
    ∀ block : List Statement, (∀ form ∈ blockForms block, form.WellFormed) →
      ∀ s ∈ block, s.WellFormed
  | [], _, _, hs => absurd hs List.not_mem_nil
  | s :: rest, h, s', hs' => by
    have hfirst := Statement.wellFormed_of_forms s fun form hform =>
      h form (List.mem_append_left _ hform)
    have hrest := block_wellFormed_of_forms rest fun form hform =>
      h form (List.mem_append_right _ hform)
    rcases List.mem_cons.1 hs' with rfl | hs'
    · exact hfirst
    · exact hrest s' hs'

end

/-- The lines of a script that has been compiled are lines that have been read. So what holds of
every line that is read holds of every line of the script. -/
theorem Script.forms_read {source : String} {script : Script}
    (h : Script.compile source = .ok script) {form : LineForm} (hform : form ∈ script.forms) :
    ∃ line ∈ Text.lines source.toList, LineForm.read line = .ok form := by
  rcases Script.compile_cases source rfl with
    ⟨a, hreads, hclosed, hcompile⟩ | ⟨a, -, -, hcompile⟩ | ⟨e, -, hcompile⟩
  · rw [hcompile] at h
    cases h
    have hkept : .ok form ∈ kept ((Text.lines source.toList).map LineForm.read) := by
      rw [← (hreads.forms_reverse hclosed).1]
      exact List.mem_map_of_mem hform
    obtain ⟨line, hline, hread⟩ := List.mem_map.1 (List.mem_filter.1 hkept).1
    exact ⟨line, hline, hread⟩
  · rw [hcompile] at h
    cases h
  · rw [hcompile] at h
    cases h

/-- **Compiled scripts are well-formed at every depth.** In a script that has been compiled, every
condition and every source of an assignment is non-empty, and every node, inside of indices, arrays,
lists and calls as well, is well-formed. An expression fails to compile exactly if its text cannot
be lexed, with the same problem. If it can, then its tokens are grouped, which always gives an
expression: at every level a well-formed one if the tokens are proper, and a call wherever it looks
for one. -/
theorem Script.compile_wellFormed (source : String) :
    (∀ script, Script.compile source = .ok script → Script.WellFormed script) ∧
    (∀ e, Expr.compile source = .error e ↔
      ∃ problem, Token.lex (Text.trim source.toList) = .error problem ∧ e = ⟨1, problem⟩) ∧
    (∀ expr, Expr.compile source = .ok expr ↔
      ∃ tokens, Token.lex (Text.trim source.toList) = .ok tokens ∧
        expr = Expr.group 1 (Token.dropComments tokens)) ∧
    (∀ level tokens, (∀ t ∈ tokens, Token.Proper t) →
      Expr.WellFormed (Expr.group level tokens)) ∧
    (∀ verb args, ∃ c, Verbcall.ofLine? (.word verb :: args) = some c ∧
      Node.callOf verb args = .call c ∧
      (¬ isReserved verb = true → Expr.asCommand (.word verb :: args) = [.call c])) := by
  refine ⟨fun script h => ?_, fun e => ?_, fun expr => ?_, fun level tokens h => ?_,
    fun verb args => ?_⟩
  · refine block_wellFormed_of_forms script fun form hform => ?_
    obtain ⟨line, -, hread⟩ := Script.forms_read h hform
    exact LineForm.read_wellFormed line form hread
  · unfold Expr.compile
    -- what can fail is the lexer, and grouping takes whatever it gives
    cases Token.lex (Text.trim source.toList) with
    | error problem =>
      change Except.error _ = _ ↔ _
      simp [eq_comm]
    | ok tokens =>
      change Except.ok _ = _ ↔ _
      simp
  · unfold Expr.compile
    cases Token.lex (Text.trim source.toList) with
    | error problem =>
      change Except.error _ = _ ↔ _
      simp
    | ok tokens =>
      change Except.ok _ = _ ↔ _
      simp [eq_comm]
  · exact Expr.group_wellFormed level h
  · obtain ⟨c, hline, -⟩ := Verbcall.ofLine?_word verb args
    exact ⟨c, hline, Node.callOf_eq hline, Expr.asCommand_eq hline⟩

/-- A block whose condition has a call with an index in it, and a statement with a preposition. -/
def picnic : Script :=
  let args : List Node := [.str "a", .reference ⟨.var, "b", some [.word "c"]⟩]
  [.ifThen [.call ⟨"max", some args, none, none, args⟩, .word "==", .named "d"]
    [.call ⟨"put", some [.word "apple"], some "in", some [.word "box"],
      [.word "apple", .word "in", .word "box"]⟩]]

/-- The text of the block, with a comment behind the condition. The condition has a call with a
reference in it, and its operator is a word like any other. -/
theorem picnic_wellFormed :
    Script.compile "if max('a' $b[c]) == ##d ; ripe\n  put apple in box\nend" = .ok picnic ∧
    Script.WellFormed picnic := by
  -- that the text compiles to this script is computed
  have hcompile :
      Script.compile "if max('a' $b[c]) == ##d ; ripe\n  put apple in box\nend" = .ok picnic := by
    decide +kernel
  exact ⟨hcompile, (Script.compile_wellFormed _).1 picnic hcompile⟩

end VerbScript
