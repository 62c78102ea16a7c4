import Mathlib.Data.List.TakeWhile
import VerbScript.Proofs.VerbLines
import VerbScript.Proofs.WellFormedScripts

/-!
# Two spellings of a call

`put apple in box` and `put(apple in box)` are one statement. The first is a whole line, which is
read as a call because it begins with a word; in the second the word is followed by a group, which
makes a call one bracket deeper. That both read their arguments alike is due to the brackets: a line
is read as a call at level 0 only, and all arguments, of a command as of a call, stand in brackets
or have their own brackets deeper than that.

* `Expr.groupAt` — grouping by a reader who counts at every bracket how deep it stands.
* `Node.groupingAt_eq`, `Expr.group_eq_groupAt` — he reads what `Expr.group` reads, and to him all
  levels but the first are alike.
* `Node.ofTokens_append_comments` — comments at the end of a line leave nothing behind.
* `Statement.command_eq_call` — the two spellings.
-/

namespace VerbScript

/-! ### Grouping with levels -/

/-- What a reader makes of the nodes of a whole bracket at a level: a call of the line, if they are
a whole line. Only there is a word at the beginning a verb. -/
def Expr.commandAt (level : Nat) (nodes : Expr) : Expr :=
  if level = 0 then Expr.asCommand nodes else nodes

mutual

/-- The nodes of tokens at a level; what stands inside a bracket is read at the next level. Here the
level is a parameter that is handed down through all brackets. -/
def Node.ofTokensAt (level : Nat) : List Token → List Node
  | [] => []
  | .comment _ :: rest => Node.ofTokensAt level rest
  | .word verb :: .group args :: rest =>
    if isReserved verb then
      .word verb :: .list (Expr.commandAt (level + 1) (Node.ofTokensAt (level + 1) args)) ::
        Node.ofTokensAt level rest
    else
      Node.callOf verb (Expr.commandAt (level + 1) (Node.ofTokensAt (level + 1) args)) ::
        Node.ofTokensAt level rest
  | t :: rest => Node.ofTokenAt level t :: Node.ofTokensAt level rest

/-- The node of a token that stands alone at a level. What stands in its brackets is read at the
next level. -/
def Node.ofTokenAt (level : Nat) : Token → Node
  | .str text => .str text
  | .number n => .number n
  | .bool b => .bool b
  | .null => .null
  | .word text => .word text
  | .reference sigil name index => .reference ⟨sigil, name, Node.ofIndexAt level index⟩
  | .object id => .object id
  | .named name => .named name
  | .comment _ => .null
  | .array items => .array (Expr.commandAt (level + 1) (Node.ofTokensAt (level + 1) items))
  | .group items => .list (Expr.commandAt (level + 1) (Node.ofTokensAt (level + 1) items))

/-- The expression of an index at a level, which is read like a bracket. -/
def Node.ofIndexAt (level : Nat) : Option (List Token) → Option (List Node)
  | none => none
  | some tokens => some (Expr.commandAt (level + 1) (Node.ofTokensAt (level + 1) tokens))

end

/-- **The expression of a token list at a level**, where every bracket is one level deeper than what
it stands in. -/
def Expr.groupAt (level : Nat) (tokens : List Token) : Expr :=
  Expr.commandAt level (Node.ofTokensAt level tokens)

/-- Inside a bracket nothing is read as a call of the line. -/
theorem Expr.commandAt_succ (level : Nat) (nodes : Expr) :
    Expr.commandAt (level + 1) nodes = nodes :=
  if_neg (Nat.succ_ne_zero level)

/-- **Levels do not change what is inside.** The induction is on the brackets: of what stands in a
bracket, which the reader of levels reads one level deeper, the hypothesis holds at that level. -/
theorem Node.groupingAt_eq :
    (∀ (tokens : List Token) (level : Nat), Node.ofTokensAt level tokens = Node.ofTokens tokens) ∧
    (∀ (t : Token) (level : Nat), Node.ofTokenAt level t = Node.ofToken t) ∧
    (∀ (index : Option (List Token)) (level : Nat),
      Node.ofIndexAt level index = Node.ofIndex index) := by
  -- a bracket is read one level deeper, where nothing is read as a call of the line
  have hbracket : ∀ {tokens : List Token},
      (∀ level, Node.ofTokensAt level tokens = Node.ofTokens tokens) → ∀ level,
      Expr.commandAt (level + 1) (Node.ofTokensAt (level + 1) tokens) = Node.ofTokens tokens := by
    intro tokens ih level
    rw [Expr.commandAt_succ, ih (level + 1)]
  apply Node.ofTokens.mutual_induct
  -- tokens that stand alone; a reference, an array and a group hold brackets
  case case1 | case2 | case3 | case4 | case5 | case7 | case8 | case9 =>
    intros
    rw [Node.ofTokenAt, Node.ofToken]
  case case6 =>
    intro sigil name index ih level
    rw [Node.ofTokenAt, Node.ofToken, ih level]
  case case10 =>
    intro items ih level
    rw [Node.ofTokenAt, Node.ofToken, hbracket ih]
  case case11 =>
    intro items ih level
    rw [Node.ofTokenAt, Node.ofToken, hbracket ih]
  -- the tokens of an index
  case case12 => exact fun level => by rw [Node.ofIndexAt, Node.ofIndex]
  case case13 =>
    intro tokens ih level
    rw [Node.ofIndexAt, Node.ofIndex, hbracket ih]
  -- tokens in a row: a comment, an operator before a group, a call, and all others
  case case14 => exact fun level => by rw [Node.ofTokensAt, Node.ofTokens]
  case case15 =>
    intro text rest ih level
    rw [Node.ofTokensAt, Node.ofTokens, ih level]
  case case16 =>
    intro verb args rest hreserved ihargs ihrest level
    rw [Node.ofTokensAt, Node.ofTokens, if_pos hreserved, if_pos hreserved, hbracket ihargs,
      ihrest level]
  case case17 =>
    intro verb args rest hplain ihargs ihrest level
    rw [Node.ofTokensAt, Node.ofTokens, if_neg hplain, if_neg hplain, hbracket ihargs,
      ihrest level]
  case case18 =>
    intro t rest hcomment hcall iht ihrest level
    rw [Node.ofTokensAt.eq_4 level t rest hcomment hcall, Node.ofTokens.eq_4 t rest hcomment hcall,
      iht level, ihrest level]

/-- Grouping reads what the reader of levels reads. -/
theorem Expr.group_eq_groupAt (level : Nat) (tokens : List Token) :
    Expr.group level tokens = Expr.groupAt level tokens := by
  unfold Expr.groupAt Expr.commandAt
  rw [Node.groupingAt_eq.1 tokens level]
  rfl

/-- Below the line itself all levels are alike. -/
theorem Expr.groupAt_inside {level : Nat} (h : 1 ≤ level) (tokens : List Token) :
    Expr.groupAt level tokens = Node.ofTokens tokens := by
  rw [← Expr.group_eq_groupAt]
  exact if_neg (Nat.ne_zero_of_lt h)

/-! ### Comments at the end -/

/-- **Induction over tokens in a row**, along the cases of grouping: a comment, a word before a
group, and all others. A word before a group takes both tokens at once, which induction on the list
would not. -/
theorem Token.rowInduction {motive : List Token → Prop} (nil : motive [])
    (comment : ∀ text rest, motive rest → motive (.comment text :: rest))
    (applied : ∀ verb args rest, motive rest → motive (.word verb :: .group args :: rest))
    (alone : ∀ t rest, (∀ text, t ≠ .comment text) →
      (∀ verb args rest', t = .word verb → rest ≠ .group args :: rest') →
      motive rest → motive (t :: rest)) (tokens : List Token) : motive tokens := by
  -- the tokens inside brackets play no part
  apply Node.ofTokens.induct motive (fun _ => True) (fun _ => True)
  case case14 => exact nil
  case case15 => exact comment
  case case16 => exact fun verb args rest _ _ ih => applied verb args rest ih
  case case17 => exact fun verb args rest _ _ ih => applied verb args rest ih
  case case18 => exact fun t rest hcomment hcall _ ih => alone t rest hcomment hcall ih
  all_goals intros; trivial

/-- What is cut from the end of a line are comments. -/
theorem Token.dropComments_append (tokens : List Token) :
    ∃ comments, (∀ t ∈ comments, t.isComment = true) ∧
      tokens = Token.dropComments tokens ++ comments := by
  refine ⟨(tokens.reverse.takeWhile Token.isComment).reverse, fun t ht => ?_, ?_⟩
  · exact List.mem_takeWhile_imp (List.mem_reverse.1 ht)
  · unfold Token.dropComments
    rw [← List.reverse_append, List.takeWhile_append_dropWhile, List.reverse_reverse]

/-- A line whose first token is no comment keeps it. Comments are dropped from the end of the line
only, up to the last token that is none. -/
theorem Token.dropComments_cons {t : Token} (h : t.isComment = false) (rest : List Token) :
    Token.dropComments (t :: rest) = t :: Token.dropComments rest := by
  unfold Token.dropComments
  rw [List.reverse_cons, List.dropWhile_append]
  split
  next hnil =>
    rw [List.isEmpty_iff.1 hnil, List.dropWhile_cons_of_neg (by simp [h])]
    rfl
  next => rw [List.reverse_append]; rfl

/-- Comments leave nothing behind. So it does not matter for the nodes of a line if its comments
have been dropped before. -/
theorem Node.ofTokens_comments {comments : List Token}
    (h : ∀ t ∈ comments, t.isComment = true) : Node.ofTokens comments = [] := by
  induction comments with
  | nil => rw [Node.ofTokens]
  | cons t rest ih =>
    have ht : t.isComment = true := h t List.mem_cons_self
    cases t with
    | comment text =>
      rw [Node.ofTokens]
      exact ih fun t' ht' => h t' (List.mem_cons_of_mem _ ht')
    | _ => cases ht

/-- **Comments at the end of a line** leave nothing behind, since no comment is the group that would
make a call of the word before it. -/
theorem Node.ofTokens_append_comments {comments : List Token}
    (h : ∀ t ∈ comments, t.isComment = true) (tokens : List Token) :
    Node.ofTokens (tokens ++ comments) = Node.ofTokens tokens := by
  -- a group is no comment
  have hgroup : ∀ args rest, comments ≠ .group args :: rest := by
    rintro args rest rfl
    cases h _ List.mem_cons_self
  induction tokens using Token.rowInduction with
  | nil => rw [List.nil_append, Node.ofTokens_comments h, Node.ofTokens]
  | comment text rest ih => rw [List.cons_append, Node.ofTokens, Node.ofTokens, ih]
  | applied verb args rest ih =>
    rw [List.cons_append, List.cons_append, Node.ofTokens, Node.ofTokens, ih]
  | alone t rest hcomment hcall ih =>
    -- a group behind the token was there before, or it would be a comment
    have hcall' : ∀ verb args rest', t = .word verb → rest ++ comments ≠ .group args :: rest' := by
      intro verb args rest' ht heq
      cases rest with
      | nil => exact hgroup args rest' heq
      | cons first rest =>
        cases (List.cons.inj heq).1
        exact hcall verb args rest ht rfl
    rw [List.cons_append, Node.ofTokens.eq_4 t _ hcomment hcall',
      Node.ofTokens.eq_4 t _ hcomment hcall, ih]

/-- A line is grouped into the same with and without the comments at its end. -/
theorem Expr.group_dropComments (level : Nat) (tokens : List Token) :
    Expr.group level (Token.dropComments tokens) = Expr.group level tokens := by
  obtain ⟨comments, hcomments, heq⟩ := Token.dropComments_append tokens
  have hnodes : Node.ofTokens tokens = Node.ofTokens (Token.dropComments tokens) := by
    -- only the left line is to be taken apart
    conv_lhs => rw [heq]
    exact Node.ofTokens_append_comments hcomments _
  unfold Expr.group
  rw [hnodes]

/-! ### The two spellings -/

/-- A line that begins with a word is a command if no assignment symbol follows. Only the second
token decides this, whatever the rest of the line is. -/
theorem Statement.ofTokens_command (verb : String) {args : List Token}
    (h : ∀ symbol rest, args = .word symbol :: rest → AssignOp.ofWord? symbol = none) :
    Statement.ofTokens (.word verb :: args) =
      Statement.ofTokens.command (Token.dropComments (.word verb :: args)) := by
  obtain ⟨comments, -, heq⟩ := Token.dropComments_append args
  unfold Statement.ofTokens
  rw [Token.dropComments_cons rfl]
  cases hargs : Token.dropComments args with
  | nil => rfl
  | cons symbol source =>
    -- comments at the end do not change what the second token is
    have hsymbol : symbol.asWord?.bind AssignOp.ofWord? = none := by
      cases symbol with
      | word text =>
        rw [hargs] at heq
        exact h text (source ++ comments) heq
      | _ => rfl
    simp only [hsymbol]

/-- The statement of a line that is grouped into a call. -/
theorem Statement.command_of_call {tokens : List Token} {c : Verbcall Node}
    (h : Expr.group 0 tokens = [.call c]) : Statement.ofTokens.command tokens = .ok (.call c) := by
  unfold Statement.ofTokens.command
  rw [h]

/-- A word that is not reserved, followed by a group, is the call of the line of both. The call is
the only node of the line, so it stands at every level without a list around it. -/
theorem Expr.group_applied {verb : String} (hplain : ¬ isReserved verb = true) (level : Nat)
    {args : List Token} {c : Verbcall Node}
    (hline : Verbcall.ofLine? (.word verb :: Node.ofTokens args) = some c) :
    Expr.group level [.word verb, .group args] = [.call c] := by
  have hnodes : Node.ofTokens [.word verb, .group args] = [.call c] := by
    rw [Node.ofTokens, if_neg hplain, Node.callOf_eq hline, Node.ofTokens]
  unfold Expr.group
  rw [hnodes]
  exact ite_self _

/-- A whole line that begins with a word which is not reserved, and not followed by a group, is the
call of this line. -/
theorem Expr.group_command {verb : String} (hplain : ¬ isReserved verb = true) {args : List Token}
    (hgroup : ∀ inside rest, args ≠ .group inside :: rest) {c : Verbcall Node}
    (hline : Verbcall.ofLine? (.word verb :: Node.ofTokens args) = some c) :
    Expr.group 0 (.word verb :: args) = [.call c] := by
  have hcomment : ∀ text, Token.word verb ≠ .comment text := by
    intro text heq
    cases heq
  have hnodes : Node.ofTokens (.word verb :: args) = .word verb :: Node.ofTokens args := by
    rw [Node.ofTokens.eq_4 (.word verb) args hcomment fun _ inside rest _ => hgroup inside rest,
      Node.ofToken]
  unfold Expr.group
  rw [hnodes]
  exact Expr.asCommand_eq hline hplain

/-- **Command syntax and call syntax agree.** A line of a word that is not reserved and of arguments
that begin with no group and no assignment symbol is the same statement as the word applied to a
group of these arguments: the call that the line of the word and its grouped arguments is cut into,
which there always is. For a bracket is grouped alike at all levels but that of a whole line: so
groups a reader who counts the brackets, and he reads what `Expr.group` reads. -/
theorem Statement.command_eq_call :
    (∀ verb args, isReserved verb = false →
      (∀ inside rest, args ≠ Token.group inside :: rest) →
      (∀ symbol rest, args = Token.word symbol :: rest → AssignOp.ofWord? symbol = none) →
      ∃ c, Verbcall.ofLine? (.word verb :: Node.ofTokens args) = some c ∧
        Statement.ofTokens (.word verb :: args) = .ok (.call c) ∧
        Statement.ofTokens [.word verb, .group args] = .ok (.call c)) ∧
    (∀ level tokens, Expr.group level tokens = Expr.groupAt level tokens) ∧
    (∀ level level' tokens, 1 ≤ level → 1 ≤ level' →
      Expr.groupAt level tokens = Expr.groupAt level' tokens ∧
      Expr.group level tokens = Expr.group level' tokens) := by
  refine ⟨fun verb args hreserved hgroup hassign => ?_, Expr.group_eq_groupAt,
    fun level level' tokens h h' => ?_⟩
  · -- both lines are grouped into the call that the first one is cut into
    have hplain : ¬ isReserved verb = true := by
      rw [hreserved]
      exact Bool.false_ne_true
    have hline := Verbcall.ofLine?_eq verb (Node.ofTokens args)
    refine ⟨Verbcall.cut verb (Node.ofTokens args), hline, ?_, ?_⟩
    · rw [Statement.ofTokens_command verb hassign]
      refine Statement.command_of_call ?_
      -- the comments at the end of the line may stay
      rw [Expr.group_dropComments]
      exact Expr.group_command hplain hgroup hline
    · rw [Statement.ofTokens_command verb (by rintro symbol rest ⟨⟩)]
      exact Statement.command_of_call (Expr.group_applied hplain 0 hline)
  · -- at levels other than that of the line, the nodes of the tokens are all there is
    simp only [Expr.group_eq_groupAt, Expr.groupAt_inside h, Expr.groupAt_inside h', and_self]

/-- `put apple in pick([1 2]) ; soon` and `put(apple in pick([1 2]) ; soon)`. -/
theorem put_spelled_twice :
    let args : List Token := [.word "apple", .word "in", .word "pick",
      .group [.array [.number (.ofNat 1), .number (.ofNat 2)]], .comment "soon"]
    isReserved "put" = false ∧
    ∃ c, Verbcall.ofLine? (.word "put" :: Node.ofTokens args) = some c ∧
      Statement.ofTokens (.word "put" :: args) = .ok (.call c) ∧
      Statement.ofTokens [.word "put", .group args] = .ok (.call c) :=
  ⟨by decide, Statement.command_eq_call.1 "put" _ (by decide) nofun (by
    rintro symbol rest ⟨⟩
    decide)⟩

end VerbScript
