import VerbScript.Script.Assembly

/-!
# The grammar of blocks

A script is written as the list of its lines: a block is its opening line, the lines of its
statements and an `end`. Compiling is the inverse of writing, and fails at the first line that
cannot be continued.

* `Statement.forms`, `Script.forms` — the lines of a script as it is written.
* `Balanced lines` — every line can be read, no `end` lacks a block, and no block lacks an `end`.
* `FirstFault lines e` — `e` reports the first line that cannot be read or is an `end` too much.
* `Assembly.Reads a lines` — the invariant: the half-built script `a` is written as the lines read
  so far, which are in order, and has as many open blocks as they leave open.

`Script.compile_grammar` says when compiling succeeds, with which script, and with which error it
fails.
-/

namespace VerbScript

/-! ### Writing scripts -/

mutual

/-- The lines of a statement: a block stands between its opening line and an `end`, and any other
statement is one line. -/
def Statement.forms : Statement → List LineForm
  | .ifThen condition block => .opening .ifThen condition :: (blockForms block ++ [.closing])
  | .whileLoop condition block => .opening .whileLoop condition :: (blockForms block ++ [.closing])
  | .assign op target source => [.statement (.assign op target source)]
  | .call c => [.statement (.call c)]

/-- The lines of the statements of a block, without the `end` behind them. -/
def blockForms : List Statement → List LineForm
  | [] => []
  | s :: rest => s.forms ++ blockForms rest

end

/-- The lines of a script, without blank lines and comments. A text with this script may have such
lines among them, but no others. -/
def Script.forms (script : Script) : List LineForm := blockForms script

/-- What is written for two lists of statements is one text behind the other. Statements do not
share lines. -/
theorem blockForms_append (a b : List Statement) :
    blockForms (a ++ b) = blockForms a ++ blockForms b := by
  induction a with
  | nil => rfl
  | cons s rest ih => rw [List.cons_append, blockForms, blockForms, ih, List.append_assoc]

/-- A block of one statement is written as the statement. -/
theorem blockForms_singleton (s : Statement) : blockForms [s] = s.forms := by
  rw [blockForms, blockForms, List.append_nil]

/-- A closed block of either kind is written in the same way. The kinds differ in their first line
only. -/
theorem BlockKind.forms_close (kind : BlockKind) (condition : Expr) (block : List Statement) :
    (kind.close condition block).forms
      = .opening kind condition :: (blockForms block ++ [.closing]) := by
  cases kind <;> rfl

/-- A statement that holds no block is a line of its own. The other statements begin with a line
that opens a block. -/
theorem Statement.forms_of_block? {s : Statement} (h : s.block? = none) :
    s.forms = [.statement s] := by
  cases s with
  | ifThen condition block => cases h
  | whileLoop condition block => cases h
  | assign op target source => rfl
  | call c => rfl

/-! ### Lines that have been read -/

/-- A line as it is read: its form, or what is wrong with it. Everything below is about lists of
these, so that texts play no part. -/
abbrev ReadLine := Except Problem LineForm

namespace ReadLine

/-- The line opens a block. -/
def isOpening : ReadLine → Bool
  | .ok (.opening ..) => true
  | _ => false

/-- The line closes a block. -/
def isClosing : ReadLine → Bool
  | .ok .closing => true
  | _ => false

/-- The line is blank or a comment, so nothing is built from it. -/
def isSkip : ReadLine → Bool
  | .ok .skip => true
  | _ => false

end ReadLine

/-- How many blocks the lines open. -/
def openings (lines : List ReadLine) : Nat := lines.countP ReadLine.isOpening

/-- How many blocks the lines close. -/
def closings (lines : List ReadLine) : Nat := lines.countP ReadLine.isClosing

/-- The lines that are neither blank nor a comment, in their order. A line that cannot be read is
kept. -/
def kept (lines : List ReadLine) : List ReadLine := lines.filter fun line => !line.isSkip

/-- Every line can be read, and no initial part closes more blocks than it opens. Blocks that are
still open do no harm. -/
structure Clean (lines : List ReadLine) : Prop where
  readable : ∀ line ∈ lines, ∃ form, line = .ok form
  covered : ∀ n, closings (lines.take n) ≤ openings (lines.take n)

/-- The lines are clean and close every block they open. These are the lines that scripts are
written as, with lines among them that are left out. -/
structure Balanced (lines : List ReadLine) : Prop extends Clean lines where
  even : openings lines = closings lines

/-- What is wrong with a line that follows clean ones: it cannot be read, or there is no block that
it could close. -/
inductive LineFault (before : List ReadLine) : ReadLine → Problem → Prop where
  | unreadable (problem : Problem) : LineFault before (.error problem) problem
  /-- All blocks that were opened have been closed before. -/
  | stray (closed : openings before = closings before) : LineFault before (.ok .closing) .strayEnd

/-- The error reports the first line that is at fault: the lines before it are clean, and it is the
line behind them. Lines are counted from one. -/
def FirstFault (lines : List ReadLine) (e : SyntaxError) : Prop :=
  ∃ before line after, lines = before ++ line :: after ∧ Clean before ∧
    LineFault before line e.problem ∧ e.line = before.length + 1

section Counting

variable {lines : List ReadLine} {line : ReadLine}

/-- Another line opens one more block or none. -/
theorem openings_concat : openings (lines ++ [line])
    = openings lines + if line.isOpening then 1 else 0 := by
  rw [openings, List.countP_append, List.countP_singleton, openings]

/-- Another line closes one more block or none. -/
theorem closings_concat : closings (lines ++ [line])
    = closings lines + if line.isClosing then 1 else 0 := by
  rw [closings, List.countP_append, List.countP_singleton, closings]

/-- Another line is kept unless it is skipped. Empty lines and comments are skipped, so a text can
be read back up to these only. -/
theorem kept_concat : kept (lines ++ [line])
    = kept lines ++ if line.isSkip then [] else [line] := by
  rw [kept, List.filter_append, kept]
  cases h : line.isSkip <;> simp [h]

/-- No lines are clean. -/
theorem Clean.nil : Clean [] := ⟨fun _ h => absurd h List.not_mem_nil, fun n => by simp [closings]⟩

/-- Clean lines stay clean when the next line can be read and, if it is an `end`, a block is
open. -/
theorem Clean.concat (h : Clean lines) {form : LineForm}
    (hopen : closings (lines ++ [.ok form]) ≤ openings (lines ++ [.ok form])) :
    Clean (lines ++ [.ok form]) := by
  refine ⟨fun line hline => ?_, fun n => ?_⟩
  · rcases List.mem_append.1 hline with hline | hline
    · exact h.readable line hline
    · exact ⟨form, List.mem_singleton.1 hline⟩
  · -- an initial part is one of the old lines, or all lines together
    by_cases hn : n ≤ lines.length
    · rw [List.take_append_of_le_length hn]
      exact h.covered n
    · rw [List.take_of_length_le (by rw [List.length_append, List.length_singleton]; omega)]
      exact hopen

/-- Clean lines have no line at fault. An unreadable one is not readable, and a stray `end` closes
one block more than the lines up to it have opened. -/
theorem FirstFault.not_clean {e : SyntaxError} (h : FirstFault lines e) : ¬ Clean lines := by
  rintro ⟨hreadable, hcovered⟩
  obtain ⟨before, line, after, rfl, -, hfault, -⟩ := h
  -- the initial part that ends with the line at fault is already not covered
  have htake : (before ++ line :: after).take (before.length + 1) = before ++ [line] := by
    rw [List.take_append, List.take_of_length_le (by omega)]
    simp
  have hnext := hcovered (before.length + 1)
  rw [htake, openings_concat, closings_concat] at hnext
  generalize e.problem = problem at hfault
  cases hfault with
  | unreadable =>
    obtain ⟨form, hform⟩ := hreadable (.error problem) (by simp)
    cases hform
  | stray closed =>
    -- an `end` behind lines that have closed all their blocks is one too many
    simp only [ReadLine.isClosing, ReadLine.isOpening, if_true, Bool.false_eq_true, if_false]
      at hnext
    omega

/-- The line of an error is a line of the text. Lines are counted from one. -/
theorem FirstFault.line_le {e : SyntaxError} (h : FirstFault lines e) :
    1 ≤ e.line ∧ e.line ≤ lines.length := by
  obtain ⟨before, line, after, rfl, -, -, hline⟩ := h
  rw [hline, List.length_append, List.length_cons]
  omega

end Counting

/-! ### Reading -/

/-- A verb call holds no block. Its groups are expressions, not statements. -/
theorem Statement.command_block? {tokens : List Token} {s : Statement}
    (h : Statement.ofTokens.command tokens = .ok s) : s.block? = none := by
  unfold Statement.ofTokens.command at h
  split at h
  · cases h
    rfl
  · cases h

/-- A line on its own is never a statement with a block. It is an assignment or a verb call,
whatever its tokens are. -/
theorem Statement.ofTokens_block? {tokens : List Token} {s : Statement}
    (h : Statement.ofTokens tokens = .ok s) : s.block? = none := by
  unfold Statement.ofTokens at h
  dsimp only at h
  -- an assignment, with its two ways of failing, or else a verb call
  split at h
  · split at h
    · split at h
      · cases h
      · split at h
        · cases h
        · cases h
          rfl
    · exact Statement.command_block? h
  · exact Statement.command_block? h

/-- The first line of a block is not a statement by itself. It becomes one with the lines up to its
`end`. -/
theorem LineForm.ofCondition_ne_statement (kind : BlockKind) (tokens : List Token)
    (s : Statement) : LineForm.ofCondition kind tokens ≠ .ok (.statement s) := by
  unfold LineForm.ofCondition
  split <;> exact nofun

/-- So no line is read as a statement with a block. Blocks come from assembling lines only, which is
why a statement that was read can be written as the one line it stood on. -/
theorem LineForm.read_block? {line : List Char} {s : Statement}
    (h : LineForm.read line = .ok (.statement s)) : s.block? = none := by
  unfold LineForm.read at h
  cases hlex : Token.lex (Text.trim line) with
  | error problem =>
    rw [hlex] at h
    cases h
  | ok tokens =>
    rw [hlex] at h
    change LineForm.ofTokens tokens = _ at h
    unfold LineForm.ofTokens at h
    -- an empty line, the two kinds of blocks, and an `end` are no statements; all others are
    split at h
    · cases h
    · exact absurd h (LineForm.ofCondition_ne_statement _ _ s)
    · exact absurd h (LineForm.ofCondition_ne_statement _ _ s)
    · cases h
    · cases hstatement : Statement.ofTokens (Token.dropComments tokens) with
      | error problem =>
        rw [hstatement] at h
        cases h
      | ok s' =>
        rw [hstatement] at h
        cases h
        exact Statement.ofTokens_block? hstatement

namespace Assembly

/-- The lines before the innermost open block and its opening line, for some open blocks. The
innermost one comes first in the list, and last in the text. -/
def enclosingForms : List (BlockKind × Expr × List Statement) → List LineForm
  | [] => []
  | (kind, condition, before) :: outer =>
    enclosingForms outer ++ blockForms before.reverse ++ [.opening kind condition]

/-- The lines of a half-built script: those around the innermost open block, and the statements that
have been read in it. -/
def forms (a : Assembly) : List LineForm :=
  enclosingForms a.enclosing ++ blockForms a.statements.reverse

/-- **The invariant of reading.** The half-built script is written as the lines that were kept, and
what is open in it is what the lines have opened and not closed. -/
structure Reads (a : Assembly) (lines : List ReadLine) : Prop where
  clean : Clean lines
  written : a.forms.map .ok = kept lines
  opened : closings lines + a.enclosing.length = openings lines

/-- Before the first line nothing has been built, and there is nothing to write. -/
theorem Reads.initial : initial.Reads [] := ⟨.nil, rfl, rfl⟩

variable {lines : List ReadLine} {a : Assembly}

/-- Only an `end` without an open block cannot be added. Every other line is a statement of the
innermost block, opens or closes a block, or is passed over. -/
theorem add_eq_error {form : LineForm} {problem : Problem} (h : a.add form = .error problem) :
    form = .closing ∧ a.enclosing = [] ∧ problem = .strayEnd := by
  unfold add at h
  cases form with
  | skip => cases h
  | opening kind condition => cases h
  | statement s => cases h
  | closing =>
    cases hopen : a.enclosing with
    | nil =>
      rw [hopen] at h
      cases h
      exact ⟨rfl, rfl, rfl⟩
    | cons block outer =>
      rw [hopen] at h
      cases h

/-- **Adding a line** writes it at the end of the half-built script. The cases are the forms: an
opening line begins a block, an `end` closes it, and a statement joins the innermost one. -/
theorem Reads.add (h : a.Reads lines) {form : LineForm}
    (hplain : ∀ s, form = .statement s → s.block? = none) {b : Assembly}
    (hadd : a.add form = .ok b) : b.Reads (lines ++ [.ok form]) := by
  -- it is enough to know the lines of `b` and how many blocks are open in it
  have hreads : b.forms = a.forms ++ (if ReadLine.isSkip (.ok form) then [] else [form]) →
      b.enclosing.length + (if ReadLine.isClosing (.ok form) then 1 else 0)
        = a.enclosing.length + (if ReadLine.isOpening (.ok form) then 1 else 0) →
      b.Reads (lines ++ [.ok form]) := by
    intro hforms hopen
    have hcount := h.opened
    have hbalance : closings (lines ++ [.ok form]) + b.enclosing.length
        = openings (lines ++ [.ok form]) := by
      rw [openings_concat, closings_concat]
      omega
    refine ⟨h.clean.concat (by omega), ?_, hbalance⟩
    rw [hforms, List.map_append, h.written, kept_concat]
    cases ReadLine.isSkip (.ok form) <;> rfl
  obtain ⟨statements, enclosing⟩ := a
  cases form with
  | skip =>
    cases hadd
    exact hreads (by simp [ReadLine.isSkip]) rfl
  | opening kind condition =>
    cases hadd
    refine hreads ?_ rfl
    simp [forms, enclosingForms, blockForms, ReadLine.isSkip]
  | statement s =>
    cases hadd
    refine hreads ?_ rfl
    have hs : blockForms [s] = [.statement s] := by
      rw [blockForms_singleton, Statement.forms_of_block? (hplain s rfl)]
    simp [forms, blockForms_append, hs, ReadLine.isSkip]
  | closing =>
    cases enclosing with
    | nil => cases hadd
    | cons block outer =>
      obtain ⟨kind, condition, before⟩ := block
      cases hadd
      refine hreads ?_ rfl
      -- the closed block is the opening line, its statements and the `end`
      have hblock : blockForms [kind.close condition statements.reverse]
          = .opening kind condition :: (blockForms statements.reverse ++ [.closing]) := by
        rw [blockForms_singleton, BlockKind.forms_close]
      simp [forms, enclosingForms, blockForms_append, hblock, ReadLine.isSkip]

/-- **Adding lines** reads them all, or stops at the first that is at fault. The induction is on the
lines that are still to come, while the lines read so far grow. -/
theorem Reads.addLines (h : a.Reads lines) (rest : List (List Char)) :
    (∃ b, a.addLines (lines.length + 1) rest = .ok b ∧
      b.Reads (lines ++ rest.map LineForm.read)) ∨
    (∃ e, a.addLines (lines.length + 1) rest = .error e ∧
      FirstFault (lines ++ rest.map LineForm.read) e) := by
  induction rest generalizing lines a with
  | nil =>
    rw [List.map_nil, List.append_nil]
    exact .inl ⟨a, rfl, h⟩
  | cons line rest ih =>
    rw [List.map_cons, Assembly.addLines]
    cases hread : LineForm.read line with
    -- the line cannot be read
    | error problem =>
      exact .inr ⟨⟨lines.length + 1, problem⟩, rfl, lines, _, _, rfl, h.clean, .unreadable _, rfl⟩
    | ok form =>
      change (∃ b, (atLine (lines.length + 1) (a.add form)).bind _ = .ok b ∧ _) ∨
        (∃ e, (atLine (lines.length + 1) (a.add form)).bind _ = .error e ∧ _)
      cases hadd : a.add form with
      | error problem =>
        -- only an `end` can be refused, and then the lines before it have closed all their blocks
        obtain ⟨rfl, hopen, rfl⟩ := add_eq_error hadd
        have hclosed := h.opened
        rw [hopen, List.length_nil, Nat.add_zero] at hclosed
        exact .inr ⟨⟨lines.length + 1, .strayEnd⟩, rfl, lines, _, _, rfl, h.clean,
          .stray hclosed.symm, rfl⟩
      | ok b =>
        -- the line has been added, and the rest follows the longer lines
        have hb : b.Reads (lines ++ [.ok form]) := by
          refine h.add (fun s hs => ?_) hadd
          subst hs
          exact LineForm.read_block? hread
        have hrest := ih hb
        rw [List.length_append, List.length_singleton, List.append_assoc,
          List.singleton_append] at hrest
        exact hrest

/-! ### Scripts are determined by their lines -/

/-- Adds forms one after the other. It is what adding lines does to those that can be read, without
their numbers. -/
def addForms (a : Assembly) (forms : List LineForm) : Except Problem Assembly := forms.foldlM add a

/-- Lines that follow one another are added one after the other. -/
theorem addForms_append (a : Assembly) (l₁ l₂ : List LineForm) :
    a.addForms (l₁ ++ l₂) = (a.addForms l₁).bind (·.addForms l₂) := List.foldlM_append

/-- A block whose lines add its statements is added as one statement. This is the case of the
induction over statements in which they have a block; the assumption is the one for the block. -/
theorem addForms_close (a : Assembly) (kind : BlockKind) (condition : Expr)
    {block : List Statement}
    (hblock : addForms ⟨[], (kind, condition, a.statements) :: a.enclosing⟩ (blockForms block) =
      .ok ⟨block.reverse ++ [], (kind, condition, a.statements) :: a.enclosing⟩) :
    a.addForms (.opening kind condition :: (blockForms block ++ [.closing])) =
      .ok { a with statements := kind.close condition block :: a.statements } := by
  -- the opening line puts the block aside, the statements are added inside, and the `end` takes
  -- them out again
  change Assembly.addForms ⟨[], _⟩ (blockForms block ++ [.closing]) = _
  rw [addForms_append, hblock, List.append_nil]
  change Except.ok (Assembly.mk
    (kind.close condition block.reverse.reverse :: a.statements) a.enclosing) = _
  rw [List.reverse_reverse]

mutual

/-- The lines of a statement add this statement. With the next theorem, this is an induction on how
blocks are nested. -/
theorem addForms_statement (a : Assembly) :
    ∀ s : Statement, a.addForms s.forms = .ok { a with statements := s :: a.statements }
  | .assign _ _ _ => rfl
  | .call _ => rfl
  | .ifThen condition block => addForms_close a .ifThen condition (addForms_block _ block)
  | .whileLoop condition block => addForms_close a .whileLoop condition (addForms_block _ block)

/-- The lines of some statements add these statements. They are added in front, as the statements of
a half-built script are listed from the last to the first. -/
theorem addForms_block (a : Assembly) :
    ∀ block : List Statement,
      a.addForms (blockForms block) = .ok { a with statements := block.reverse ++ a.statements }
  | [] => rfl
  | s :: rest => by
    rw [blockForms, addForms_append, addForms_statement a s]
    change Assembly.addForms _ _ = _
    rw [addForms_block _ rest, List.reverse_cons, List.append_assoc]
    rfl

end

end Assembly

/-- **Scripts with the same lines are the same**, since building them from their lines gives them
back. -/
theorem Script.forms_injective {a b : Script} (h : a.forms = b.forms) : a = b := by
  have ha := Assembly.initial.addForms_block a
  have hb := Assembly.initial.addForms_block b
  rw [show blockForms a = blockForms b from h, hb] at ha
  have heq : b.reverse ++ [] = a.reverse ++ [] := congrArg Assembly.statements (Except.ok.inj ha)
  rw [List.append_nil, List.append_nil] at heq
  exact (List.reverse_inj.1 heq).symm

/-! ### Compiling -/

/-- The three ways compiling can end: all blocks are closed, some are open, or a line is at
fault. -/
theorem Script.compile_cases (source : String) {lines : List ReadLine}
    (hlines : (Text.lines source.toList).map LineForm.read = lines) :
    (∃ a : Assembly, a.Reads lines ∧ a.enclosing = [] ∧
      Script.compile source = .ok a.statements.reverse) ∨
    (∃ a : Assembly, a.Reads lines ∧ a.enclosing ≠ [] ∧
      Script.compile source = .error ⟨lines.length, .openBlocks a.enclosing.length⟩) ∨
    (∃ e, FirstFault lines e ∧ Script.compile source = .error e) := by
  have hlength : (Text.lines source.toList).length = lines.length := by
    rw [← hlines, List.length_map]
  have hcompile : Script.compile source
      = (Assembly.initial.addLines 1 (Text.lines source.toList)).bind fun a =>
          if a.enclosing.isEmpty then .ok a.statements.reverse
          else .error ⟨(Text.lines source.toList).length, .openBlocks a.enclosing.length⟩ := rfl
  rcases Assembly.Reads.initial.addLines (Text.lines source.toList) with
    ⟨a, hadd, hreads⟩ | ⟨e, hadd, hfault⟩
  · rw [List.nil_append, hlines] at hreads
    rw [hcompile, show Assembly.initial.addLines 1 _ = .ok a from hadd, hlength]
    -- all lines have been read, so what is left to look at is the open blocks
    by_cases hopen : a.enclosing = []
    · refine .inl ⟨a, hreads, hopen, ?_⟩
      change (if a.enclosing.isEmpty then _ else _) = _
      rw [hopen]
      rfl
    · refine .inr (.inl ⟨a, hreads, hopen, ?_⟩)
      change (if a.enclosing.isEmpty then _ else _) = _
      rw [if_neg (by rwa [List.isEmpty_iff])]
  · rw [List.nil_append, hlines] at hfault
    refine .inr (.inr ⟨e, hfault, ?_⟩)
    rw [hcompile, show Assembly.initial.addLines 1 _ = .error e from hadd]
    rfl

/-- A half-built script without open blocks is the one script that is written as the lines read. It
is the only one as no two scripts are written the same. -/
theorem Assembly.Reads.forms_reverse {lines : List ReadLine} {a : Assembly} (h : a.Reads lines)
    (hclosed : a.enclosing = []) :
    (Script.forms a.statements.reverse).map .ok = kept lines ∧
      ∀ other : Script, other.forms.map .ok = kept lines → other = a.statements.reverse := by
  -- without open blocks, the statements are all there is to write
  have hforms : Script.forms a.statements.reverse = a.forms := by
    rw [Assembly.forms, hclosed]
    rfl
  have hwritten : (Script.forms a.statements.reverse).map .ok = kept lines := by
    rw [hforms]
    exact h.written
  have hinj : ∀ x y : LineForm, (Except.ok x : ReadLine) = .ok y → x = y := fun _ _ => Except.ok.inj
  refine ⟨hwritten, fun other hother => Script.forms_injective ?_⟩
  exact (List.map_inj_right hinj).1 (hother.trans hwritten.symm)

/-- **Compiling reads exactly the grammar of blocks.** A text compiles if and only if its lines are
balanced. The script is then the one that is written as these lines, blank lines and comments left
out. Otherwise the error reports the first line that cannot be read or is an `end` without an open
block; and if there is none, it reports at the last line how many blocks are open. The line of an
error is always a line of the text. -/
theorem Script.compile_grammar (source : String) :
    let lines := (Text.lines source.toList).map LineForm.read
    ((∃ script, Script.compile source = .ok script) ↔ Balanced lines) ∧
    (∀ script, Script.compile source = .ok script →
      script.forms.map .ok = kept lines ∧
      ∀ other : Script, other.forms.map .ok = kept lines → other = script) ∧
    (∀ e, Script.compile source = .error e →
      (FirstFault lines e ∨
        (Clean lines ∧ closings lines < openings lines ∧ e.line = lines.length ∧
          e.problem = .openBlocks (openings lines - closings lines))) ∧
      1 ≤ e.line ∧ e.line ≤ lines.length) := by
  intro lines
  have hlines : (Text.lines source.toList).map LineForm.read = lines := rfl
  rcases Script.compile_cases source hlines with
    ⟨a, hreads, hclosed, hcompile⟩ | ⟨a, hreads, hopen, hcompile⟩ | ⟨e, hfault, hcompile⟩
  · have hcount := hreads.opened
    rw [hclosed, List.length_nil, Nat.add_zero] at hcount
    rw [hcompile]
    refine ⟨⟨fun _ => ⟨hreads.clean, hcount.symm⟩, fun _ => ⟨_, rfl⟩⟩, ?_, nofun⟩
    rintro script ⟨⟩
    exact hreads.forms_reverse hclosed
  · -- there is an open block, so there is a line that has opened it
    have hcount := hreads.opened
    have hpos : 0 < a.enclosing.length := List.length_pos_iff.2 hopen
    have hle : openings lines ≤ lines.length := List.countP_le_length
    rw [hcompile]
    refine ⟨⟨?_, fun hbalanced => ?_⟩, nofun, ?_⟩
    · rintro ⟨script, ⟨⟩⟩
    · -- balanced lines leave no block open
      have heven := hbalanced.even
      omega
    · rintro e ⟨⟩
      have hblocks : a.enclosing.length = openings lines - closings lines := by omega
      refine ⟨.inr ⟨hreads.clean, by omega, rfl, by rw [hblocks]⟩, ?_, Nat.le_refl _⟩
      change 1 ≤ lines.length
      omega
  · rw [hcompile]
    refine ⟨⟨?_, fun hbalanced => absurd hbalanced.toClean hfault.not_clean⟩, nofun, ?_⟩
    · rintro ⟨script, ⟨⟩⟩
    · rintro e' ⟨⟩
      exact ⟨.inl hfault, hfault.line_le⟩

end VerbScript
