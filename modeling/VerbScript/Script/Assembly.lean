import VerbScript.Expr.Grouping
import VerbScript.Script.Basic
import VerbScript.Text.Lines
import VerbScript.Token.Lexer

/-!
# From source text to scripts

Each line is read on its own: `LineForm.read` says whether it opens a block, ends one, is a
statement or is skipped. `Script.compile` then nests the lines: an `if` or `while` collects the
statements up to the `end` that belongs to it. The first problem in the order of the lines is
reported, and blocks still open at the end are reported at the last line.
-/

namespace VerbScript

/-- The statements that hold a block, which differ only in what is done after the block. -/
inductive BlockKind where
  | ifThen
  | whileLoop
deriving DecidableEq

namespace BlockKind

/-- The word that begins a block. -/
def keyword : BlockKind → String
  | ifThen => "if"
  | whileLoop => "while"

/-- The statement of a finished block. The block may be empty. -/
def close : BlockKind → Expr → List Statement → Statement
  | ifThen, condition, block => .ifThen condition block
  | whileLoop, condition, block => .whileLoop condition block

end BlockKind

/-- The reference a token assigns to. Only variables and properties can be assigned to, with an
index or without. -/
def Token.asTarget? : Token → Option (Reference Node)
  | .reference sigil name index => some ⟨sigil, name, Node.ofIndex index⟩
  | _ => none

/-- The statement of one line that opens and ends no block: an assignment if the second token is an
assignment symbol, and otherwise a verb call. The symbol decides, so what stands before it is then
wrong rather than a verb. -/
def Statement.ofTokens (tokens : List Token) : Except Problem Statement :=
  let tokens := Token.dropComments tokens
  match tokens with
  | target :: symbol :: source =>
    match symbol.asWord?.bind AssignOp.ofWord? with
    | some op =>
      match target.asTarget? with
      | none => .error .unassignable
      | some target =>
        if source.isEmpty then .error .oneSidedAssignment
        else .ok (.assign op target (Expr.group 1 source))
    | none => command tokens
  | _ => command tokens
where
  /-- The verb call of a line. -/
  command (tokens : List Token) : Except Problem Statement :=
    match Expr.group 0 tokens with
    | [.call c] => .ok (.call c)
    | _ => .error (.notStatement ((tokens.head?.map Token.name).getD "nothing"))

/-- What a line contributes to a script. Lines are classified one by one, before they are nested. -/
inductive LineForm where
  /-- A blank line or a comment. -/
  | skip
  /-- The beginning of a block. -/
  | opening (kind : BlockKind) (condition : Expr)
  /-- The end of a block. -/
  | closing
  | statement (s : Statement)

namespace LineForm

/-- The form of a line that begins with the keyword of a block. The condition is grouped like the
inside of a bracket, so it is not read as a command. -/
def ofCondition (kind : BlockKind) (tokens : List Token) : Except Problem LineForm :=
  if tokens.isEmpty then .error (.missingCondition kind.keyword)
  else .ok (.opening kind (Expr.group 1 tokens))

/-- The form of a line with the given tokens. Only the first token is looked at to tell the forms
apart. -/
def ofTokens (tokens : List Token) : Except Problem LineForm :=
  match Token.dropComments tokens with
  | [] => .ok .skip
  | .word "if" :: condition => ofCondition .ifThen condition
  | .word "while" :: condition => ofCondition .whileLoop condition
  -- what follows the word does not matter
  | .word "end" :: _ => .ok .closing
  | tokens => (Statement.ofTokens tokens).map .statement

/-- The form of a line. -/
def read (line : List Char) : Except Problem LineForm :=
  (Token.lex (Text.trim line)).bind ofTokens

end LineForm

/-- A script under construction; statements are held newest first. The open blocks are a stack, as
brackets are for the lexer. -/
structure Assembly where
  /-- The statements of the innermost open block. -/
  statements : List Statement
  /-- The open blocks, innermost first, each with the statements before it. -/
  enclosing : List (BlockKind × Expr × List Statement)

namespace Assembly

/-- The script before its first line. -/
def initial : Assembly := ⟨[], []⟩

/-- Adds a line. The only line that can be refused here is an `end` too many. -/
def add (a : Assembly) : LineForm → Except Problem Assembly
  | .skip => .ok a
  | .opening kind condition => .ok ⟨[], (kind, condition, a.statements) :: a.enclosing⟩
  | .closing =>
    match a.enclosing with
    | [] => .error .strayEnd
    | (kind, condition, before) :: outer =>
      .ok ⟨kind.close condition a.statements.reverse :: before, outer⟩
  | .statement s => .ok { a with statements := s :: a.statements }

/-- Adds lines, the first of them with the given number. The first line that is at fault ends this,
with its number. -/
def addLines (a : Assembly) (number : Nat) : List (List Char) → Except SyntaxError Assembly
  | [] => .ok a
  | line :: rest => do
    let form ← atLine number (LineForm.read line)
    let next ← atLine number (a.add form)
    addLines next (number + 1) rest

end Assembly

/-- The script of a source text. A block that is open at the end is found last, so every other
problem comes first. -/
def Script.compile (source : String) : Except SyntaxError Script := do
  let lines := Text.lines source.toList
  let a ← Assembly.initial.addLines 1 lines
  if a.enclosing.isEmpty then .ok a.statements.reverse
  else .error ⟨lines.length, .openBlocks a.enclosing.length⟩

/-- The expression of a text, as it would stand in a condition. Any fault of it is one of line 1. -/
def Expr.compile (source : String) : Except SyntaxError Expr :=
  (atLine 1 (Token.lex (Text.trim source.toList))).map fun tokens =>
    Expr.group 1 (Token.dropComments tokens)

end VerbScript
