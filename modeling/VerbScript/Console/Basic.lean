import VerbScript.Console.Command
import VerbScript.Script.Outline
import VerbScript.Session

/-!
# The console

Lines that are typed are source text, which is buffered, or commands, most of which act on the
buffer or the session. `Console.handle` takes one line.
-/

namespace VerbScript

/-- A session with the source lines that wait to be used. The disk is what its commands can
reach. -/
structure Console where
  session : Session
  /-- The waiting lines, in the order they were typed. -/
  buffer : List String := []
  disk : Disk := {}

/-- What a line led to. A script that fails may have said something before, so its failure comes
with lines. -/
inductive ConsoleOutcome where
  /-- The line was added to the buffer. -/
  | buffered
  /-- Lines to show. -/
  | output (lines : List String)
  /-- A script failed after these lines. -/
  | failed (lines : List String) (failure : Failure)
  /-- The user wants to leave. -/
  | quit

namespace Console

/-- How many records `.trace show` shows. -/
def traceLength : Nat := 20

/-- The buffered source text. -/
def source (c : Console) : String := "\n".intercalate c.buffer

/-- The outcome with one line to show. -/
def message (text : String) : ConsoleOutcome := .output [text]

/-- Lines to show, or a remark if there are none, so that every listing shows something. -/
def listed (lines : List String) (remark : String) : ConsoleOutcome :=
  if lines.isEmpty then message remark else .output lines

/-- The lines of a text. -/
def linesOf (text : String) : List String := (Text.lines text.toList).map String.ofList

/-- The outcome of a script: what it said, and its result unless that is null. -/
def finish (c : Console) (result : Session × Except Failure Value) : Console × ConsoleOutcome :=
  let (said, session) := result.1.takeOutput
  let c := { c with session }
  match result.2 with
  | .ok .null => (c, .output said)
  | .ok v => (c, .output (said ++ ["=> " ++ v.shown]))
  | .error failure => (c, .failed said failure)

/-- Carries out a command. A command that fails leaves the console as it was, the buffer included; a
script that fails does not count as a command that fails. -/
def command (c : Console) : Command → Console × Except Failure ConsoleOutcome
  -- the buffer is gone even if the script fails
  | .run =>
    let (c, outcome) := { c with buffer := [] }.finish (c.session.runSource c.source)
    (c, .ok outcome)
  | .ast =>
    match Script.compile c.source with
    | .ok script => (c, .ok (.output script.outline))
    | .error e => (c, .error (.rejected e))
  | .verb name =>
    match c.session.defineVerb name c.source with
    | .ok session =>
      ({ c with session, buffer := [] },
        .ok (message ("verb " ++ name ++ " defined on " ++ session.player.display)))
    | .error failure => (c, .error failure)
  | .verbs => (c, .ok (listed c.session.verbNames "(no verbs)"))
  | .call line =>
    let (c, outcome) := c.finish (c.session.callLine line)
    (c, .ok outcome)
  | .props =>
    (c, c.session.props.map fun props =>
      listed (props.map fun (name, v) => name ++ " = " ++ v.shown) "(no properties)")
  | .clear => ({ c with buffer := [] }, .ok (message "buffer cleared"))
  | .trace .on => ({ c with session := c.session.setTrace true }, .ok (message "tracing on"))
  | .trace .off => ({ c with session := c.session.setTrace false }, .ok (message "tracing off"))
  | .trace .recent => (c, .ok (.output (linesOf (c.session.tracer.format traceLength))))
  | .save path =>
    match c.session.save c.disk path with
    | .ok disk => ({ c with disk }, .ok (message ("saved to " ++ path)))
    | .error failure => (c, .error failure)
  | .load path =>
    match c.session.load c.disk path with
    | .ok session => ({ c with session }, .ok (message ("loaded " ++ path)))
    | .error failure => (c, .error failure)
  | .help => (c, .ok (.output Command.helpLines))
  | .quit => (c, .ok .quit)
  | .usage text => (c, .ok (message text))
  | .unknown name => (c, .ok (message ("unknown command " ++ name ++ " (try .help)")))

/-- Takes one typed line. Source text is not looked at until it is used, so a line that does not lex
is found out only when the buffer is compiled. -/
def handle (c : Console) (line : String) : Console × Except Failure ConsoleOutcome :=
  match Command.ofLine? line.toList with
  | some command => c.command command
  | none => ({ c with buffer := c.buffer ++ [line] }, .ok .buffered)

end Console

end VerbScript
