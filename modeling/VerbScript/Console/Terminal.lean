import VerbScript.Console.Basic

/-!
# The terminal

The console in a dialogue: `Terminal.run` takes inputs one by one until the user leaves or the
input ends, and collects what is printed.
-/

namespace VerbScript

/-- What reading a line can give. Only the last two of these end a dialogue by themselves; a line
may end it by what it says. -/
inductive Input where
  | line (text : String)
  /-- The user interrupted the line. -/
  | interrupt
  /-- The input ended. -/
  | eof
  /-- The terminal failed. -/
  | fail (detail : String)

/-- What has been printed, newest first. The two outputs are kept apart, and their order to each
other is not. -/
structure Screen where
  out : List String := []
  err : List String := []

namespace Screen

/-- Prints a text without a line break. -/
def print (s : Screen) (text : String) : Screen := { s with out := text :: s.out }

/-- Prints a line. -/
def printLine (s : Screen) (text : String) : Screen := s.print (text ++ "\n")

/-- Prints some lines, each with its line break. -/
def printLines (s : Screen) (lines : List String) : Screen := lines.foldl printLine s

/-- Prints a line to standard error. -/
def warnLine (s : Screen) (text : String) : Screen := { s with err := (text ++ "\n") :: s.err }

/-- Prints a failure in red. -/
def warnError (s : Screen) (text : String) : Screen :=
  s.warnLine ("\x1b[31mError: " ++ text ++ "\x1b[0m")

/-- All that went to standard output. -/
def stdout (s : Screen) : String := "".intercalate s.out.reverse

/-- All that went to standard error. -/
def stderr (s : Screen) : String := "".intercalate s.err.reverse

end Screen

/-- A console with its screen and the lines that were typed. The history is kept for the user and
does not change what lines do. -/
structure Terminal where
  console : Console
  screen : Screen := {}
  /-- The typed lines that are not blank, newest first. -/
  history : List String := []

namespace Terminal

/-- The version that is reported. -/
def version : String := "0.1.0"

/-- Greets the user. The second line names what a beginner needs first. -/
def banner (s : Screen) : Screen :=
  (s.printLine ("\x1b[1;36mNML\x1b[0m " ++ version)).printLine
    "Lines are buffered; .run executes them, .help lists commands, Ctrl+D exits.\n"

/-- What asks for the next line. It shows whether lines are waiting. -/
def prompt (t : Terminal) : String := if t.console.buffer.isEmpty then "nml> " else "...> "

/-- Shows the lines that the tracer has echoed, on standard error. They are taken from the tracer,
so they are shown once. -/
def showEchoed (t : Terminal) : Terminal :=
  let (lines, tracer) := t.console.session.tracer.takeEchoed
  { t with
    console := { t.console with session := { t.console.session with tracer } }
    screen := lines.foldl Screen.warnLine t.screen }

/-- Shows the outcome of a line. A script that fails has its own lines shown first, and the failure
behind them. -/
def showOutcome (s : Screen) : ConsoleOutcome → Screen
  | .output lines => s.printLines lines
  | .failed lines failure => (s.printLines lines).warnError failure.message
  | .buffered => s
  | .quit => s

/-- Whether the dialogue goes on, has ended, or broke off. Only in the last case it has a failure of
its own. -/
inductive Next where
  | go
  | stop
  | broken (failure : Failure)

/-- Takes a typed line. A failure is shown and does not end the dialogue. Lines of blanks are
handled, but they do not enter the history. -/
def enter (t : Terminal) (line : String) : Terminal × Next :=
  let history := if (Text.trim line.toList).isEmpty then t.history else line :: t.history
  let (console, result) := t.console.handle line
  let t := { t with console, history }.showEchoed
  match result with
  | .ok .quit => (t, .stop)
  | .ok outcome => ({ t with screen := showOutcome t.screen outcome }, .go)
  | .error failure => ({ t with screen := t.screen.warnError failure.message }, .go)

/-- Takes one input. An interrupt drops the lines that are waiting and goes on; without such lines
it does nothing. -/
def feed (t : Terminal) : Input → Terminal × Next
  | .line text => t.enter text
  | .interrupt =>
    if t.console.buffer.isEmpty then (t, .go)
    else
      ({ t with
          console := { t.console with buffer := [] }
          screen := t.screen.printLine "buffer cleared" }, .go)
  | .eof => (t, .stop)
  | .fail detail => (t, .broken (.io detail))

/-- Takes inputs up to the end of the dialogue; `shown` is how a prompt appears on the screen. If
the inputs run out, the dialogue ends behind one more prompt. -/
def dialogue (shown : String → String) (t : Terminal) : List Input → Terminal × Except Failure Unit
  | [] => ({ t with screen := t.screen.print (shown t.prompt) }, .ok ())
  | input :: rest =>
    match { t with screen := t.screen.print (shown t.prompt) }.feed input with
    | (t, .go) => dialogue shown t rest
    | (t, .stop) => (t, .ok ())
    | (t, .broken failure) => (t, .error failure)

/-- The terminal at the beginning of a dialogue, with a greeting if wanted. -/
def greeted (greet : Bool) (t : Terminal) : Terminal :=
  if greet then { t with screen := banner t.screen } else t

/-- Ends a dialogue: a line break follows one that did not break off, behind the last prompt. -/
def closed : Terminal × Except Failure Unit → Terminal × Except Failure Unit
  | (t, .ok ()) => ({ t with screen := t.screen.printLine "" }, .ok ())
  | (t, .error failure) => (t, .error failure)

/-- A whole dialogue, with a greeting if wanted and a line break at the end. The line break stands
behind the prompt at which the input has ended. -/
def run (shown : String → String) (greet : Bool) (t : Terminal) (inputs : List Input) :
    Terminal × Except Failure Unit :=
  closed ((t.greeted greet).dialogue shown inputs)

end Terminal

end VerbScript
