import VerbScript.Text.Blank

/-!
# Console commands

A typed line whose first character is a dot is a command; any other line is source text.
-/

namespace VerbScript

/-- What `.trace` is asked to do. Listing is also what it does without an argument. -/
inductive TraceMode where
  | on
  | off
  /-- List the newest records. -/
  | recent
deriving DecidableEq

/-- A command of the console. What is typed wrongly is a command as well, one that only explains
itself. -/
inductive Command where
  | run
  | ast
  | verb (name : String)
  | verbs
  | call (line : String)
  | props
  | clear
  | trace (mode : TraceMode)
  | save (path : String)
  | load (path : String)
  | help
  | quit
  /-- A command that is used wrongly, and how it is used. -/
  | usage (text : String)
  | unknown (name : String)
deriving DecidableEq

namespace Command

/-- The commands and what they do, in the order of the help text. A second name for leaving is not
among them. -/
def summary : List (String × String) :=
  [(".run", "run the buffered lines on ##Me, then clear them"),
    (".ast", "print the compiled buffer"),
    (".verb", "NAME: store the buffer as a verb on ##Me"),
    (".verbs", "list the verbs on ##Me"),
    (".call", "VERB ARGS: call a verb and print its result"),
    (".props", "list the properties on ##Me"),
    (".clear", "discard the buffer"),
    (".trace", "on|off|show: control execution tracing"),
    (".save", "PATH: save the world"),
    (".load", "PATH: load a world"),
    (".help", "show this list"),
    (".quit", "leave the REPL")]

/-- The names of the commands that are completed; `.exit` works as well and is not among them. -/
def names : List String := summary.map Prod.fst

/-- A name with blanks behind it up to eight places, and what the command does. -/
def helpLines : List String :=
  summary.map fun (name, text) =>
    name ++ String.ofList (List.replicate (8 - name.length) ' ') ++ " " ++ text

/-- The command with an argument that must not be empty. Without one it explains how it is used. -/
def withArgument (argument usageText : String) (command : String → Command) : Command :=
  if argument.isEmpty then .usage ("usage: " ++ usageText) else command argument

/-- The command with a name and an argument. Commands that take none ignore it, and an unknown name
is kept for the message. -/
def ofParts (name argument : String) : Command :=
  match name with
  | ".run" => run
  | ".ast" => ast
  | ".verb" => withArgument argument ".verb NAME" verb
  | ".verbs" => verbs
  | ".call" => withArgument argument ".call VERB ARGS" call
  | ".props" => props
  | ".clear" => clear
  | ".trace" =>
    match argument with
    | "on" => trace .on
    | "off" => trace .off
    | "" => trace .recent
    | "show" => trace .recent
    | _ => usage "usage: .trace on|off|show"
  | ".save" => withArgument argument ".save PATH" save
  | ".load" => withArgument argument ".load PATH" load
  | ".help" => help
  | ".quit" => quit
  | ".exit" => quit
  | other => unknown other

/-- The file that a command reads or writes. No other command needs the disk. -/
def path? : Command → Option String
  | save path => some path
  | load path => some path
  | _ => none

/-- The command a typed line stands for; none is a line of source text. Blanks before the dot do not
count. -/
def ofLine? (line : List Char) : Option Command :=
  let trimmed := Text.trim line
  if trimmed.head? = some '.' then
    let name := trimmed.takeWhile fun c => !Text.isBlank c
    let argument := Text.trim (trimmed.drop name.length)
    some (ofParts (String.ofList name) (String.ofList argument))
  else none

end Command

end VerbScript
