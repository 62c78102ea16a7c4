import VerbScript.Console.Terminal
import VerbScript.Text.Backspace

/-!
# The command line

`CommandLine.parse` reads the arguments. The program then goes through three parts: `start` opens
the session, runs the script files and may list the world; the dialogue follows unless it is
switched off; and `conclude` may save the world. `CommandLine.run` is the whole program on given
files and a given standard input.
-/

namespace VerbScript.CommandLine

/-- What the arguments ask for. Of a value that is given twice the later counts. -/
structure Options where
  files : List String := []
  batch : Bool := false
  help : Bool := false
  version : Bool := false
  trace : Bool := false
  maxTicks : Option Nat := none
  seed : Option UInt64 := none
  loadPath : Option String := none
  savePath : Option String := none
  dump : Bool := false

/-- A decimal number below `2 ^ 64`, which may have a plus sign. Leading zeros are allowed. -/
def parseNumber? (text : String) : Option Nat :=
  let digits :=
    match text.toList with
    | '+' :: rest => rest
    | rest => rest
  if digits.isEmpty || !digits.all Char.isDigit then none
  else
    let n := Number.digitsValue digits
    if n < UInt64.size then some n else none

/-- The value of an option that takes a number. A value that is no number is named in the message,
with the option. -/
def numberOption (flag raw : String) : Except String Nat :=
  match parseNumber? raw with
  | some n => .ok n
  | none => .error ("invalid " ++ flag ++ " value: " ++ raw)

/-- What is said of an option at the end that needs a value. -/
def missingValue (flag : String) : Except String Options := .error (flag ++ " requires a value")

/-- Reads arguments one after the other, up to the first that is wrong. What does not begin with a
dash is a script file, and the files keep their order. -/
def parseFrom (o : Options) : List String → Except String Options
  | [] => .ok o
  -- an option takes the next argument as its value, whatever that looks like
  | ["--max-ticks"] => missingValue "--max-ticks"
  | ["--seed"] => missingValue "--seed"
  | ["--load-world"] => missingValue "--load-world"
  | ["--save-world"] => missingValue "--save-world"
  | "--max-ticks" :: raw :: rest => do
    let n ← numberOption "--max-ticks" raw
    parseFrom { o with maxTicks := some n } rest
  | "--seed" :: raw :: rest => do
    let n ← numberOption "--seed" raw
    parseFrom { o with seed := some n.toUInt64 } rest
  | "--load-world" :: path :: rest => parseFrom { o with loadPath := some path } rest
  | "--save-world" :: path :: rest => parseFrom { o with savePath := some path } rest
  | arg :: rest =>
    if arg = "-h" ∨ arg = "--help" then parseFrom { o with help := true } rest
    else if arg = "-V" ∨ arg = "--version" then parseFrom { o with version := true } rest
    else if arg = "-b" ∨ arg = "--batch" then parseFrom { o with batch := true } rest
    else if arg = "--trace" then parseFrom { o with trace := true } rest
    else if arg = "--dump-world" then parseFrom { o with dump := true } rest
    else if arg.toList.head? = some '-' then .error ("unknown option: " ++ arg)
    else parseFrom { o with files := o.files ++ [arg] } rest

/-- Reads the arguments. -/
def parse (args : List String) : Except String Options := parseFrom {} args

/-- The session settings the options ask for. Without a limit on the command line there is one of a
million ticks, so that every run ends. -/
def Options.settings (o : Options) (clock : UInt64) : Settings :=
  { seed := o.seed.getD 0
    limit := some (o.maxTicks.getD 1000000)
    trace := o.trace
    clock }

/-- The help text. -/
def helpText : String :=
"\x1b[1mNML\x1b[0m - Resumable scripting for verbs on world objects

\x1b[1mUSAGE:\x1b[0m
    nml [OPTIONS] [FILES...]

\x1b[1mARGUMENTS:\x1b[0m
    [FILES...]    Scripts to run on ##Me before starting the REPL

\x1b[1mOPTIONS:\x1b[0m
    -h, --help             Print help information
    -V, --version          Print version information
    -b, --batch            Run files and exit (no REPL)
    --seed N               Seed for new object ids
    --load-world PATH      Start from a saved world
    --save-world PATH      Save the world on exit

\x1b[1mDEBUG OPTIONS:\x1b[0m
    --trace                Trace VM steps, requests, and frames
    --max-ticks N          Tick budget for each script
    --dump-world           Dump world state after running files

\x1b[1mEXAMPLES:\x1b[0m
    nml                              Start interactive REPL
    nml setup.nml                    Run setup.nml, then start REPL
    nml -b test.nml                  Run test.nml and exit
    nml --load-world w.msgpack       Resume a saved world

\x1b[1mREPL COMMANDS:\x1b[0m
    .run                 Run the buffered lines
    .verb NAME           Store the buffer as a verb
    .call VERB ARGS      Call a verb
    .help                List every command
    Ctrl+D               Exit REPL
    Ctrl+C               Discard the buffer"

/-- The lines that list an object: its id, its own properties and its own verbs. What it inherits is
listed under its ancestors. -/
def dumpObject (w : World) (id : ObjectId) : List String :=
  let props := ((w.props id).toOption.getD []).map fun (name, v) =>
    "    %" ++ name ++ " = " ++ v.display
  let verbs := (w.verbNames id).map ("    verb " ++ ·)
  ("  " ++ id.display) :: (props ++ verbs)

/-- The lines that list a store. The position of its stream is not among them. -/
def dump (s : Store) : List String :=
  ["\x1b[1;36m=== World State ===\x1b[0m",
    "Seed: " ++ s.stream.seed.toNat.repr,
    "Objects: " ++ s.world.objects.size.repr] ++
  (s.world.aliases.toList.map fun (name, id) => "  ##" ++ name ++ " = " ++ id.display) ++
  s.world.ids.flatMap (dumpObject s.world) ++ [""]

/-- Runs a script file: prints what it says, and its result unless that is null. A script that fails
has what it said before printed as well. -/
def runFile (t : Terminal) (path : String) : Terminal × Except Failure Unit :=
  match t.console.disk.readText path with
  | .error failure => (t, .error failure)
  | .ok source =>
    let (session, result) := t.console.session.runSource source
    let (said, session) := session.takeOutput
    let t := { t with console := { t.console with session } }.showEchoed
    let t := { t with screen := t.screen.printLines said }
    match result with
    | .error failure => (t, .error failure)
    | .ok .null => (t, .ok ())
    | .ok v => ({ t with screen := t.screen.printLine ("=> " ++ v.display) }, .ok ())

/-- Runs script files up to the first that fails. The session goes from one to the next, and with it
what they do to the world. -/
def runFiles (t : Terminal) : List String → Terminal × Except Failure Unit
  | [] => (t, .ok ())
  | path :: rest =>
    match runFile t path with
    | (t, .ok ()) => runFiles t rest
    | (t, .error failure) => (t, .error failure)

/-- Opens the session, runs the files and lists the world if wanted. The outer failure is that of
the session, the inner one that of a file. -/
def prepare (o : Options) (disk : Disk) (clock : UInt64) :
    Except Failure (Terminal × Except Failure Unit) := do
  let settings := o.settings clock
  let session ← match o.loadPath with
    | some path => (Store.load disk path).map (Session.ofStore · settings)
    | none => .ok (Session.start settings)
  return match runFiles { console := { session, disk } } o.files with
    | (t, .ok ()) =>
      if o.dump then
        ({ t with screen := t.screen.printLines (dump t.console.session.stage.store) }, .ok ())
      else (t, .ok ())
    | (t, .error failure) => (t, .error failure)

/-- The files that are read before the dialogue. -/
def Options.inputPaths (o : Options) : List String := o.files ++ o.loadPath.toList

/-- Saves the world if wanted. A dialogue that broke off does not come here, so its world is not
written over a file. -/
def finish (o : Options) (t : Terminal) : Terminal × Except Failure Unit :=
  match o.savePath with
  | none => (t, .ok ())
  | some path =>
    match t.console.session.save t.console.disk path with
    | .ok disk =>
      ({ t with
          console := { t.console with disk }
          screen := t.screen.warnLine ("world saved to " ++ path) }, .ok ())
    | .error failure => (t, .error failure)

/-- What a run of the program leaves: what a caller can see of it. -/
structure Exit where
  code : UInt32
  screen : Screen
  disk : Disk

/-- Ends with a failure. -/
def failed (screen : Screen) (disk : Disk) (text : String) : Exit :=
  ⟨1, screen.warnError text, disk⟩

/-- Ends as the last part of the program did. A failure is reported on standard error, with the code
of a failure. -/
def ended (t : Terminal) : Except Failure Unit → Exit
  | .ok () => ⟨0, t.screen, t.console.disk⟩
  | .error failure => failed t.screen t.console.disk failure.message

/-- The lines of a standard input, with their backspaces carried out. -/
def typedLines (stdin : String) : List String :=
  (Console.linesOf stdin).map fun line => String.ofList (Text.typed line.toList)

/-- The dialogue on the lines of a standard input that is no terminal: prompts are not shown. It
ends with the input, at the latest. -/
def dialogue (o : Options) (t : Terminal) (stdin : String) : Terminal × Except Failure Unit :=
  if o.batch then (t, .ok ())
  else t.run (fun _ => "") o.files.isEmpty ((typedLines stdin).map .line)

/-- Everything before the dialogue: either the program ends here, or the dialogue goes on with
these options from this terminal. -/
def start (args : List String) (disk : Disk) (clock : UInt64) : Except Exit (Options × Terminal) :=
  match parse args with
  | .error text => .error (failed {} disk text)
  | .ok o =>
    if o.help then .error ⟨0, ({} : Screen).printLine helpText, disk⟩
    else if o.version then
      .error ⟨0, ({} : Screen).printLine ("nml " ++ Terminal.version), disk⟩
    else
      match prepare o disk clock with
      | .error failure => .error (failed {} disk failure.message)
      | .ok (t, .error failure) => .error (ended t (.error failure))
      | .ok (t, .ok ()) => .ok (o, t)

/-- Everything after the dialogue. After a failure the world is not saved, and the failure is what
is reported. -/
def conclude (o : Options) : Terminal × Except Failure Unit → Exit
  | (t, .error failure) => ended t (.error failure)
  | (t, .ok ()) =>
    let (t, result) := finish o t
    ended t result

/-- The whole program. It is a function of what it is given: the arguments, the disk, the time and
the input. -/
def run (args : List String) (disk : Disk) (clock : UInt64) (stdin : String) : Exit :=
  match start args disk clock with
  | .error exit => exit
  | .ok (o, t) => conclude o (dialogue o t stdin)

end VerbScript.CommandLine
