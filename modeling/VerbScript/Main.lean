import Std.Time.DateTime.Timestamp
import VerbScript.CommandLine

/-!
# The program

Runs the command line on the files, the clock and the terminal of the machine. The library sees
files as a `Disk`: what a command will read is copied onto it before the command is carried out,
and what it wrote is copied back afterwards.
-/

namespace VerbScript.Program

/-- Whether a folder exists. A path with `/.` behind it leads somewhere only if the path is one of a
folder. -/
def folderExists (folder : String) : IO Bool := do
  try
    let _ ← IO.FS.realPath (folder ++ "/.")
    return true
  catch _ => return false

/-- Copies a folder onto a disk if it exists. -/
def fetchFolder (disk : Disk) (folder : String) : IO Disk := do
  return if ← folderExists folder then disk.addFolder folder else disk

/-- Copies a file and the folders on the way to it onto a disk. A file that cannot be read is left
out, and is not found there by the program. -/
def fetch (disk : Disk) (path : String) : IO Disk := do
  let disk ← (Disk.stages path).foldlM fetchFolder disk
  try
    let bytes ← IO.FS.readBinFile path
    return (disk.write path bytes.toList).toOption.getD disk
  catch _ => return disk

/-- Copies a file from a disk to the machine. The program has written the file there, if it has
written one at all. -/
def store (disk : Disk) (path : String) : IO Unit := do
  match disk.read path with
  | .ok bytes => IO.FS.writeBinFile path (ByteArray.mk bytes.toArray)
  | .error _ => return

/-- Shows what is on a screen. The two streams are shown one after the other, as a screen does not
say how they alternate. -/
def present (s : Screen) : IO Unit := do
  IO.eprint s.stderr
  IO.print s.stdout
  (← IO.getStdout).flush

/-- Shows what is on the screen of a terminal and clears it. So nothing is shown twice, and what a
line leads to is shown before the next one is read. -/
def refresh (t : Terminal) : IO Terminal := do
  present t.screen
  return { t with screen := {} }

/-- Reads the next input. A line comes with its line break, so an empty text is the end of the
input. -/
def readInput (stdin : IO.FS.Stream) : IO Input := do
  try
    let text ← stdin.getLine
    return if text.isEmpty then .eof else .line ((CommandLine.typedLines text).headD "")
  catch e => return .fail (toString e)

/-- The file that an input reads or writes. It is fetched before the line is handled, and stored
behind it. -/
def inputPath? : Input → Option String
  | .line text => (Command.ofLine? text.toList).bind Command.path?
  | _ => none

/-- Takes inputs up to the end of the dialogue; the prompt is shown on a terminal only. -/
partial def converse (stdin : IO.FS.Stream) (t : Terminal) :
    IO (Terminal × Except Failure Unit) := do
  if ← stdin.isTty then
    IO.print t.prompt
    (← IO.getStdout).flush
  let input ← readInput stdin
  let path? := inputPath? input
  let disk ← path?.toList.foldlM fetch {}
  let (t, next) := { t with console := { t.console with disk } }.feed input
  path?.forM (store t.console.disk)
  let t ← refresh t
  match next with
  | .go => converse stdin t
  | .stop => return (t, .ok ())
  | .broken failure => return (t, .error failure)

/-- The seconds since the beginning of 1970. -/
def clock : IO UInt64 := do
  let now ← Std.Time.Timestamp.now
  return now.toSecondsSinceUnixEpoch.val.toNat.toUInt64

/-- Shows how the program ended. The code is that of the process. -/
def leave (exit : CommandLine.Exit) : IO UInt32 := do
  present exit.screen
  return exit.code

/-- The dialogue, unless it is switched off. Without script files it begins with a greeting. -/
def dialogue (o : CommandLine.Options) (t : Terminal) : IO (Terminal × Except Failure Unit) := do
  if o.batch then return (t, .ok ())
  else
    let t ← refresh (t.greeted o.files.isEmpty)
    return Terminal.closed (← converse (← IO.getStdin) t)

/-- The whole program. What it reads is fetched before it starts, and the world is stored behind it,
if it has not failed. -/
def run (args : List String) : IO UInt32 := do
  let inputs := (CommandLine.parse args).toOption.map CommandLine.Options.inputPaths
  let disk ← (inputs.getD []).foldlM fetch {}
  match CommandLine.start args disk (← clock) with
  | .error exit => leave exit
  | .ok (o, t) =>
    let (t, result) ← dialogue o t
    let disk ← o.savePath.toList.foldlM fetch {}
    let exit := CommandLine.conclude o ({ t with console := { t.console with disk } }, result)
    if exit.code = 0 then o.savePath.forM (store exit.disk)
    leave exit

end VerbScript.Program

/-- Runs the program with the arguments it was started with. -/
def main (args : List String) : IO UInt32 := VerbScript.Program.run args
