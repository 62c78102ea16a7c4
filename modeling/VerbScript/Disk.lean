import VerbScript.Fault
import VerbScript.MessagePack.Format
import VerbScript.Table

/-!
# Files

The files a session can reach. A path is walked name by name (`Disk.walk`): every name but the
last has to be a folder, and slashes in a row count as one. `Disk.read` and `Disk.write` look at
the place where the walk ends.
-/

namespace VerbScript

/-- A place on a disk: the names on the way to it, its own first. The way begins at the current
folder, which has no name; the name `..` leads out of it, and `/` is the outermost folder. -/
abbrev Place := List String

namespace Place

/-- The folder of a place. The root of the disk is in itself, and the folder around the current one
has a place too. -/
def up : Place → Place
  | [] => [".."]
  | name :: p =>
    if name = ".." then ".." :: name :: p
    else if name = "/" then name :: p
    else p

/-- The place that a name leads to. Two of the names lead nowhere new: to the place itself, and to
its folder. -/
def step (p : Place) (name : String) : Place :=
  if name = "." then p
  else if name = ".." then p.up
  else name :: p

/-- The places that are folders on every disk. They are the current folder, those around it, and the
root. -/
def isOuter : Place → Bool
  | [] => true
  | name :: _ => name == ".." || name == "/"

end Place

/-- Files and the folders they may lie in. There are no links and no permissions. -/
structure Disk where
  /-- The folders that exist besides the current folder and those around it. -/
  folders : List Place := []
  files : Table Place (List UInt8) := .empty

namespace Disk

/-- Why a file cannot be read or written. Nothing else goes wrong on such a disk. -/
inductive Refusal where
  | notFound
  | notFolder
  | isFolder
deriving DecidableEq

/-- What is said of a refusal. The numbers are those of the operating system. -/
def Refusal.message : Refusal → String
  | .notFound => "No such file or directory (os error 2)"
  | .notFolder => "Not a directory (os error 20)"
  | .isFolder => "Is a directory (os error 21)"

/-- Whether there is a folder at a place. -/
def isFolder (d : Disk) (p : Place) : Bool := p.isOuter || d.folders.contains p

/-- The place that the remaining names of a path lead to; there need not be anything. A name is only
looked at when there is another one behind it. -/
def walk (d : Disk) (p : Place) : List String → Except Refusal Place
  | [] => .ok p
  | name :: rest =>
    if d.isFolder p then d.walk (p.step name) rest
    else if (d.files.get? p).isSome then .error .notFolder
    else .error .notFound

/-- The names of a path. -/
def namesOf (path : String) : List String :=
  ((path.toList.splitOn '/').filter (!·.isEmpty)).map String.ofList

/-- The paths of the folders on the way along a path, and the path itself. They begin with the
outermost one, so that each can be added inside the one before. -/
def stages (path : String) : List String :=
  let steps := path.toList.splitOn '/'
  (List.range steps.length).map fun i => String.ofList (['/'].intercalate (steps.take (i + 1)))

/-- Where the walk along a path begins. -/
def origin (path : String) : Place := if path.toList.head? = some '/' then ["/"] else []

/-- Whether a path says that it leads to a folder. -/
def endsInSlash (path : String) : Bool := path.toList.getLast? == some '/'

/-- The place that a path leads to. The empty path leads nowhere. -/
def locate (d : Disk) (path : String) : Except Refusal Place :=
  if path.isEmpty then .error .notFound else d.walk (origin path) (namesOf path)

/-- The content of a file. A slash at the end of the path asks for a folder, and a folder has no
content. -/
def read (d : Disk) (path : String) : Except Refusal (List UInt8) := do
  let p ← d.locate (if endsInSlash path then path ++ "." else path)
  if d.isFolder p then .error .isFolder
  else
    match d.files.get? p with
    | some content => .ok content
    | none => .error .notFound

/-- Writes a file, replacing what it held. The folder it lies in has to exist; it is not made. -/
def write (d : Disk) (path : String) (content : List UInt8) : Except Refusal Disk := do
  let p ← d.locate path
  if endsInSlash path || d.isFolder p then .error .isFolder
  else .ok { d with files := d.files.insert p content }

/-- Adds a folder, if the folder it lies in exists; otherwise nothing is added. -/
def addFolder (d : Disk) (path : String) : Disk :=
  match d.locate path with
  | .ok p => { d with folders := p :: d.folders }
  | .error _ => d

/-- Adds a file and the folders on the way to it. A folder that is there already may be added
again. -/
def addFile (d : Disk) (file : String × List UInt8) : Disk :=
  let d := (stages file.1).dropLast.foldl addFolder d
  (d.write file.1 file.2).toOption.getD d

/-- A disk with the given files and their folders. -/
def ofFiles (files : List (String × List UInt8)) : Disk := files.foldl addFile {}

/-- The text of a file. A file that is no text is reported in the same way as one that cannot be
read. -/
def readText (d : Disk) (path : String) : Except Failure String :=
  match d.read path with
  | .error refusal => .error (.io ("failed to read " ++ path ++ ": " ++ refusal.message))
  | .ok bytes =>
    match MessagePack.textOf? bytes with
    | some text => .ok text
    | none => .error (.io ("failed to read " ++ path ++ ": stream did not contain valid UTF-8"))

end Disk

end VerbScript
