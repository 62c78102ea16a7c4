import VerbScript.Disk
import VerbScript.World.Snapshot

/-!
# Snapshots in files
-/

namespace VerbScript.Store

/-- Writes the bytes of a store to a file. The only thing that can fail is the writing, and then
there is no new disk. -/
def save (s : Store) (disk : Disk) (path : String) : Except Failure Disk :=
  match disk.write path s.toBytes with
  | .ok disk => .ok disk
  | .error refusal =>
    .error (.io ("failed to create file '" ++ path ++ "': " ++ refusal.message))

/-- The store of some bytes that ought to be a snapshot. Whatever is wrong with them is reported in
the same words. -/
def ofBytes (bytes : List UInt8) : Except Failure Store :=
  match ofBytes? bytes with
  | some s => .ok s
  | none => .error (.serialization "invalid snapshot")

/-- What is said of a file that cannot be loaded. A folder can be opened, but not read. -/
def loadRefused (path : String) (refusal : Disk.Refusal) : String :=
  let attempt := if refusal = .isFolder then "read" else "open"
  "failed to " ++ attempt ++ " file '" ++ path ++ "': " ++ refusal.message

/-- Reads a store from a file. The file may be refused by the disk or, once it is read, for its
bytes. -/
def load (disk : Disk) (path : String) : Except Failure Store :=
  match disk.read path with
  | .ok bytes => ofBytes bytes
  | .error refusal => .error (.io (loadRefused path refusal))

end VerbScript.Store
