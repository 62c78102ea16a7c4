import VerbScript.Text.Cluster

/-!
# Backspaces

A backspace in a line that was typed takes back the cluster before it (`typed`). What it takes
back is counted in bytes, and the count is kept in one byte: of a cluster of 256 bytes or more it
takes back only the remainder.
-/

namespace VerbScript.Text

/-- A line while it is typed. A backspace takes back a number of bytes, so the sizes of the clusters
are kept beside the text. -/
structure Typing where
  /-- The characters, the last first. -/
  kept : List Char := []
  /-- How many bytes the next backspaces take back. -/
  sizes : List Nat := []

/-- The number of bytes of a text in UTF-8. -/
def byteSize (cs : List Char) : Nat := cs.foldl (fun n c => n + c.utf8Size) 0

/-- The text without its first `n` bytes. A character of which only some bytes are to go is dropped
whole. -/
def dropBytes : (n : Nat) → List Char → List Char
  | 0, cs => cs
  | _, [] => []
  | n + 1, c :: rest => dropBytes (n + 1 - c.utf8Size) rest

/-- Types a cluster. A backspace takes back as many bytes as the last cluster has, this number being
kept in one byte, and does nothing on an empty line. -/
def Typing.type (t : Typing) (cluster : List Char) : Typing :=
  if cluster = ['\x08'] then
    match t.sizes with
    | [] => t
    | n :: sizes => ⟨dropBytes n t.kept, sizes⟩
  else ⟨cluster.reverse ++ t.kept, byteSize cluster % 256 :: t.sizes⟩

/-- The line that the keys of a text leave, in reading order. -/
def typed (cs : List Char) : List Char :=
  ((clusters cs).foldl Typing.type {}).kept.reverse

end VerbScript.Text
