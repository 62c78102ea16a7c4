import VerbScript.Console.Command
import VerbScript.Expr.Preposition

/-!
# Completion

The word before the cursor is completed to the known words that begin with it: commands at the
beginning of a line, and words of the language elsewhere. Places in a line are counted in bytes of
its UTF-8 form.
-/

namespace VerbScript

/-- A place in a line, and what could stand there instead of the text from it to the cursor. There
may be no candidates. -/
structure Completion where
  start : Nat
  candidates : List String

namespace Completion

/-- The words of the language: keywords, and prepositions of one word. They are in order, and none
comes twice. -/
def words : List String :=
  let keywords := ["if", "while", "end", "and", "or", "true", "false", "null"]
  let prepositions := Preposition.phrases.filter fun p => !p.toList.contains ' '
  ((keywords ++ prepositions).mergeSort fun a b => compare a b |>.isLE).eraseReps

/-- Whether a character ends a word that is being typed. Quotes and sigils are part of the word. -/
def separates (c : Char) : Bool := Text.isBlank c || c ∈ ['(', ')', '[', ']']

/-- The number of bytes of a text in UTF-8. The place of the cursor is given in these. -/
def byteLength : List Char → Nat
  | [] => 0
  | c :: rest => c.utf8Size + byteLength rest

/-- The first characters of a text, as many as make up `size` bytes; none if no character ends
there. -/
def before? : List Char → (size : Nat) → Option (List Char)
  | _, 0 => some []
  | [], _ + 1 => none
  | c :: rest, size =>
    if c.utf8Size ≤ size then (before? rest (size - c.utf8Size)).map (c :: ·) else none

/-- What can be completed at a cursor that stands behind `size` bytes of a line. There is no
answer if the cursor stands inside a character, or if the word is preceded by a separator of more
than one byte, whose second byte the word would begin with. -/
def complete? (line : List Char) (size : Nat) : Option Completion := do
  let typed ← before? line size
  let word := (typed.reverse.takeWhile fun c => !separates c).reverse
  let separator := (typed.take (typed.length - word.length)).getLast?
  if separator.any (1 < ·.utf8Size) then none
  else
    let start := size - byteLength word
    let known :=
      if start = 0 ∧ word.head? = some '.' then Command.names
      else if word.isEmpty then []
      else words
    return ⟨start, known.filter fun k => word.isPrefixOf k.toList⟩

end Completion

end VerbScript
