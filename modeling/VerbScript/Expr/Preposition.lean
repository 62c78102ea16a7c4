import VerbScript.Expr.Basic

/-!
# Prepositions

A verb line such as `put the apple in the box` is split at a preposition into a direct and an
indirect object. `Preposition.find` lists the phrases that occur in a line: of the phrases that
begin at one word the longest counts, and a phrase that overlaps an earlier one does not count.
`Verbcall.ofLine?` splits a line at them.
-/

namespace VerbScript

namespace Preposition

/-- The known phrases. Some begin with others, as `off of` does with `off`, which is why the longest
counts. -/
def phrases : List String :=
  ["with", "using", "at", "to", "in front of", "in", "inside", "into", "on top of", "on", "onto",
    "upon", "out of", "from inside", "from", "over", "through", "under", "underneath", "beneath",
    "behind", "beside", "for", "about", "is", "as", "off", "off of"]

/-- The words of a phrase. -/
def phraseWords (phrase : String) : List (List Char) := Text.words phrase.toList

/-- The known phrases with their words. -/
def lexicon : List (String × List (List Char)) :=
  phrases.map fun phrase => (phrase, phraseWords phrase)

/-- The word that a node is, in small letters as far as it has ASCII letters. Nodes that are no
words interrupt every phrase. -/
def spelling? (n : Node) : Option (List Char) :=
  n.asWord?.map fun text => text.toList.map Char.toLower

/-- Whether a line, given by the spellings of its nodes, begins with the given words. A node that is
no word has no spelling, and matches none. -/
def beginsWith : List (List Char) → List (Option (List Char)) → Bool
  | [], _ => true
  | _ :: _, [] => false
  | word :: words, spelling :: line => spelling == some word && beginsWith words line

/-- The places at which a line has the given words, where the line begins at the place `start`. They
may overlap. -/
def places (words : List (List Char)) (start : Nat) : List (Option (List Char)) → List Nat
  | [] => []
  | spelling :: line =>
    let later := places words (start + 1) line
    if beginsWith words (spelling :: line) then start :: later else later

/-- A phrase that occurs in a line. The phrase is kept as it is known, not as it was written. -/
structure Match where
  phrase : String
  /-- The place of its first word. -/
  start : Nat
  /-- How many words it spans. -/
  length : Nat
deriving DecidableEq, Inhabited

/-- One past the place of the last word. -/
def Match.stop (m : Match) : Nat := m.start + m.length

/-- The occurrences of all phrases in a line, phrase by phrase. Which of them count is not decided
here. -/
def occurrences (nodes : List Node) : List Match :=
  let line := nodes.map spelling?
  lexicon.flatMap fun (phrase, words) =>
    (places words 0 line).map fun start => ⟨phrase, start, words.length⟩

/-- Earlier occurrences come first, and of those with one start the longest. Two different
occurrences never tie, since two phrases of one length have different words. -/
def Match.precedes (a b : Match) : Bool :=
  a.start < b.start || (a.start == b.start && b.length ≤ a.length)

/-- Keeps the occurrences that begin at or after `reached` and after those kept before. They have to
come in the order of their places, the longest first where several begin at one place. -/
def disjointFrom (reached : Nat) : List Match → List Match
  | [] => []
  | m :: rest =>
    if m.start < reached then disjointFrom reached rest
    else m :: disjointFrom m.stop rest

/-- The phrases that count in a line, in order. After sorting, the first occurrence that is not
overlapped is the longest of its place. -/
def find (nodes : List Node) : List Match :=
  disjointFrom 0 ((occurrences nodes).mergeSort Match.precedes)

end Preposition

/-- A list, unless it is empty: an object without words is no object. -/
def nonEmpty? {α : Type} : List α → Option (List α)
  | [] => none
  | items => some items

/-- The verb call of a line whose first node is the verb, a bare word. A preposition right
after the verb belongs to neither object; the next one splits the line. -/
def Verbcall.ofLine? (line : List Node) : Option (Verbcall Node) := do
  let verb ← (← line.head?).asWord?
  let found := (Preposition.find line).filter (1 ≤ ·.start)
  let (start, found) : Nat × List Preposition.Match :=
    match found with
    | m :: rest => if m.start = 1 then (m.stop, rest) else (1, found)
    | [] => (1, [])
  let params := line.drop 1
  match found with
  | m :: _ =>
    return {
      verb
      direct := nonEmpty? ((line.take m.start).drop start)
      preposition := some m.phrase
      indirect := nonEmpty? (line.drop m.stop)
      params }
  | [] =>
    return {
      verb
      direct := nonEmpty? (line.drop start)
      preposition := none
      indirect := none
      params }

end VerbScript
