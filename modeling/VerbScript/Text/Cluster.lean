import VerbScript.Text.Joining

/-!
# Clusters

The extended grapheme clusters of a text, which are what a reader takes for its characters.
`Ending` is all that the next boundary depends on, so `clusters` goes through the text once.
-/

namespace VerbScript.Text

/-- How a cluster ends, as far as it matters to what comes next. Several kinds of joining lead to
one ending. -/
inductive Ending where
  | plain
  | control
  | carriageReturn
  | prepend
  /-- A leading consonant of Hangul. -/
  | leading
  /-- A vowel of Hangul, alone or in a syllable. -/
  | vowel
  /-- A trailing consonant of Hangul, alone or in a syllable. -/
  | trailing
  /-- The first letter of a flag. -/
  | halfFlag
  /-- A pictograph and its extensions. -/
  | pictograph
  /-- A pictograph, its extensions and a joiner. -/
  | joined
  /-- A consonant and its extensions. -/
  | consonant
  /-- A consonant and its extensions, a linker among them. -/
  | linked
deriving DecidableEq

namespace Ending

/-- The ending of a cluster of one character. Signs that would join something before them begin a
plain cluster here. -/
def ofJoining : Joining → Ending
  | .control | .lineFeed => .control
  | .carriageReturn => .carriageReturn
  | .prepend => .prepend
  | .consonant => .consonant
  | .leading => .leading
  | .vowel | .openSyllable => .vowel
  | .trailing | .closedSyllable => .trailing
  | .regional => .halfFlag
  | .pictograph => .pictograph
  | .plain | .extend | .nonJoiner | .joiner | .linker | .mark => .plain

/-- Whether a character belongs to the cluster before it. The cases are tried in turn, so the rules
for controls go before those for extensions. -/
def admits : Ending → Joining → Bool
  | .carriageReturn, j => j = .lineFeed
  | .control, _ => false
  | _, .control | _, .carriageReturn | _, .lineFeed => false
  | _, .extend | _, .nonJoiner | _, .joiner | _, .linker | _, .mark => true
  | .prepend, _ => true
  | .leading, .leading | .leading, .vowel => true
  | .leading, .openSyllable | .leading, .closedSyllable => true
  | .vowel, .vowel | .vowel, .trailing => true
  | .trailing, .trailing => true
  | .linked, .consonant => true
  | .joined, .pictograph => true
  | .halfFlag, .regional => true
  | _, _ => false

/-- The ending of a cluster after a character that belongs to it. Whatever does not continue a
sequence counts as a beginning. -/
def push : Ending → Joining → Ending
  | .pictograph, .extend | .pictograph, .nonJoiner | .pictograph, .linker => .pictograph
  | .pictograph, .joiner => .joined
  | .consonant, .extend | .consonant, .joiner => .consonant
  | .consonant, .linker => .linked
  | .linked, .extend | .linked, .joiner | .linked, .linker => .linked
  | .halfFlag, .regional => .plain
  | _, j => ofJoining j

end Ending

/-- The clusters of a text, the first of which begins with the reverse of `cluster`. Whether a
character joins depends on the ending of the cluster and on nothing before it. -/
def clustersFrom (cluster : List Char) (e : Ending) : List Char → List (List Char)
  | [] => [cluster.reverse]
  | c :: rest =>
    let j := Joining.ofChar c
    if e.admits j then clustersFrom (c :: cluster) (e.push j) rest
    else cluster.reverse :: clustersFrom [c] (.ofJoining j) rest

/-- The clusters of a text. None of them is empty, and the empty text has none. -/
def clusters : List Char → List (List Char)
  | [] => []
  | c :: rest => clustersFrom [c] (.ofJoining (.ofChar c)) rest

/-- Nothing is lost between clusters. -/
theorem flatten_clustersFrom (cluster : List Char) (e : Ending) (cs : List Char) :
    (clustersFrom cluster e cs).flatten = cluster.reverse ++ cs := by
  induction cs generalizing cluster e with
  | nil => simp [clustersFrom]
  | cons c rest ih =>
    simp only [clustersFrom]
    split <;> simp [ih]

/-- The clusters of a text make up the text. So cutting a line into clusters loses none of its
characters. -/
theorem flatten_clusters (cs : List Char) : (clusters cs).flatten = cs := by
  cases cs with
  | nil => rfl
  | cons c rest => simp [clusters, flatten_clustersFrom]

end VerbScript.Text
