import VerbScript.Proofs.RenderedTokens

/-!
# Reading a line by position

A line can also be read by a loop that keeps the position of the next character and looks at the one
behind it where it has to: after a `#`, and after a backslash. Some iterations of this loop take no
character. The one that finds the first character of a word turns to reading a word, and the one
that finds the end of a word, a name or an id turns to what follows, and both leave the character to
the next iteration. That this goes on depends on the characters that end a word being those that
cannot begin one.

* `Cursor.iterate` — one iteration, and `Cursor.loop`, at most some number of them.
* `Cursor.Iterates` — all that an iteration comes to, by what the scanner makes of the same
  characters. `Cursor.iterate_iterates` is the inversion lemma.
* `Cursor.iterate_progresses` — an iteration fails, takes one or two characters, or leaves its
  character to an iteration that does.
* `Cursor.outcome_iterate` — an iteration does not change what the line comes to.
* `Token.lex_progresses` — so the loop ends, with the tokens of the line.
-/

namespace VerbScript

/-- What is being read, if the next character can be looked up. A `#` and a backslash are then no
states of their own. Texts are held newest character first. -/
inductive Reading where
  | start
  | word (forced : Bool) (text : List Char)
  | quoted (text : List Char)
  | name (sigil : Sigil) (text : List Char)
  | objectId (text : List Char)
  | aliasName (text : List Char)
  | comment (text : List Char)

/-- The same as a mode of the scanner. The scanner has more modes than these: it keeps in its mode
what the loop finds by looking one character ahead. -/
def Reading.mode : Reading → Mode
  | start => .start
  | word forced text => .word forced text
  | quoted text => .quoted text
  | name sigil text => .name sigil text
  | objectId text => .objectId text
  | aliasName text => .aliasName text
  | comment text => .comment text

namespace Scanner

variable {s : Scanner} {c : Char}

/-- Behind a closing bracket no token is being read. The bracket and what it encloses have become
one. -/
theorem closed_mode (s : Scanner) (closing : Char) (fits : Opener → Bool) :
    Yields (fun s' => s'.mode = .start) (s.closed closing fits) := by
  unfold closed
  cases s.enclosing with
  | nil => exact .error _
  | cons block outer =>
    dsimp only
    split
    · exact .ok rfl
    · exact .error _

/-- Behind a token no other is being read, and the same brackets are open. So the loop may look at
the character that has ended the token as one between tokens. -/
theorem complete_mode (s : Scanner) :
    Yields (fun s' => s'.mode = .start ∧ s'.enclosing = s.enclosing) s.complete := by
  unfold complete
  cases hs : s.mode with
  | start => exact .ok ⟨hs, rfl⟩
  | hash => exact .error _
  | word forced text => exact .ok ⟨rfl, rfl⟩
  | wordEscape forced text => exact .ok ⟨rfl, rfl⟩
  | quoted text => exact .error _
  | quotedEscape text => exact .error _
  | name sigil text =>
    dsimp only
    split
    · exact .error _
    · exact .ok ⟨rfl, rfl⟩
  | objectId text =>
    dsimp only
    split
    · exact .ok ⟨rfl, rfl⟩
    · exact .error _
  | aliasName text =>
    dsimp only
    split
    · exact .error _
    · exact .ok ⟨rfl, rfl⟩
  | comment text => exact .ok ⟨rfl, rfl⟩

/-- Between tokens, blanks and commas are passed over. A comma is passed over only here; within a
word it may belong to the word. -/
theorem begin_separator (h : (Text.isBlank c || c == ',') = true) (s : Scanner) :
    s.begin c = .ok { s with mode := .start } := by
  unfold begin
  split
  case h_10 => rfl
  case h_12 hcomma _ =>
    rw [Bool.or_eq_true, beq_iff_eq] at h
    rw [if_pos (h.resolve_right hcomma)]
  all_goals exact absurd h (by decide)

end Scanner

/-- The state of the loop: how far it has come, and what it has read up to there. The line itself is
no part of it. -/
structure Cursor where
  /-- How many characters have been taken. -/
  pos : Nat
  reading : Reading
  tokens : List Token
  enclosing : List (Opener × List Token)

namespace Cursor

/-- At the beginning of a line nothing is taken, and no token is being read. -/
def start : Cursor := ⟨0, .start, [], []⟩

/-- The scanner that has read the same tokens. It does not know the position, and the cursor does
not know the modes in which a scanner waits for one more character. -/
def scanner (k : Cursor) : Scanner := ⟨k.reading.mode, k.tokens, k.enclosing⟩

/-- Takes some characters, with which what is being read goes on. -/
def forward (k : Cursor) (n : Nat) (reading : Reading) : Cursor :=
  { k with pos := k.pos + n, reading }

/-- Takes some characters, with which the token being read ends. The tokens are those that the
scanner has made of it. -/
def behind (k : Cursor) (n : Nat) (s : Scanner) : Cursor :=
  ⟨k.pos + n, .start, s.tokens, s.enclosing⟩

/-- Takes a backslash and the character after it, which is read as it is. At the end of the line the
backslash is. -/
def escape (chars : List Char) (k : Cursor) (longer : Char → Reading) : Cursor :=
  match chars[k.pos + 1]? with
  | some next => k.forward 2 (longer next)
  | none => k.forward 1 (longer '\\')

/-- Ends the token being read in front of the character, which is not taken. -/
def ended (k : Cursor) : Except Problem Cursor := k.scanner.complete.map (k.behind 0)

/-- Ends the token being read in front of a character that terminates, and takes any other. What
terminates depends on the brackets that are open. -/
def extend (k : Cursor) (c : Char) (longer : Reading) : Except Problem Cursor :=
  if k.scanner.terminates c then k.ended else .ok (k.forward 1 longer)

/-- An iteration between tokens. A character with which a word begins is not taken either, since it
may turn out that the word is read in another way. -/
def begin (chars : List Char) (k : Cursor) (c : Char) : Except Problem Cursor :=
  match c with
  | '\'' => .ok (k.forward 1 (.quoted []))
  | '$' => .ok (k.forward 1 (.name .var []))
  | '%' => .ok (k.forward 1 (.name .prop []))
  | '#' =>
    if chars[k.pos + 1]? = some '#' then .ok (k.forward 2 (.aliasName []))
    else .ok (k.forward 1 (.objectId []))
  | ';' => .ok (k.forward 1 (.comment []))
  | '[' => .ok (k.behind 1 (k.scanner.opened .array))
  | '(' => .ok (k.behind 1 (k.scanner.opened .group))
  | ']' => (k.scanner.closed ']' (· != .group)).map (k.behind 1)
  | ')' => (k.scanner.closed ')' (· == .group)).map (k.behind 1)
  | '\\' => .ok (k.escape chars fun next => .word true [next])
  | c =>
    if Text.isBlank c || c == ',' then .ok (k.forward 1 .start)
    else .ok (k.forward 0 (.word false []))

/-- Whether a backslash in a string belongs to the character at the place. Any other backslash
stands for itself. -/
def escapes (chars : List Char) (place : Nat) : Bool :=
  chars[place]?.any fun next => next == '\'' || next == '\\'

/-- One iteration of the loop, which has found `c` at the position. It may look at the character
behind it, but takes no more than two. -/
def iterate (chars : List Char) (k : Cursor) (c : Char) : Except Problem Cursor :=
  match k.reading with
  | .start => k.begin chars c
  | .word forced text =>
    if k.scanner.terminates c then k.ended
    else if c = '\\' then .ok (k.escape chars fun next => .word forced (next :: text))
    else .ok (k.forward 1 (.word forced (c :: text)))
  | .quoted text =>
    if c = '\\' ∧ escapes chars (k.pos + 1) then
      .ok (k.escape chars fun next => .quoted (next :: text))
    else if c = '\'' then .ok (k.behind 1 (k.scanner.emit (.str (String.ofList text.reverse))))
    else .ok (k.forward 1 (.quoted (c :: text)))
  | .name sigil text =>
    if c = '[' then
      if text.isEmpty then .error (.missingName sigil.char)
      else .ok (k.behind 1 (k.scanner.opened (.index sigil (String.ofList text.reverse))))
    else k.extend c (.name sigil (c :: text))
  | .objectId text => k.extend c (.objectId (c :: text))
  | .aliasName text => k.extend c (.aliasName (c :: text))
  | .comment text => .ok (k.forward 1 (.comment (c :: text)))

/-- What the line comes to in at most `n` iterations. Without iterations left, only the end of the
line gives a result. -/
def loop (chars : List Char) (k : Cursor) : Nat → Option (Except Problem (List Token))
  | 0 => if chars.length ≤ k.pos then some k.scanner.finish else none
  | n + 1 =>
    match chars[k.pos]? with
    | none => some k.scanner.finish
    | some c =>
      match k.iterate chars c with
      | .ok k => k.loop chars n
      | .error problem => some (.error problem)

/-- The states in which the loop can be, each by one iteration from another. The loop is not run for
this, so nothing is asked of a number of iterations. -/
inductive Reached (chars : List Char) : Cursor → Prop where
  | start : Reached chars start
  | iterate {k k' : Cursor} {c : Char} (h : Reached chars k) (found : chars[k.pos]? = some c)
      (goes : k.iterate chars c = .ok k') : Reached chars k'

variable {chars : List Char} {k k' : Cursor} {c : Char}

/-! ### What an iteration comes to -/

/-- The scanner reads in a mode of its own where the cursor has looked ahead to this place. The
reading is the one that the cursor is in then, and both go on alike. -/
inductive Reads (chars : List Char) (place : Nat) : Mode → Reading → Prop where
  | same (reading : Reading) : Reads chars place reading.mode reading
  /-- After a `#` no other follows. -/
  | hash (single : chars[place]? ≠ some '#') : Reads chars place .hash (.objectId [])
  /-- A backslash in a string is followed by none of the characters it belongs to. -/
  | backslash {text : List Char} (alone : escapes chars place = false) :
      Reads chars place (.quotedEscape text) (.quoted ('\\' :: text))
  /-- A backslash is the last character of the line. -/
  | last {forced : Bool} {text : List Char} (nothing : chars[place]? = none) :
      Reads chars place (.wordEscape forced text) (.word forced ('\\' :: text))

/-- **All that an iteration comes to** when it has found `c`, by what the scanner makes of `c`. Only
two of the cases leave the character where it is. -/
inductive Iterates (chars : List Char) (k : Cursor) (c : Char) : Except Problem Cursor → Prop where
  | failed {problem : Problem} (refused : k.scanner.feed c = .error problem) :
      Iterates chars k c (.error problem)
  /-- A word begins with the character, which is left to the next iteration. -/
  | entered (reading : k.reading = .start) (inside : k.scanner.terminates c = false)
      (plain : c ≠ '\\') (fed : k.scanner.feed c = .ok { k.scanner with mode := .word false [c] }) :
      Iterates chars k c (.ok (k.forward 0 (.word false [])))
  /-- A token ends in front of the character, which is left to the next iteration. -/
  | left {s : Scanner} (busy : k.reading ≠ .start) (outside : k.scanner.terminates c = true)
      (completed : k.scanner.complete = .ok s) (fed : k.scanner.feed c = s.begin c) :
      Iterates chars k c (.ok (k.behind 0 s))
  /-- The character is taken. -/
  | one {k' : Cursor} {mode : Mode} (pos : k'.pos = k.pos + 1)
      (fed : k.scanner.feed c = .ok { k'.scanner with mode })
      (reads : Reads chars k'.pos mode k'.reading) : Iterates chars k c (.ok k')
  /-- The character is taken with the one behind it. -/
  | two {k' : Cursor} {d : Char} (pos : k'.pos = k.pos + 2) (next : chars[k.pos + 1]? = some d)
      (fed : (k.scanner.feed c).bind (Scanner.feed · d) = .ok k'.scanner) :
      Iterates chars k c (.ok k')

/-- An iteration that takes the character with which the scanner goes on in the same way. -/
theorem Iterates.took (pos : k'.pos = k.pos + 1) (fed : k.scanner.feed c = .ok k'.scanner) :
    k.Iterates chars c (.ok k') :=
  .one pos fed (.same k'.reading)

/-- A cursor behind a token is between tokens, as the scanner is. -/
theorem behind_scanner {s : Scanner} (h : s.mode = .start) (n : Nat) :
    (k.behind n s).scanner = s := by
  obtain ⟨mode, tokens, enclosing⟩ := s
  cases h
  rfl

/-- A bracket that is closed between tokens. The loop takes one character, and the scanner does the
same with it, fault or not. -/
theorem closed_iterates {closing : Char} {fits : Opener → Bool}
    (hfeed : k.scanner.feed c = k.scanner.closed closing fits) :
    k.Iterates chars c ((k.scanner.closed closing fits).map (k.behind 1)) := by
  cases hclosed : k.scanner.closed closing fits with
  | error problem => exact .failed (hfeed.trans hclosed)
  | ok s =>
    refine .took rfl ?_
    -- the bracket has become a token, and nothing is being read
    rw [hfeed, hclosed, behind_scanner (Scanner.closed_mode _ _ _ _ hclosed)]

/-- A backslash in a word, or in front of one. The loop takes the next character with it, if there
is one. -/
theorem escape_iterates {forced : Bool} {text : List Char}
    (hfeed : k.scanner.feed c = .ok { k.scanner with mode := .wordEscape forced text }) :
    k.Iterates chars c (.ok (k.escape chars fun next => .word forced (next :: text))) := by
  unfold escape
  cases hnext : chars[k.pos + 1]? with
  -- at the end of the line the backslash is read as itself, while the scanner waits
  | none => exact .one rfl hfeed (.last hnext)
  | some next =>
    refine .two rfl hnext ?_
    rw [hfeed]
    rfl

/-- An iteration between tokens. The cases are those of the loop, in its order; the last one is a
character with which a word begins, and it is left for the next iteration. -/
theorem begin_iterates (hstart : k.reading = .start) (chars : List Char) (c : Char) :
    k.Iterates chars c (k.begin chars c) := by
  have hfeed : k.scanner.feed c = k.scanner.begin c := by
    unfold Scanner.feed
    rw [show k.scanner.mode = .start from congrArg Reading.mode hstart]
  unfold begin
  split
  -- a string, a variable, a property
  · exact .took rfl hfeed
  · exact .took rfl hfeed
  · exact .took rfl hfeed
  · -- an id or an alias
    split
    · next hnext =>
      refine .two rfl hnext ?_
      rw [hfeed]
      rfl
    · next hnext => exact .one rfl hfeed (.hash hnext)
  -- a comment and the brackets
  · exact .took rfl hfeed
  · exact .took rfl hfeed
  · exact .took rfl hfeed
  · exact closed_iterates hfeed
  · exact closed_iterates hfeed
  -- a forced word
  · exact escape_iterates hfeed
  · next hbackslash =>
    split
    · -- a blank or a comma
      next hseparator =>
      exact .took rfl (hfeed.trans (Scanner.begin_separator hseparator k.scanner))
    · next hseparator =>
      -- none of the other cases, so the character is one with which a word begins
      have hordinary : Scanner.ordinary c = true := by
        simp_all [Scanner.ordinary, Scanner.marks]
      exact .entered hstart (Scanner.terminates_ordinary hordinary _) hbackslash
        (hfeed.trans (Scanner.begin_ordinary hordinary _))

/-- A token that ends in front of a character. The loop leaves the character for the next iteration,
and the scanner takes both at once. -/
theorem ended_iterates (hbusy : k.reading ≠ .start) (houtside : k.scanner.terminates c = true)
    (hfeed : k.scanner.feed c = k.scanner.complete.bind (Scanner.begin · c)) :
    k.Iterates chars c k.ended := by
  unfold ended
  -- the token may be refused, such as a name without characters
  cases hcomplete : k.scanner.complete with
  | error problem =>
    refine .failed ?_
    rw [hfeed, hcomplete]
    rfl
  | ok s =>
    refine .left hbusy houtside hcomplete ?_
    rw [hfeed, hcomplete]
    rfl

/-- An iteration in a name or an id, which a character either ends or makes longer. Only what it is
made longer by differs between them. -/
theorem extend_iterates {longer : Reading} (hbusy : k.reading ≠ .start)
    (hfeed : k.scanner.feed c = k.scanner.extend c longer.mode) :
    k.Iterates chars c (k.extend c longer) := by
  unfold Scanner.extend at hfeed
  unfold extend
  split
  · next houtside =>
    rw [if_pos houtside] at hfeed
    exact ended_iterates hbusy houtside hfeed
  · next hinside =>
    rw [if_neg hinside] at hfeed
    exact .took rfl hfeed

/-- An iteration in a string. A quote without a backslash in front ends it, and a backslash belongs
to the next character if that is a quote or a backslash. -/
theorem quoted_iterates {text : List Char} (hreading : k.reading = .quoted text) (chars : List Char)
    (c : Char) : k.Iterates chars c (k.iterate chars c) := by
  have hfeed : k.scanner.feed c = Scanner.feed ⟨.quoted text, k.tokens, k.enclosing⟩ c := by
    rw [scanner, hreading]
    rfl
  unfold iterate
  rw [hreading]
  dsimp only
  split
  · next hescape =>
    -- the character behind the backslash is one that it belongs to
    obtain ⟨rfl, hescapes⟩ := hescape
    obtain ⟨next, hnext, hmark⟩ := (Option.any_eq_true _ _).1 hescapes
    have hmark : next = '\'' ∨ next = '\\' := by simpa using hmark
    unfold escape
    rw [hnext]
    refine .two rfl hnext ?_
    rw [hfeed]
    have hread : (if next = '\'' ∨ next = '\\' then next :: text else next :: '\\' :: text)
        = next :: text := if_pos hmark
    change Except.ok (Scanner.mk (.quoted (if _ then _ else _)) _ _) = _
    rw [hread]
    rfl
  · next hescape =>
    split
    · next hquote =>
      refine .took rfl ?_
      rw [hfeed]
      exact (if_pos hquote).trans rfl
    · next hquote =>
      have hfed : k.scanner.feed c
          = .ok ⟨if c = '\\' then .quotedEscape text else .quoted (c :: text), k.tokens,
            k.enclosing⟩ := hfeed.trans (if_neg hquote)
      -- a backslash alone is kept, and any other character is kept as well
      by_cases hbackslash : c = '\\'
      · rw [if_pos hbackslash] at hfed
        have halone : escapes chars (k.pos + 1) = false :=
          Bool.eq_false_iff.2 fun hescapes => hescape ⟨hbackslash, hescapes⟩
        rw [hbackslash] at hfed ⊢
        exact .one rfl hfed (.backslash halone)
      · rw [if_neg hbackslash] at hfed
        exact .took rfl hfed

/-- An iteration in a word. A character ends it, escapes the next one, or is added to it. -/
theorem word_iterates {forced : Bool} {text : List Char} (hreading : k.reading = .word forced text)
    (chars : List Char) (c : Char) : k.Iterates chars c (k.iterate chars c) := by
  have hfeed : k.scanner.feed c = k.scanner.extend c
      (if c = '\\' then .wordEscape forced text else .word forced (c :: text)) := by
    rw [scanner, hreading]
    rfl
  unfold Scanner.extend at hfeed
  unfold iterate
  rw [hreading]
  dsimp only
  split
  · next houtside =>
    rw [if_pos houtside] at hfeed
    exact ended_iterates (by rw [hreading]; nofun) houtside hfeed
  · next hinside =>
    rw [if_neg hinside] at hfeed
    split
    · next hbackslash => exact escape_iterates (by rw [hfeed, if_pos hbackslash])
    · next hplain =>
      rw [if_neg hplain] at hfeed
      exact .took rfl hfeed

/-- An iteration in the name of a variable or property. Besides what ends any name, a `[` ends it,
and begins its index. -/
theorem name_iterates {sigil : Sigil} {text : List Char} (hreading : k.reading = .name sigil text)
    (chars : List Char) (c : Char) : k.Iterates chars c (k.iterate chars c) := by
  have hfeed : k.scanner.feed c = if c = '[' then
      if text.isEmpty then .error (.missingName sigil.char)
      else .ok (k.scanner.opened (.index sigil (String.ofList text.reverse)))
      else k.scanner.extend c (.name sigil (c :: text)) := by
    rw [scanner, hreading]
    rfl
  unfold iterate
  rw [hreading]
  dsimp only
  split
  · next hbracket =>
    rw [if_pos hbracket] at hfeed
    split
    · next hempty => exact .failed (by rw [hfeed, if_pos hempty])
    · next hname =>
      rw [if_neg hname] at hfeed
      exact .took rfl hfeed
  · next hbracket =>
    rw [if_neg hbracket] at hfeed
    exact extend_iterates (by rw [hreading]; nofun) hfeed

/-- **What an iteration comes to.** The cases are what is being read. From here on the definition of
an iteration is not opened again. -/
theorem iterate_iterates (chars : List Char) (k : Cursor) (c : Char) :
    k.Iterates chars c (k.iterate chars c) := by
  -- ids and aliases differ only in what they become when they get longer
  have hextends : ∀ reading longer, k.reading = reading → reading ≠ .start →
      (∀ tokens enclosing, Scanner.feed ⟨reading.mode, tokens, enclosing⟩ c =
        Scanner.extend ⟨reading.mode, tokens, enclosing⟩ c longer.mode) →
      k.Iterates chars c (k.extend c longer) := by
    intro reading longer hreading hbusy hfeed
    refine extend_iterates (hreading ▸ hbusy) ?_
    rw [scanner, hreading]
    exact hfeed k.tokens k.enclosing
  cases hreading : k.reading with
  | start =>
    unfold iterate
    rw [hreading]
    exact begin_iterates hreading chars c
  | word forced text => exact word_iterates hreading chars c
  | quoted text => exact quoted_iterates hreading chars c
  | name sigil text => exact name_iterates hreading chars c
  | objectId text =>
    unfold iterate
    rw [hreading]
    exact hextends _ (.objectId (c :: text)) hreading nofun fun _ _ => rfl
  | aliasName text =>
    unfold iterate
    rw [hreading]
    exact hextends _ (.aliasName (c :: text)) hreading nofun fun _ _ => rfl
  | comment text =>
    unfold iterate
    rw [hreading]
    refine .took rfl ?_
    rw [scanner, hreading]
    rfl

/-! ### Progress -/

/-- The iteration fails, or it takes one or two characters of the line. Two are taken where it has
looked ahead. -/
inductive Moves (chars : List Char) (k : Cursor) : Except Problem Cursor → Prop where
  | failed (problem : Problem) : Moves chars k (.error problem)
  | one {k' : Cursor} (pos : k'.pos = k.pos + 1) (within : k'.pos ≤ chars.length) :
      Moves chars k (.ok k')
  | two {k' : Cursor} (pos : k'.pos = k.pos + 2) (within : k'.pos ≤ chars.length) :
      Moves chars k (.ok k')

/-- The iteration fails or takes characters, or it takes none and the next one does. So two
iterations in a row always take a character. -/
inductive Progresses (chars : List Char) (k : Cursor) (c : Char) :
    Except Problem Cursor → Prop where
  | moves {result : Except Problem Cursor} (h : k.Moves chars result) : Progresses chars k c result
  | stays {k' : Cursor} (pos : k'.pos = k.pos) (next : k'.Moves chars (k'.iterate chars c)) :
      Progresses chars k c (.ok k')

/-- An iteration takes characters if it neither begins a word nor ends a token. Those two leave the
loop where it is, and they are followed by an iteration that does take some. -/
theorem Iterates.moves {result : Except Problem Cursor} (h : k.Iterates chars c result)
    (hpos : k.pos < chars.length) : k.Moves chars result ∨
      (k.reading = .start ∧ k.scanner.terminates c = false ∧ c ≠ '\\' ∧
        result = .ok (k.forward 0 (.word false []))) ∨
      (k.reading ≠ .start ∧ k.scanner.terminates c = true ∧
        ∃ s, k.scanner.complete = .ok s ∧ result = .ok (k.behind 0 s)) := by
  cases h with
  | failed refused => exact .inl (.failed _)
  | entered reading inside plain fed => exact .inr (.inl ⟨reading, inside, plain, rfl⟩)
  | left busy outside completed fed => exact .inr (.inr ⟨busy, outside, _, completed, rfl⟩)
  | one pos fed reads => exact .inl (.one pos (by omega))
  -- the second character was found, so it is within the line
  | two pos next fed =>
    have hnext := (List.getElem?_eq_some_iff.1 next).1
    exact .inl (.two pos (by omega))

/-- A character that ends a token begins no word. So an iteration that has ended a token is followed
by one that takes a character. -/
theorem begin_moves (hstart : k.reading = .start) (houtside : k.scanner.terminates c = true)
    (hpos : k.pos < chars.length) : k.Moves chars (k.iterate chars c) := by
  rcases (k.iterate_iterates chars c).moves hpos with hmoves | ⟨-, hinside, -⟩ | ⟨hbusy, -⟩
  · exact hmoves
  · -- such a character would have to be one that ends nothing
    rw [houtside] at hinside
    cases hinside
  · exact absurd hstart hbusy

/-- A word that has begun takes the character with which it has. -/
theorem iterate_entered (hword : k.reading = .word false [])
    (hinside : k.scanner.terminates c = false) (hplain : c ≠ '\\') (chars : List Char) :
    k.iterate chars c = .ok (k.forward 1 (.word false [c])) := by
  unfold iterate
  rw [hword]
  dsimp only
  rw [if_neg (Bool.eq_false_iff.1 hinside), if_neg hplain]

/-- **Every iteration makes progress.** An iteration that takes nothing has begun a word or ended a
token, and the character it has found says what the next one does. -/
theorem iterate_progresses (hc : chars[k.pos]? = some c) :
    k.Progresses chars c (k.iterate chars c) := by
  have hpos : k.pos < chars.length := (List.getElem?_eq_some_iff.1 hc).1
  rcases (k.iterate_iterates chars c).moves hpos with
    hmoves | ⟨-, hinside, hplain, heq⟩ | ⟨-, houtside, s, hcomplete, heq⟩
  · exact .moves hmoves
  · -- a word has begun, and takes the character
    rw [heq]
    refine .stays rfl ?_
    rw [iterate_entered (k := k.forward 0 (.word false [])) rfl hinside hplain]
    exact .one rfl hpos
  · -- a token has ended; the same characters terminate, because the same brackets are open
    rw [heq]
    have hagain : (k.behind 0 s).scanner.terminates c = true := by
      rw [← houtside]
      unfold Scanner.terminates
      rw [← (k.scanner.complete_mode _ hcomplete).2]
      rfl
    exact .stays rfl (begin_moves rfl hagain hpos)

/-! ### What the line comes to -/

/-- What the line comes to if the scanner reads it on from this place. It is the rest of the line,
fed to the scanner, and the end behind it. -/
def readFrom (chars : List Char) (place : Nat) (s : Scanner) : Except Problem (List Token) :=
  ((chars.drop place).foldlM Scanner.feed s).bind Scanner.finish

/-- What the line comes to if the scanner goes on in place of the cursor. The loop is compared with
this after every iteration. -/
def outcome (chars : List Char) (k : Cursor) : Except Problem (List Token) :=
  readFrom chars k.pos k.scanner

/-- The next character is fed to the scanner, which reads on from the place behind it. -/
theorem readFrom_some {place : Nat} (h : chars[place]? = some c) (s : Scanner) :
    readFrom chars place s = (s.feed c).bind (readFrom chars (place + 1)) := by
  obtain ⟨hlt, rfl⟩ := List.getElem?_eq_some_iff.1 h
  unfold readFrom
  rw [List.drop_eq_getElem_cons hlt, List.foldlM_cons]
  cases s.feed chars[place] <;> rfl

/-- At the end of the line the scanner finishes. -/
theorem readFrom_none {place : Nat} (h : chars[place]? = none) (s : Scanner) :
    readFrom chars place s = s.finish := by
  unfold readFrom
  rw [List.drop_eq_nil_of_le (List.getElem?_eq_none_iff.1 h)]
  rfl

/-- The next character is read in the same way, for the scanner waits for nothing but what the
cursor has looked up. -/
theorem Reads.feed_eq {place : Nat} {mode : Mode} {reading : Reading}
    (h : Reads chars place mode reading) (hc : chars[place]? = some c) (tokens : List Token)
    (enclosing : List (Opener × List Token)) :
    Scanner.feed ⟨mode, tokens, enclosing⟩ c
      = Scanner.feed ⟨reading.mode, tokens, enclosing⟩ c := by
  cases h with
  | same reading => rfl
  | hash single => exact if_neg fun heq => single (hc.trans (congrArg some heq))
  | @backslash text alone =>
    -- the character is not one that the backslash belongs to, so both keep the two
    have hplain : ¬(c = '\'' ∨ c = '\\') := by simpa [escapes, hc] using alone
    have hescaped : Scanner.feed ⟨.quotedEscape text, tokens, enclosing⟩ c
        = .ok ⟨.quoted (if c = '\'' ∨ c = '\\' then c :: text else c :: '\\' :: text), tokens,
          enclosing⟩ := rfl
    have hquoted : Scanner.feed ⟨.quoted ('\\' :: text), tokens, enclosing⟩ c
        = .ok ⟨if c = '\\' then .quotedEscape ('\\' :: text) else .quoted (c :: '\\' :: text),
          tokens, enclosing⟩ := if_neg fun heq => hplain (.inl heq)
    rw [hescaped, if_neg hplain]
    refine Eq.trans ?_ hquoted.symm
    rw [if_neg fun heq => hplain (.inr heq)]
  | last nothing =>
    rw [nothing] at hc
    cases hc

/-- **Looking ahead does not change what is read**: the scanner comes to the same from the mode in
which it waits and from the one that the cursor is in already. -/
theorem Reads.readFrom_eq {place : Nat} {mode : Mode} {reading : Reading}
    (h : Reads chars place mode reading) (tokens : List Token)
    (enclosing : List (Opener × List Token)) :
    readFrom chars place ⟨mode, tokens, enclosing⟩
      = readFrom chars place ⟨reading.mode, tokens, enclosing⟩ := by
  cases hc : chars[place]? with
  | none =>
    -- at the end of the line an id without digits is missing, and a backslash stands for itself
    rw [readFrom_none hc, readFrom_none hc]
    cases h <;> rfl
  | some c => rw [readFrom_some hc, readFrom_some hc, h.feed_eq hc]

/-- **An iteration does not change what the line comes to.** This is the step of the comparison; the
loop adds that it comes to an end. -/
theorem outcome_iterate (hc : chars[k.pos]? = some c) :
    k.outcome chars = (k.iterate chars c).bind (outcome chars) := by
  have h := k.iterate_iterates chars c
  generalize k.iterate chars c = result at h
  have hread : k.outcome chars = (k.scanner.feed c).bind (readFrom chars (k.pos + 1)) :=
    readFrom_some hc k.scanner
  cases h with
  | failed refused =>
    rw [hread, refused]
    rfl
  | entered reading inside plain fed =>
    rw [hread, fed]
    -- the word takes the character as its first one
    have hfirst : Scanner.feed ⟨.word false [], k.tokens, k.enclosing⟩ c
        = .ok ⟨.word false [c], k.tokens, k.enclosing⟩ := by
      unfold Scanner.feed Scanner.extend
      dsimp only
      rw [if_neg plain]
      exact if_neg (Bool.eq_false_iff.1 inside)
    change _ = readFrom chars k.pos ⟨.word false [], k.tokens, k.enclosing⟩
    rw [readFrom_some hc, hfirst]
    rfl
  -- the scanner completes the token and begins with the character in one go
  | @left s busy outside completed fed =>
    rw [hread, fed]
    have hmode := (k.scanner.complete_mode _ completed).1
    change _ = readFrom chars k.pos (k.behind 0 s).scanner
    rw [behind_scanner hmode, readFrom_some hc, Scanner.feed, hmode]
  | @one k' mode pos fed reads =>
    rw [hread, fed]
    have heq := reads.readFrom_eq k'.tokens k'.enclosing
    rw [pos] at heq
    change readFrom chars (k.pos + 1) _ = readFrom chars k'.pos k'.scanner
    rw [pos]
    exact heq
  -- the scanner is fed both characters, one after the other
  | @two k' d pos next fed =>
    rw [hread]
    change _ = readFrom chars k'.pos k'.scanner
    cases hfeed : k.scanner.feed c with
    | error problem =>
      rw [hfeed] at fed
      cases fed
    | ok s =>
      rw [hfeed] at fed
      have fed : s.feed d = .ok k'.scanner := fed
      change readFrom chars (k.pos + 1) s = _
      rw [readFrom_some next, fed, pos]
      rfl

/-! ### The tokens -/

/-- What is known of every state of the loop: it is within the line, its tokens are proper, and so
is what is being read, unless this is a word that will take its first character next. -/
structure Sound (chars : List Char) (k : Cursor) : Prop where
  within : k.pos ≤ chars.length
  proper : Scanner.Proper { k.scanner with mode := .start }
  begun : k.scanner.Proper ∨ k.reading = .word false [] ∧
    ∃ c, chars[k.pos]? = some c ∧ k.scanner.terminates c = false ∧ c ≠ '\\'

/-- A state whose scanner is proper is sound. -/
theorem Sound.of_proper (hwithin : k.pos ≤ chars.length) (h : k.scanner.Proper) : k.Sound chars :=
  ⟨hwithin, h.turn trivial, .inl h⟩

/-- What the cursor reads is proper if what the scanner reads is. -/
theorem Reads.proper {place : Nat} {mode : Mode} {reading : Reading}
    (h : Reads chars place mode reading) (hmode : mode.Proper) : reading.mode.Proper := by
  cases h with
  | same reading => exact hmode
  | hash single => trivial
  | backslash alone => trivial
  | last nothing => exact List.cons_ne_nil _ _

/-- **An iteration keeps the tokens proper.** An iteration that begins a word leaves it empty, and
then it has looked at the character that the word will begin with. -/
theorem Sound.iterate (h : k.Sound chars) (hc : chars[k.pos]? = some c)
    (hgoes : k.iterate chars c = .ok k') : k'.Sound chars := by
  have hpos : k.pos < chars.length := (List.getElem?_eq_some_iff.1 hc).1
  rcases h.begun with hproper | ⟨hword, c', hc', hinside, hplain⟩
  · -- the scanner keeps its state proper, and the cursor reads in a mode that is so as well
    have hiterates := k.iterate_iterates chars c
    rw [hgoes] at hiterates
    have hfeed := Scanner.feed_proper hproper c
    cases hiterates with
    -- a word has begun that has no character yet
    | entered reading inside plain fed =>
      exact ⟨Nat.le_of_lt hpos, h.proper, .inr ⟨rfl, c, hc, inside, plain⟩⟩
    | left busy outside completed fed =>
      have hs := Scanner.complete_proper hproper _ completed
      exact .of_proper (Nat.le_of_lt hpos) (hs.turn trivial)
    | @one k' mode pos fed reads =>
      have hs := hfeed _ fed
      exact .of_proper (by omega) ⟨reads.proper hs.mode, hs.tokens, hs.enclosing⟩
    | @two k' d pos next fed =>
      have hnext := (List.getElem?_eq_some_iff.1 next).1
      exact .of_proper (by omega) (hfeed.bind (fun s hs => Scanner.feed_proper hs d) _ fed)
  · -- a word takes its first character
    obtain rfl : c' = c := Option.some.inj (hc'.symm.trans hc)
    rw [iterate_entered hword hinside hplain] at hgoes
    cases hgoes
    exact .of_proper hpos ⟨List.cons_ne_nil _ _, h.proper.tokens, h.proper.enclosing⟩

/-- **The invariant of the loop**, by induction on how a state is reached. So it holds whenever the
loop looks at a character. -/
theorem Reached.sound (h : Reached chars k) : k.Sound chars := by
  induction h with
  | start => exact .of_proper (Nat.zero_le _) .initial
  | iterate h found goes ih => exact ih.iterate found goes

/-! ### The loop -/

/-- The loop needs two iterations for every character that is left, and one less if the next one
takes a character. -/
theorem loop_eq_outcome (n : Nat) (hwithin : k.pos ≤ chars.length)
    (henough : 2 * (chars.length - k.pos) ≤ n ∨ 2 * (chars.length - k.pos) ≤ n + 1 ∧
      ∀ c, chars[k.pos]? = some c → k.Moves chars (k.iterate chars c)) :
    k.loop chars n = some (k.outcome chars) := by
  -- by the iterations that are left; after one that takes no character the next one is known to
  induction n generalizing k with
  | zero =>
    have hend : chars.length ≤ k.pos := by omega
    rw [loop, if_pos hend, outcome, readFrom_none (List.getElem?_eq_none hend)]
  | succ n ih =>
    rw [loop]
    cases hc : chars[k.pos]? with
    | none => exact congrArg some (readFrom_none hc _).symm
    | some c =>
      have hpos : k.pos < chars.length := (List.getElem?_eq_some_iff.1 hc).1
      rw [outcome_iterate hc]
      dsimp only
      -- characters that are taken are paid for by this iteration and the one before it
      have hmoves : ∀ {result}, k.Moves chars result → 2 * (chars.length - k.pos) ≤ n + 2 →
          (match result with
            | .ok k => k.loop chars n
            | .error problem => some (.error problem)) = some (result.bind (outcome chars)) := by
        intro result hmoves hpaid
        cases hmoves with
        | failed problem => rfl
        | one pos within => exact ih within (.inl (by omega))
        | two pos within => exact ih within (.inl (by omega))
      rcases henough with hall | ⟨hless, hnext⟩
      · -- this iteration may take nothing, and then the next one is known to take something
        have hprogresses := iterate_progresses hc
        generalize k.iterate chars c = result at hprogresses
        cases hprogresses with
        | moves h => exact hmoves h (by omega)
        | @stays k'' pos next =>
          refine ih (k := k'') (by omega) (.inr ⟨by omega, fun c' hc' => ?_⟩)
          obtain rfl : c' = c := Option.some.inj (hc'.symm.trans (pos ▸ hc))
          exact next
      · exact hmoves (hnext c hc) (by omega)

end Cursor

/-- **Lexing makes progress.** In every state of the loop the position is within the line, and an
iteration fails, takes one or two characters of the line, or takes none and leaves the character to
an iteration that fails or takes it. No token that has been read, or is read at the end of the line,
is an empty word or has one inside. And after at most two iterations for every character the loop
has ended, with the tokens of the line or what is wrong with it. -/
theorem Token.lex_progresses (chars : List Char) :
    (∀ k : Cursor, k.Reached chars →
      k.pos ≤ chars.length ∧
      (∀ c, chars[k.pos]? = some c → k.Progresses chars c (k.iterate chars c)) ∧
      (∀ t ∈ k.tokens, t.Proper) ∧ (∀ block ∈ k.enclosing, ∀ t ∈ block.2, t.Proper) ∧
      (chars[k.pos]? = none → ∀ s, k.scanner.complete = .ok s → ∀ t ∈ s.tokens, t.Proper)) ∧
    Cursor.start.loop chars (2 * chars.length) = some (Token.lex chars) := by
  refine ⟨fun k hk => ?_, ?_⟩
  · have hsound := hk.sound
    refine ⟨hsound.within, fun c hc => Cursor.iterate_progresses hc, hsound.proper.tokens,
      fun block hblock => (hsound.proper.enclosing block hblock).2, fun hend s hs => ?_⟩
    -- at the end of the line no word is about to take its first character
    rcases hsound.begun with hproper | ⟨-, c, hc, -⟩
    · exact (Scanner.complete_proper hproper s hs).tokens
    · exact absurd (hend.symm.trans hc) nofun
  · exact Cursor.loop_eq_outcome _ (Nat.zero_le _) (.inl (Nat.le_refl _))

/-- The first iteration only finds that a word begins, and ten are enough for five characters. A
word takes one more at its beginning, and another one if a character ends it. -/
theorem Token.goUp_progresses :
    let chars := "go up".toList
    let k : Cursor := ⟨0, .word false [], [], []⟩
    k.Reached chars ∧ k.Progresses chars 'g' (k.iterate chars 'g') ∧
      Cursor.start.loop chars 10 = some (.ok [.word "go", .word "up"]) := by
  obtain ⟨hreached, hloop⟩ := Token.lex_progresses "go up".toList
  -- the first iteration has found a `g` and left it
  have hentered : Cursor.Reached "go up".toList ⟨0, .word false [], [], []⟩ :=
    .iterate .start rfl rfl
  exact ⟨hentered, (hreached _ hentered).2.1 'g' rfl, hloop⟩

end VerbScript
