import VerbScript.Proofs.DelimitedTokens
import VerbScript.Proofs.Numerals

/-!
# Lexing is the inverse of rendering

Every well-formed list of tokens can be written down so that lexing reads it back, and lexing gives
well-formed lists only.

The lexer learns that a token has ended from the character behind it, so what is proved of the text
of one token is that the scanner *settles*: at the end of the line the token is complete, and a
blank or a closing bracket completes it as well. Then the texts of tokens can be put one behind
another, inside brackets and outside, and the induction is on the token.

* `Token.render`, `Token.renderAll` — the texts.
* `Scanner.Settles`, `Scanner.Reads` — reading a text up to a token that is still being read.
* `Scanner.foldlM_spelled` — characters that are read one by one, each in its own spelling.
* `Scanner.reads_token` — one token, by induction; `Scanner.reads_all` — tokens behind one another.
* `Token.lex_renders` — both directions.
-/

namespace VerbScript

/-! ### Rendering -/

namespace Token

/-- A character inside a string literal. The quote would end the literal, and the backslash would
escape what follows, so these two are escaped themselves. -/
def quote (c : Char) : List Char := if c = '\'' ∨ c = '\\' then ['\\', c] else [c]

/-- A character of a forced word. Every character is escaped, so the word is a word whatever it
looks like. -/
def escape (c : Char) : List Char := ['\\', c]

mutual

/-- The text of a token. A comment has one too, but it is not read back inside a line, since it goes
on to the end of it. -/
def render : Token → List Char
  | .str text => '\'' :: (text.toList.flatMap quote ++ ['\''])
  | .number n => n.display.toList
  | .bool b => if b then "true".toList else "false".toList
  | .null => "null".toList
  | .word text => text.toList.flatMap escape
  | .reference sigil name index => sigil.char :: (name.toList ++ renderIndex index)
  | .object id => id.display.toList
  | .named name => '#' :: '#' :: name.toList
  | .comment text => ';' :: text.toList
  | .array items => '[' :: (renderAll items ++ [']'])
  | .group items => '(' :: (renderAll items ++ [')'])

/-- The text behind the name of a reference: nothing, or the tokens of the index in brackets, which
follow the name without a blank. -/
def renderIndex : Option (List Token) → List Char
  | none => []
  | some items => '[' :: (renderAll items ++ [']'])

/-- The texts of tokens with a blank between each two. A blank ends whatever token is being read
before it, so no two tokens run together. -/
def renderAll : List Token → List Char
  | [] => []
  | t :: rest => t.render ++ renderRest rest

/-- The texts of tokens, each behind a blank. -/
def renderRest : List Token → List Char
  | [] => []
  | t :: rest => ' ' :: (t.render ++ renderRest rest)

end

/-- The tokens between the brackets of a token: the items of an array or a group, and those of an
index. Other tokens have none. -/
def inner : Token → List Token
  | .reference _ _ (some items) => items
  | .array items => items
  | .group items => items
  | _ => []

/-- A token is the other one, or stands inside its brackets at some depth. -/
inductive Within (t : Token) : Token → Prop where
  | refl : Within t t
  | inside {u v : Token} (among : v ∈ u.inner) (deeper : Within t v) : Within t u

/-- A property of all tokens of a list and of all that stand inside them, at any depth. Both
conditions of the round trip are of this kind. -/
def Throughout (P : Token → Prop) (tokens : List Token) : Prop :=
  ∀ t ∈ tokens, ∀ u, Within u t → P u

/-- There is no comment at any depth. A comment goes on to the end of its line, so nothing behind it
could be read back. -/
def CommentFree : List Token → Prop := Throughout fun t => t.isComment = false

/-- The numbers at every depth are short integers. Of these it is known below that their digits are
read as the number that they are. -/
def Integral : List Token → Prop := Throughout fun t => ∀ n, t = .number n → n.ShortInteger

/-- What holds throughout a list holds throughout what stands inside one of its tokens. -/
theorem Throughout.inner {P : Token → Prop} {tokens : List Token} (h : Throughout P tokens)
    {t : Token} (ht : t ∈ tokens) : Throughout P t.inner :=
  fun _ hu v hv => h t ht v (.inside hu hv)

/-- Any property holds throughout no tokens. -/
theorem throughout_nil (P : Token → Prop) : Throughout P [] :=
  fun _ ht => absurd ht List.not_mem_nil

/-- A property holds throughout a list if it holds of the first token, of what stands inside it, and
throughout the others. -/
theorem throughout_cons {P : Token → Prop} {t : Token} {rest : List Token} :
    Throughout P (t :: rest) ↔ P t ∧ Throughout P t.inner ∧ Throughout P rest := by
  constructor
  · intro h
    exact ⟨h t List.mem_cons_self t .refl, h.inner List.mem_cons_self,
      fun u hu => h u (List.mem_cons_of_mem _ hu)⟩
  · rintro ⟨ht, hinner, hrest⟩ u hu v hv
    rcases List.mem_cons.1 hu with rfl | hu
    · cases hv with
      | refl => exact ht
      | inside among deeper => exact hinner _ among v deeper
    · exact hrest u hu v hv

end Token

namespace Scanner

variable {tokens : List Token} {enclosing : List (Opener × List Token)}

/-! ### The end of a token -/

/-- The scanner between two tokens, with these tokens read in the innermost bracket, newest first,
and these brackets around it. -/
def between (tokens : List Token) (enclosing : List (Opener × List Token)) : Scanner :=
  ⟨.start, tokens, enclosing⟩

/-- **What is being read is complete**: at the end of the line, and before a blank or a closing
bracket. -/
structure Settles (s settled : Scanner) : Prop where
  complete : s.complete = .ok settled
  feed : ∀ c ∈ [' ', ']', ')'], s.feed c = settled.begin c

/-- Reading the text leads to a scanner that settles. The token need not be complete at the end of
the text, but it is so at whatever comes behind it. -/
def Reads (text : List Char) (s settled : Scanner) : Prop :=
  ∃ s', text.foldlM feed s = .ok s' ∧ s'.Settles settled

/-- Between two tokens nothing is being read, so there is nothing to complete. -/
theorem Settles.between : (between tokens enclosing).Settles (between tokens enclosing) :=
  ⟨rfl, fun _ _ => rfl⟩

/-- A blank or a closing bracket terminates what is being read, inside brackets and outside. A
comma, by contrast, does so inside brackets only. -/
theorem terminates_of_mem (s : Scanner) : ∀ c ∈ [' ', ']', ')'], s.terminates c = true := by
  intro c hc
  simp only [List.mem_cons, List.not_mem_nil, or_false] at hc
  rcases hc with rfl | rfl | rfl <;> rfl

/-- What is being read grows by a character that does not terminate it. -/
theorem extend_longer (s : Scanner) {c : Char} (h : s.terminates c = false) (longer : Mode) :
    s.extend c longer = .ok { s with mode := longer } := by
  rw [extend, h, if_neg Bool.false_ne_true]

/-- A token that goes on up to a character that terminates it. A blank and both closing brackets are
such characters, and no other one follows a token in a rendered line. -/
theorem Settles.of_extend {s settled : Scanner} (hcomplete : s.complete = .ok settled)
    (hfeed : ∀ c ∈ [' ', ']', ')'], ∃ longer, s.feed c = s.extend c longer) :
    s.Settles settled := by
  refine ⟨hcomplete, fun c hc => ?_⟩
  obtain ⟨longer, hlonger⟩ := hfeed c hc
  -- the character terminates the token, which is completed, and begins what comes next
  rw [hlonger, extend, if_pos (terminates_of_mem s c hc), hcomplete]
  rfl

/-- At the end of the text. -/
theorem Reads.nil {s settled : Scanner} (h : s.Settles settled) : Reads [] s settled := ⟨s, rfl, h⟩

/-- One character before the others. The scanner reads a text from left to right, so texts are taken
apart at their beginning. -/
theorem Reads.cons {c : Char} {rest : List Char} {s s' settled : Scanner}
    (hc : s.feed c = .ok s') (h : Reads rest s' settled) : Reads (c :: rest) s settled := by
  obtain ⟨s'', hfeed, hsettles⟩ := h
  refine ⟨s'', ?_, hsettles⟩
  rw [List.foldlM_cons, hc]
  exact hfeed

/-- One text before the other. The scanner goes on from where the first one has left it, which need
not be between two tokens. -/
theorem Reads.after {first rest : List Char} {s s' settled : Scanner}
    (hfirst : first.foldlM Scanner.feed s = .ok s') (h : Reads rest s' settled) :
    Reads (first ++ rest) s settled := by
  obtain ⟨s'', hfeed, hsettles⟩ := h
  refine ⟨s'', ?_, hsettles⟩
  rw [List.foldlM_append, hfirst]
  exact hfeed

/-- **Characters in their own spelling**: if each character is read by reading its spelling, then so
is the text. What is read is held newest character first. -/
theorem foldlM_spelled (spell : Char → List Char) (grow : List Char → Scanner) (text : List Char)
    (hfeed : ∀ c ∈ text, ∀ read, (spell c).foldlM feed (grow read) = .ok (grow (c :: read)))
    (read : List Char) :
    (text.flatMap spell).foldlM feed (grow read) = .ok (grow (text.reverse ++ read)) := by
  induction text generalizing read with
  | nil => rfl
  | cons c text ih =>
    obtain ⟨hc, htext⟩ := List.forall_mem_cons.1 hfeed
    -- the first character is read by its spelling, and the others behind it
    rw [List.flatMap_cons, List.foldlM_append, hc, List.reverse_cons, List.append_assoc]
    exact ih htext (c :: read)

/-- Characters that stand for themselves. They are collected in front of those that were read
before, so the text is held the other way round. -/
theorem foldlM_plain (grow : List Char → Scanner) {text : List Char}
    (hfeed : ∀ c ∈ text, ∀ read, (grow read).feed c = .ok (grow (c :: read))) (read : List Char) :
    text.foldlM feed (grow read) = .ok (grow (text.reverse ++ read)) := by
  have hspell : ∀ c ∈ text, ∀ read, [c].foldlM feed (grow read) = .ok (grow (c :: read)) :=
    fun c hc read => congrArg (·.bind pure) (hfeed c hc read)
  have hspelled := foldlM_spelled (fun c => [c]) grow text hspell read
  rwa [List.flatMap_singleton'] at hspelled

/-- A text is held newest character first until it is complete. -/
theorem ofList_reversed (text : String) : String.ofList text.toList.reverse.reverse = text := by
  rw [List.reverse_reverse, String.ofList_toList]

/-- A text that is not empty is not empty when it is held the other way round. -/
theorem reversed_nonempty {text : String} (h : text ≠ "") :
    ¬ text.toList.reverse.isEmpty = true := by
  rw [List.isEmpty_iff, List.reverse_eq_nil_iff, String.toList_eq_nil_iff]
  exact h

/-! ### Strings and words -/

/-- A character is kept as it is when its spelling inside a literal is read. A quote and a backslash
are spelled with a backslash in front, and all others as themselves. -/
theorem feed_quote (c : Char) (read : List Char) :
    (Token.quote c).foldlM feed ⟨.quoted read, tokens, enclosing⟩ =
      .ok ⟨.quoted (c :: read), tokens, enclosing⟩ := by
  rw [Token.quote]
  split
  · next hspecial =>
    -- the backslash before a quote or a backslash is not kept
    have hescaped : feed ⟨.quotedEscape read, tokens, enclosing⟩ c =
        .ok ⟨.quoted (c :: read), tokens, enclosing⟩ := by
      rw [feed]
      dsimp only
      rw [if_pos hspecial]
    exact congrArg (·.bind pure) hescaped
  · next hplain =>
    obtain ⟨hend, hescape⟩ := not_or.1 hplain
    have hkept : feed ⟨.quoted read, tokens, enclosing⟩ c =
        .ok ⟨.quoted (c :: read), tokens, enclosing⟩ := by
      rw [feed]
      dsimp only
      rw [if_neg hend, if_neg hescape]
    exact congrArg (·.bind pure) hkept

/-- **A string is read back**: the quote begins it, its characters are spelled, and the second quote
ends it. -/
theorem reads_str (text : String) :
    Reads (Token.str text).render (between tokens enclosing)
      (between (.str text :: tokens) enclosing) := by
  have htext := foldlM_spelled Token.quote (fun read => ⟨.quoted read, tokens, enclosing⟩)
    text.toList (fun c _ read => feed_quote c read) []
  have hend : feed ⟨.quoted (text.toList.reverse ++ []), tokens, enclosing⟩ '\'' =
      .ok (between (.str text :: tokens) enclosing) := by
    rw [List.append_nil]
    show Except.ok (between (.str (String.ofList text.toList.reverse.reverse) :: tokens) _) = _
    rw [ofList_reversed]
  change Reads ('\'' :: (text.toList.flatMap Token.quote ++ ['\''])) _ _
  exact .cons rfl (.after htext (.cons hend (.nil .between)))

/-- A word in which every character is escaped is never a keyword or a number. So the text of the
word may be anything, even that of a keyword. -/
theorem reads_word {text : String} (hne : text ≠ "") :
    Reads (Token.word text).render (between tokens enclosing)
      (between (.word text :: tokens) enclosing) := by
  -- the first backslash begins the word, the others are inside it
  obtain ⟨c, rest, htoList⟩ :=
    List.exists_cons_of_ne_nil (mt String.toList_eq_nil_iff.1 hne)
  have hrest := foldlM_spelled Token.escape (fun read => ⟨.word true read, tokens, enclosing⟩)
    rest (fun _ _ _ => rfl) [c]
  have hcomplete : complete ⟨.word true (rest.reverse ++ [c]), tokens, enclosing⟩ =
      .ok (between (.word text :: tokens) enclosing) := by
    rw [← List.reverse_cons, ← htoList]
    show Except.ok (between (.word (String.ofList text.toList.reverse.reverse) :: tokens) _) = _
    rw [ofList_reversed]
  change Reads (text.toList.flatMap Token.escape) _ _
  rw [htoList, List.flatMap_cons]
  exact .cons rfl (.cons rfl ⟨_, hrest, .of_extend hcomplete fun c _ => ⟨_, rfl⟩⟩)

/-! ### Keywords and numerals -/

/-- The characters that begin a token of their own kind, or end one. A word has to be escaped to
begin with one of them. -/
def marks : List Char := ['\'', '$', '%', '#', ';', '[', '(', ']', ')', ',', '\\']

/-- Whether a character is read as part of a word, also at the beginning of one. -/
def ordinary (c : Char) : Bool := !Text.isBlank c && !marks.contains c

/-- An ordinary character is not a blank. -/
theorem isBlank_ordinary {c : Char} (h : ordinary c = true) : Text.isBlank c = false :=
  (Bool.not_eq_true' _).mp ((Bool.and_eq_true _ _).mp h).1

/-- An ordinary character is none of the marks. Marks are compared with it one by one where a token
begins. -/
theorem ne_of_ordinary {c mark : Char} (h : ordinary c = true) (hmark : ordinary mark = false) :
    c ≠ mark := by
  rintro rfl
  exact absurd h (Bool.eq_false_iff.1 hmark)

/-- An ordinary character between tokens begins a word. What the word turns out to be is decided at
its end. -/
theorem begin_ordinary {c : Char} (h : ordinary c = true) (s : Scanner) :
    s.begin c = .ok { s with mode := .word false [c] } := by
  unfold begin
  split
  case h_12 => rw [isBlank_ordinary h, if_neg Bool.false_ne_true]
  all_goals exact absurd h (by decide)

/-- An ordinary character ends nothing, also inside brackets. So a text of such characters is one
token. -/
theorem terminates_ordinary {c : Char} (h : ordinary c = true) (s : Scanner) :
    s.terminates c = false := by
  have hne : ∀ mark, ordinary mark = false → (c == mark) = false :=
    fun mark hmark => beq_eq_false_iff_ne.2 (ne_of_ordinary h hmark)
  rw [terminates, isBlank_ordinary h, hne ']' rfl, hne '(' rfl, hne ')' rfl, hne ',' rfl]
  rfl

/-- Ordinary characters make a word, a keyword or a number. Which of them it is can be told only
when the last character has been read. -/
theorem reads_ordinary {text : List Char} (hne : text ≠ [])
    (hordinary : ∀ c ∈ text, ordinary c = true) :
    Reads text (between tokens enclosing) (between (classify text :: tokens) enclosing) := by
  obtain ⟨first, rest, rfl⟩ := List.exists_cons_of_ne_nil hne
  obtain ⟨hfirst, hrest⟩ := List.forall_mem_cons.1 hordinary
  -- behind the first character the others are added one by one, as none of them ends the word
  have hgrow : ∀ c ∈ rest, ∀ read, feed ⟨.word false read, tokens, enclosing⟩ c =
      .ok ⟨.word false (c :: read), tokens, enclosing⟩ := by
    intro c hc read
    rw [feed]
    dsimp only
    rw [if_neg (ne_of_ordinary (hrest c hc) rfl)]
    exact extend_longer _ (terminates_ordinary (hrest c hc) _) _
  have hread := foldlM_plain (fun read => ⟨.word false read, tokens, enclosing⟩) hgrow [first]
  have hcomplete : complete ⟨.word false (rest.reverse ++ [first]), tokens, enclosing⟩ =
      .ok (between (classify (first :: rest) :: tokens) enclosing) := by
    rw [← List.reverse_cons]
    show Except.ok (between (classify (first :: rest).reverse.reverse :: tokens) _) = _
    rw [List.reverse_reverse]
  exact .cons (begin_ordinary hfirst _)
    ⟨_, hread, .of_extend hcomplete fun c _ => ⟨_, rfl⟩⟩

/-- Digits up to sixteen are ordinary. -/
theorem digitChar_ordinary {d : Nat} (h : d < 16) : ordinary d.digitChar = true := by
  revert h d
  decide

/-- The text of a numeral, decimal or hexadecimal, is ordinary. This covers numbers as well as the
ids of objects. -/
theorem toDigits_ordinary {base n : Nat} (hlow : 1 < base) (hhigh : base ≤ 16) :
    ∀ c ∈ Nat.toDigits base n, ordinary c = true := by
  intro c hc
  obtain ⟨d, hd, rfl⟩ := exists_digitChar_of_mem hlow hc
  exact digitChar_ordinary (by omega)

/-- A literal is neither a keyword nor a word. Keywords are asked for first, so none of them may
read as a number. -/
theorem classify_literal {text : List Char} {n : Number} (h : Number.ofLiteral? text = some n) :
    classify text = .number n := by
  -- the keywords are no literals, so a literal is none of them
  have hword : ∀ word : String, Number.ofLiteral? word.toList = none →
      String.ofList text ≠ word := by
    rintro _ hnone rfl
    rw [String.toList_ofList, h] at hnone
    cases hnone
  unfold classify
  dsimp only
  rw [if_neg (hword "true" rfl), if_neg (hword "false" rfl), if_neg (hword "null" rfl), h]

/-- **A short integer is read back** from its digits, with or without a sign. Its digits are read as
a word, and it is the classification of words that makes it a number again. -/
theorem reads_number {n : Number} (h : n.ShortInteger) :
    Reads (Token.number n).render (between tokens enclosing)
      (between (.number n :: tokens) enclosing) := by
  change Reads n.display.toList _ _
  -- the text is classified as a literal, and that of this number is the number
  rw [← classify_literal (Number.ofLiteral?_display h)]
  have htext : n.display.toList =
      if n.negative then '-' :: Nat.toDigits 10 n.wholePart else Nat.toDigits 10 n.wholePart := by
    rw [h.display_eq, Number.withSign, String.toList_ofList]
  have hdigits : ∀ c ∈ Nat.toDigits 10 n.wholePart, ordinary c = true :=
    toDigits_ordinary (by decide) (by decide)
  rw [htext]
  split
  · exact reads_ordinary (List.cons_ne_nil _ _) (List.forall_mem_cons.2 ⟨rfl, hdigits⟩)
  · exact reads_ordinary Nat.toDigits_ne_nil hdigits

/-- The two truth values are keywords. They are written without an escape, and all their characters
are ordinary. -/
theorem reads_bool (b : Bool) :
    Reads (Token.bool b).render (between tokens enclosing)
      (between (.bool b :: tokens) enclosing) := by
  cases b with
  | true =>
    have hordinary : "true".toList.all ordinary = true := rfl
    exact reads_ordinary (List.cons_ne_nil _ _) (List.all_eq_true.1 hordinary)
  | false =>
    have hordinary : "false".toList.all ordinary = true := rfl
    exact reads_ordinary (List.cons_ne_nil _ _) (List.all_eq_true.1 hordinary)

/-- So is `null`. -/
theorem reads_null :
    Reads Token.null.render (between tokens enclosing) (between (.null :: tokens) enclosing) := by
  have hordinary : "null".toList.all ordinary = true := rfl
  exact reads_ordinary (List.cons_ne_nil _ _) (List.all_eq_true.1 hordinary)

/-! ### Names and ids -/

/-- **An object id is read back** from its hexadecimal digits, behind a single `#`. Another `#` in
their place would begin an alias, but it is no digit. -/
theorem reads_object (id : ObjectId) :
    Reads (Token.object id).render (between tokens enclosing)
      (between (.object id :: tokens) enclosing) := by
  obtain ⟨first, rest, hdigits⟩ :=
    List.exists_cons_of_ne_nil (show id.digits ≠ [] from Nat.toDigits_ne_nil)
  have hordinary : ∀ c ∈ id.digits, ordinary c = true :=
    toDigits_ordinary (by decide) (by decide)
  rw [hdigits] at hordinary
  obtain ⟨hfirst, hrest⟩ := List.forall_mem_cons.1 hordinary
  -- a second `#` would begin an alias
  have hbegin : feed ⟨.hash, tokens, enclosing⟩ first =
      .ok ⟨.objectId [first], tokens, enclosing⟩ := by
    rw [feed]
    dsimp only
    rw [if_neg (ne_of_ordinary hfirst rfl)]
    exact extend_longer _ (terminates_ordinary hfirst _) _
  have hgrow : ∀ c ∈ rest, ∀ read, feed ⟨.objectId read, tokens, enclosing⟩ c =
      .ok ⟨.objectId (c :: read), tokens, enclosing⟩ :=
    fun c hc _ => extend_longer _ (terminates_ordinary (hrest c hc) _) _
  have hread := foldlM_plain (fun read => ⟨.objectId read, tokens, enclosing⟩) hgrow [first]
  have hcomplete : complete ⟨.objectId (rest.reverse ++ [first]), tokens, enclosing⟩ =
      .ok (between (.object id :: tokens) enclosing) := by
    rw [← List.reverse_cons, ← hdigits, complete]
    dsimp only
    rw [List.reverse_reverse, ObjectId.ofHex?_digits]
    rfl
  change Reads id.display.toList _ _
  rw [ObjectId.display, String.toList_ofList, hdigits]
  exact .cons rfl (.cons hbegin ⟨_, hread, .of_extend hcomplete fun c _ => ⟨_, rfl⟩⟩)

/-- **An alias is read back**, as long as no character of its name ends it at this place. Names are
not escaped, so this has to be assumed of them. -/
theorem reads_named {name : String} (hne : name ≠ "")
    (hname : ∀ c ∈ name.toList, Token.separates (!enclosing.isEmpty) c = false) :
    Reads (Token.named name).render (between tokens enclosing)
      (between (.named name :: tokens) enclosing) := by
  have hgrow : ∀ c ∈ name.toList, ∀ read, feed ⟨.aliasName read, tokens, enclosing⟩ c =
      .ok ⟨.aliasName (c :: read), tokens, enclosing⟩ :=
    fun c hc read => extend_longer ⟨.aliasName read, tokens, enclosing⟩ (hname c hc) _
  have hread := foldlM_plain (fun read => ⟨.aliasName read, tokens, enclosing⟩) hgrow []
  rw [List.append_nil] at hread
  have hcomplete : complete ⟨.aliasName name.toList.reverse, tokens, enclosing⟩ =
      .ok (between (.named name :: tokens) enclosing) := by
    rw [complete]
    dsimp only
    rw [if_neg (reversed_nonempty hne), ofList_reversed]
    rfl
  change Reads ('#' :: '#' :: name.toList) _ _
  exact .cons rfl (.cons rfl ⟨_, hread, .of_extend hcomplete fun c _ => ⟨_, rfl⟩⟩)

/-- The name of a reference, before its index or its end. Here a `[` ends it as well, as the index
begins with one. -/
theorem foldlM_name (sigil : Sigil) {name : String}
    (hname : ∀ c ∈ name.toList, c ≠ '[' ∧ Token.separates (!enclosing.isEmpty) c = false) :
    (sigil.char :: name.toList).foldlM feed (between tokens enclosing) =
      .ok ⟨.name sigil name.toList.reverse, tokens, enclosing⟩ := by
  have hgrow : ∀ c ∈ name.toList, ∀ read, feed ⟨.name sigil read, tokens, enclosing⟩ c =
      .ok ⟨.name sigil (c :: read), tokens, enclosing⟩ := by
    intro c hc read
    obtain ⟨hbracket, hopen⟩ := hname c hc
    rw [feed]
    dsimp only
    rw [if_neg hbracket]
    exact extend_longer ⟨.name sigil read, tokens, enclosing⟩ hopen _
  have hread := foldlM_plain (fun read => ⟨.name sigil read, tokens, enclosing⟩) hgrow []
  rw [List.append_nil] at hread
  have hbegin : feed (between tokens enclosing) sigil.char =
      .ok ⟨.name sigil [], tokens, enclosing⟩ := by
    cases sigil <;> rfl
  rw [List.foldlM_cons, hbegin]
  exact hread

/-- An opening bracket behind a name begins its index. The name must have a character, and from then
on it is kept by the bracket. -/
theorem feed_index (sigil : Sigil) {name : String} (hne : name ≠ "") :
    feed ⟨.name sigil name.toList.reverse, tokens, enclosing⟩ '[' =
      .ok (between [] ((.index sigil name, tokens) :: enclosing)) := by
  rw [feed]
  dsimp only
  rw [if_pos rfl, if_neg (reversed_nonempty hne), ofList_reversed]
  rfl

/-- **A reference without an index is read back**, as long as no character of its name ends it or
begins an index. -/
theorem reads_reference {sigil : Sigil} {name : String} (hne : name ≠ "")
    (hname : ∀ c ∈ name.toList, c ≠ '[' ∧ Token.separates (!enclosing.isEmpty) c = false) :
    Reads (Token.reference sigil name none).render (between tokens enclosing)
      (between (.reference sigil name none :: tokens) enclosing) := by
  have hcomplete : complete ⟨.name sigil name.toList.reverse, tokens, enclosing⟩ =
      .ok (between (.reference sigil name none :: tokens) enclosing) := by
    rw [complete]
    dsimp only
    rw [if_neg (reversed_nonempty hne), ofList_reversed]
    rfl
  change Reads (sigil.char :: (name.toList ++ [])) _ _
  rw [List.append_nil]
  refine ⟨_, foldlM_name sigil hname, .of_extend hcomplete fun c hc => ?_⟩
  -- an opening bracket would begin an index
  have hbracket : c ≠ '[' := by
    rintro rfl
    exact absurd hc (by decide)
  exact ⟨.name sigil (c :: name.toList.reverse), if_neg hbracket⟩

/-! ### Brackets -/

/-- The character that closes a bracket. -/
def closing : Opener → Char
  | .group => ')'
  | .array | .index _ _ => ']'

/-- The closing character makes a token of the bracket. It joins those that were read before the
bracket was opened. -/
theorem begin_closing (o : Opener) (inner before : List Token)
    (outer : List (Opener × List Token)) :
    (between inner ((o, before) :: outer)).begin (closing o) =
      .ok (between (o.close inner.reverse :: before) outer) := by
  cases o <;> rfl

/-- Whatever it closes, the closing character is one that completes a token. So no blank is needed
in front of it. -/
theorem closing_mem (o : Opener) : closing o ∈ [' ', ']', ')'] := by
  cases o with
  | group => exact .tail _ (.tail _ (.head _))
  | array => exact .tail _ (.head _)
  | index sigil name => exact .tail _ (.head _)

section Sequence

variable {items : List Token}
  (hitems : ∀ t ∈ items, ∀ tokens,
    Reads t.render (between tokens enclosing) (between (t :: tokens) enclosing))

include hitems

/-- Behind a token that settles, the next ones are read. A blank stands in front of each of them,
and the induction is on the tokens that are left. -/
theorem reads_rest {s : Scanner} (hs : s.Settles (between tokens enclosing)) :
    Reads (Token.renderRest items) s (between (items.reverse ++ tokens) enclosing) := by
  induction items generalizing s tokens with
  | nil => exact .nil hs
  | cons t rest ih =>
    obtain ⟨ht, hrest⟩ := List.forall_mem_cons.1 hitems
    obtain ⟨s', hread, hsettles⟩ := ht tokens
    -- the blank leaves the scanner between tokens
    have hblank : s.feed ' ' = .ok (between tokens enclosing) := hs.feed ' ' (by decide)
    rw [Token.renderRest, List.reverse_cons, List.append_assoc]
    exact .cons hblank (.after hread (ih hrest hsettles))

/-- **Tokens are read back one behind another**, each behind a blank but the first one. The blank
settles the token before it and begins nothing. -/
theorem reads_all :
    Reads (Token.renderAll items) (between [] enclosing) (between items.reverse enclosing) := by
  cases items with
  | nil => exact .nil .between
  | cons t rest =>
    obtain ⟨ht, hrest⟩ := List.forall_mem_cons.1 hitems
    obtain ⟨s', hread, hsettles⟩ := ht []
    rw [Token.renderAll, List.reverse_cons]
    exact .after hread (reads_rest hrest hsettles)

end Sequence

/-- **What stands inside a bracket** becomes one token at the closing character. The tokens before
the bracket have waited for it, and are there again behind it. -/
theorem reads_enclosed (o : Opener) (tokens : List Token)
    (enclosing : List (Opener × List Token)) {items : List Token}
    (hitems : ∀ t ∈ items, ∀ inner, Reads t.render (between inner ((o, tokens) :: enclosing))
      (between (t :: inner) ((o, tokens) :: enclosing))) :
    Reads (Token.renderAll items ++ [closing o]) (between [] ((o, tokens) :: enclosing))
      (between (o.close items :: tokens) enclosing) := by
  obtain ⟨s, hread, hsettles⟩ := reads_all hitems
  -- the closing character completes the last token inside, and then makes a token of them all
  have hclose : s.feed (closing o) = .ok (between (o.close items :: tokens) enclosing) := by
    rw [hsettles.feed _ (closing_mem o), begin_closing, List.reverse_reverse]
  exact .after hread (.cons hclose (.nil .between))

/-! ### All tokens -/

/-- **A token is read back from its text**, outside or inside brackets. The induction is on what
stands inside it, and the cases are the kinds of tokens, each with its lemma above. -/
theorem reads_token {nested : Bool} {t : Token} (hdelimited : t.Delimited nested)
    (hproper : t.Proper) {items : List Token} (ht : t ∈ items) (hintegral : Token.Integral items)
    {enclosing : List (Opener × List Token)} (hnested : (!enclosing.isEmpty) = nested)
    (tokens : List Token) :
    Reads t.render (between tokens enclosing) (between (t :: tokens) enclosing) := by
  have hinside := hintegral.inner ht
  -- the induction is on the token; what stands in its brackets is read with one more bracket open
  induction hdelimited generalizing items enclosing tokens with
  | str nested text => exact reads_str text
  | number nested n => exact reads_number (hintegral _ ht _ .refl n rfl)
  | bool nested b => exact reads_bool b
  | null nested => exact reads_null
  | word nested text =>
    cases hproper with
    | word hne => exact reads_word hne
  | @reference nested sigil name index hname _ ih =>
    subst hnested
    cases hproper with
    | reference hne hinner =>
      cases index with
      | none => exact reads_reference hne hname
      -- an index is read inside one more bracket, which its name has opened
      | some inner =>
        have hread := reads_enclosed (.index sigil name) tokens enclosing fun u hu before =>
          ih inner rfl u hu (hinner inner rfl u hu) hu hinside rfl before (hinside.inner hu)
        change Reads (sigil.char :: (name.toList ++ '[' :: (Token.renderAll inner ++ [']']))) _ _
        exact .after (foldlM_name sigil hname) (.cons (feed_index sigil hne) hread)
  | object nested id => exact reads_object id
  | named hname =>
    subst hnested
    cases hproper with
    | named hne => exact reads_named hne hname
  | @array nested inner _ ih =>
    cases hproper with
    | array hinner =>
      have hread := reads_enclosed .array tokens enclosing fun u hu before =>
        ih u hu (hinner u hu) hu hinside rfl before (hinside.inner hu)
      change Reads ('[' :: (Token.renderAll inner ++ [']'])) _ _
      exact .cons rfl hread
  | @group nested inner _ ih =>
    cases hproper with
    | group hinner =>
      have hread := reads_enclosed .group tokens enclosing fun u hu before =>
        ih u hu (hinner u hu) hu hinside rfl before (hinside.inner hu)
      change Reads ('(' :: (Token.renderAll inner ++ [')'])) _ _
      exact .cons rfl hread

/-- At the end of the line the token that is being read is complete. No bracket is open there, so
the line has no fault. -/
theorem finish_of_settles {s : Scanner} {tokens : List Token}
    (h : s.Settles (between tokens [])) : s.finish = .ok tokens.reverse := by
  rw [finish, h.complete]
  rfl

end Scanner

/-- Tokens without a comment are read back from their text. Each of them is read back between
others, and a line is nothing but tokens with blanks between them. -/
theorem Token.lex_renderAll {tokens : List Token} (hproper : ∀ t ∈ tokens, t.Proper)
    (hdelimited : ∀ t ∈ tokens, t.Delimited false) (hintegral : Integral tokens) :
    Token.lex (renderAll tokens) = .ok tokens := by
  -- at the beginning of a line no bracket is open, so nothing is nested yet
  have hreads : Scanner.Reads (renderAll tokens) .initial (.between tokens.reverse []) :=
    Scanner.reads_all fun t ht before =>
      Scanner.reads_token (hdelimited t ht) (hproper t ht) ht hintegral rfl before
  obtain ⟨s, hread, hsettles⟩ := hreads
  have hfinish := Scanner.finish_of_settles hsettles
  rw [List.reverse_reverse] at hfinish
  rw [Token.lex, hread]
  exact hfinish

/-- Without a comment the tokens of a line are all delimited. A line may end with one comment, which
need not be, and this is the one that is excluded. -/
theorem Token.WellFormedLine.delimited_of_commentFree {tokens : List Token}
    (h : WellFormedLine tokens) (hcomment : CommentFree tokens) :
    ∀ t ∈ tokens, t.Delimited false := by
  obtain ⟨body, remark, rfl, hbody⟩ := h.delimited
  cases remark with
  | none =>
    rw [Option.map_none, Option.toList_none, List.append_nil]
    exact hbody
  | some text =>
    -- a remark would be a comment among the tokens
    have hlast : Token.comment text ∈ body ++ ((some text).map Token.comment).toList :=
      List.mem_append_right _ List.mem_cons_self
    exact absurd (hcomment _ hlast _ .refl) (Bool.noConfusion ·)

/-- The number of the line matters to errors only. So a line has the same tokens wherever it
stands. -/
theorem atLine_eq_ok {α : Type} {number : Nat} {x : Except Problem α} {a : α} :
    atLine number x = .ok a ↔ x = .ok a := by
  cases x with
  | error problem => exact ⟨nofun, nofun⟩
  | ok b => exact ⟨fun h => congrArg _ (Except.ok.inj h), fun h => congrArg _ (Except.ok.inj h)⟩

/-- **Lexing is the inverse of rendering.** What lexing gives is well-formed, and well-formed
tokens without a comment whose numbers are short integers are read back from their text. -/
theorem Token.lex_renders :
    (∀ (number : Nat) (line : List Char) (tokens : List Token),
      atLine number (Token.lex line) = .ok tokens → WellFormedLine tokens) ∧
    (∀ (number : Nat) (tokens : List Token), WellFormedLine tokens → CommentFree tokens →
      Integral tokens → atLine number (Token.lex (renderAll tokens)) = .ok tokens) := by
  constructor
  · intro number line tokens h
    exact Token.lex_wellFormedLine line tokens (atLine_eq_ok.1 h)
  · intro number tokens h hcomment hintegral
    have hdelimited := h.delimited_of_commentFree hcomment
    exact atLine_eq_ok.2 (Token.lex_renderAll h.proper hdelimited hintegral)

/-- A line with words, a string, an index, an array, a group, an object and an alias. -/
def parcelLine : String := "\\p\\u\\t 'it\\'s' %at[-4 [#1f ##a[b]] (\\n\\u\\l\\l null $x)"

/-- The tokens of the line. -/
def parcel : List Token :=
  [.word "put", .str "it's",
    .reference .prop "at" (some [.number ⟨0xC010000000000000⟩,
      .array [.object ⟨0x1f⟩, .named "a[b"]]),
    .group [.word "null", .null, .reference .var "x" none]]

/-- The tokens are those of the line, and they are read back from their text. The first `null` of
the group is escaped, so it is a word, and the second one is the keyword. -/
theorem parcel_read_back :
    atLine 1 (Token.lex parcelLine.toList) = .ok parcel ∧
      Token.WellFormedLine parcel ∧ Token.CommentFree parcel ∧ Token.Integral parcel ∧
      atLine 2 (Token.lex (Token.renderAll parcel)) = .ok parcel := by
  have hlexed : atLine 1 (Token.lex parcelLine.toList) = .ok parcel := rfl
  -- what lexing gives is well-formed, so the second part of the theorem applies to it
  have hwellFormed := Token.lex_renders.1 1 parcelLine.toList parcel hlexed
  have hcomment : Token.CommentFree parcel := by
    simp [Token.CommentFree, parcel, Token.throughout_cons, Token.throughout_nil, Token.inner,
      Token.isComment]
  have hminus : Number.ShortInteger ⟨0xC010000000000000⟩ := ⟨by decide, by decide, by decide⟩
  have hintegral : Token.Integral parcel := by
    simp [Token.Integral, parcel, Token.throughout_cons, Token.throughout_nil, Token.inner, hminus]
  exact ⟨hlexed, hwellFormed, hcomment, hintegral,
    Token.lex_renders.2 2 parcel hwellFormed hcomment hintegral⟩

end VerbScript
