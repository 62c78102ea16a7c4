import VerbScript.Proofs.ProperTokens

/-!
# The names in a line

A name is read up to the first character that ends it, so no name in a line has such a character
in it. Which characters these are depends on where the name stands: a comma ends a name only
inside brackets. A comment is read up to the end of the line, and so it can only be the last token,
outside all brackets.

* `Token.Delimited` — the property of a token at a place outside or inside brackets.
* `Token.WellFormedLine` — the tokens of a line, with the comment at its end.
* `Scanner.Delimited` — the invariant of the lexer. It says of each open bracket whether there is
  another one around it.
* `Token.lex_wellFormedLine` — the tokens of a line are well-formed.
-/

namespace VerbScript

/-! ### The properties -/

/-- Whether a character ends a name; a comma does so inside brackets only. Blanks, round brackets
and the closing square bracket always do. -/
def Token.separates (nested : Bool) (c : Char) : Bool :=
  Text.isBlank c || c == ']' || c == '(' || c == ')' || (c == ',' && nested)

/-- **No name in the token has a character that ends it**, and no comment is inside it. The flag
says whether the token itself stands inside brackets. -/
inductive Token.Delimited : Bool → Token → Prop where
  | str (nested : Bool) (text : String) : Delimited nested (.str text)
  | number (nested : Bool) (n : Number) : Delimited nested (.number n)
  | bool (nested b : Bool) : Delimited nested (.bool b)
  | null (nested : Bool) : Delimited nested .null
  | word (nested : Bool) (text : String) : Delimited nested (.word text)
  | reference {nested : Bool} {sigil : Sigil} {name : String} {index : Option (List Token)}
      (unbroken : ∀ c ∈ name.toList, c ≠ '[' ∧ separates nested c = false)
      (inside : ∀ items, index = some items → ∀ t ∈ items, Delimited true t) :
      Delimited nested (.reference sigil name index)
  | object (nested : Bool) (id : ObjectId) : Delimited nested (.object id)
  | named {nested : Bool} {name : String}
      (unbroken : ∀ c ∈ name.toList, separates nested c = false) : Delimited nested (.named name)
  | array (nested : Bool) {items : List Token} (inside : ∀ t ∈ items, Delimited true t) :
      Delimited nested (.array items)
  | group (nested : Bool) {items : List Token} (inside : ∀ t ∈ items, Delimited true t) :
      Delimited nested (.group items)

/-- **Well-formed tokens of a line**: proper and delimited, with at most one comment, which is the
last token. -/
structure Token.WellFormedLine (tokens : List Token) : Prop where
  proper : ∀ t ∈ tokens, t.Proper
  delimited : ∃ (body : List Token) (remark : Option String),
    tokens = body ++ (remark.map Token.comment).toList ∧ ∀ t ∈ body, t.Delimited false

/-! ### The state of the lexer -/

/-- The name that is being read has no character that ends it. Nothing is asked of other modes, as
words and strings can have any character. -/
def Mode.Delimited (nested : Bool) : Mode → Prop
  | .name _ text => ∀ c ∈ text, c ≠ '[' ∧ Token.separates nested c = false
  | .aliasName text => ∀ c ∈ text, Token.separates nested c = false
  | _ => True

/-- The name before an index has no character that ends it. It is that of a token at the place of
the bracket, and not inside of it. -/
def Opener.Delimited (nested : Bool) : Opener → Prop
  | .index _ name => ∀ c ∈ name.toList, c ≠ '[' ∧ Token.separates nested c = false
  | _ => True

/-- What is inside a bracket and delimited there makes a token that is delimited at the place of the
bracket. -/
theorem Opener.close_delimited {nested : Bool} {o : Opener} (h : o.Delimited nested)
    {items : List Token} (hitems : ∀ t ∈ items, t.Delimited true) :
    (o.close items).Delimited nested := by
  cases o with
  | array => exact .array nested hitems
  | group => exact .group nested hitems
  | index sigil name =>
    refine .reference h ?_
    rintro _ ⟨⟩
    exact hitems

namespace Scanner

/-- What stands before each open bracket is delimited; it is inside brackets if another one is
open around it. -/
def Enclosed : List (Opener × List Token) → Prop
  | [] => True
  | (o, before) :: outer =>
    o.Delimited (!outer.isEmpty) ∧ (∀ t ∈ before, t.Delimited (!outer.isEmpty)) ∧ Enclosed outer

/-- Whether what is read next stands inside brackets. It changes with the brackets only, and never
while a name is being read. -/
def nested (s : Scanner) : Bool := !s.enclosing.isEmpty

/-- **The invariant of lexing**: the name being read, the tokens at its place, and what stands
before each open bracket are delimited. -/
structure Delimited (s : Scanner) : Prop where
  mode : s.mode.Delimited s.nested
  tokens : ∀ t ∈ s.tokens, t.Delimited s.nested
  enclosing : Enclosed s.enclosing

variable {s : Scanner}

/-- What ends the token being read is what may not be in a name at this place. -/
theorem terminates_eq (s : Scanner) (c : Char) : s.terminates c = Token.separates s.nested c := rfl

/-- At the beginning of a line nothing has been read. -/
theorem Delimited.initial : initial.Delimited :=
  ⟨trivial, fun _ h => absurd h List.not_mem_nil, trivial⟩

/-- Turning to something else to read changes no tokens. -/
theorem Delimited.turn (h : s.Delimited) {mode : Mode} (hmode : mode.Delimited s.nested) :
    Delimited { s with mode } := ⟨hmode, h.tokens, h.enclosing⟩

/-- A delimited token may be added. -/
theorem Delimited.emit (h : s.Delimited) {t : Token} (ht : t.Delimited s.nested) :
    (s.emit t).Delimited := by
  refine ⟨trivial, fun t' ht' => ?_, h.enclosing⟩
  rcases List.mem_cons.1 ht' with rfl | ht'
  · exact ht
  · exact h.tokens t' ht'

/-- Behind an opening bracket there are no tokens yet, and those before it are kept with it. -/
theorem Delimited.opened (h : s.Delimited) {o : Opener} (ho : o.Delimited s.nested) :
    (s.opened o).Delimited :=
  ⟨trivial, fun _ ht => absurd ht List.not_mem_nil, ho, h.tokens, h.enclosing⟩

/-- A closing bracket makes a token, if it fits the one that is open. What this token has inside has
been delimited token by token, as it was read. -/
theorem closed_delimited (h : s.Delimited) (closing : Char) (fits : Opener → Bool) :
    Yields Delimited (s.closed closing fits) := by
  obtain ⟨mode, tokens, enclosing⟩ := s
  unfold closed
  cases enclosing with
  | nil => exact .error _
  | cons block outer =>
    obtain ⟨o, before⟩ := block
    obtain ⟨ho, hbefore, houter⟩ := h.enclosing
    dsimp only
    split
    · -- the tokens inside the bracket become one token before which the others stand
      have hitems : ∀ t ∈ tokens.reverse, t.Delimited true :=
        fun t ht => h.tokens t (List.mem_reverse.1 ht)
      refine .ok ⟨trivial, fun t ht => ?_, houter⟩
      rcases List.mem_cons.1 ht with rfl | ht
      · exact Opener.close_delimited ho hitems
      · exact hbefore t ht
    · exact .error _

/-- A word, a keyword and a number have no name, so they are delimited everywhere. It does not
matter if the word was forced. -/
theorem wordToken_delimited (forced nested : Bool) (text : List Char) :
    (wordToken forced text).Delimited nested := by
  unfold wordToken classify
  dsimp only
  -- forced or not, it is a word, one of the three keywords, or a number
  split
  · exact .word nested _
  · split
    · exact .bool nested true
    · split
      · exact .bool nested false
      · split
        · exact .null nested
        · split
          · exact .number nested _
          · exact .word nested _

/-- A name is held newest character first while it is read. -/
theorem toList_ofList_reverse {P : Char → Prop} {text : List Char} (h : ∀ c ∈ text, P c) :
    ∀ c ∈ (String.ofList text.reverse).toList, P c := by
  rw [String.toList_ofList]
  exact fun c hc => h c (List.mem_reverse.1 hc)

/-- The token that is being read is delimited, unless it is a comment. A comment goes to the end of
its line, so it is completed only there. -/
theorem complete_delimited (h : s.Delimited) (hcomment : ∀ text, s.mode ≠ .comment text) :
    Yields Delimited s.complete := by
  have hmode := h.mode
  unfold complete
  cases hs : s.mode with
  | start => exact .ok h
  | hash => exact .error _
  | word forced text => exact .ok (h.emit (wordToken_delimited forced _ _))
  | wordEscape forced text => exact .ok (h.emit (wordToken_delimited forced _ _))
  | quoted text => exact .error _
  | quotedEscape text => exact .error _
  -- the name that was read has no character that ends it, and it has no index
  | name sigil text =>
    rw [hs] at hmode
    dsimp only
    split
    · exact .error _
    · exact .ok (h.emit (.reference (toList_ofList_reverse hmode) nofun))
  | objectId text =>
    dsimp only
    split
    · exact .ok (h.emit (.object _ _))
    · exact .error _
  | aliasName text =>
    rw [hs] at hmode
    dsimp only
    split
    · exact .error _
    · exact .ok (h.emit (.named (toList_ofList_reverse hmode)))
  | comment text => exact absurd hs (hcomment text)

/-- A character between tokens begins one, opens or closes a bracket, or is passed over. One that
has just begun has no character yet, so there is none that could end it. -/
theorem begin_delimited (h : s.Delimited) (c : Char) : Yields Delimited (s.begin c) := by
  have hnone : ∀ P : Char → Prop, ∀ c ∈ ([] : List Char), P c :=
    fun _ _ hc => absurd hc List.not_mem_nil
  unfold begin
  split
  -- a string, a variable, a property, an object, a comment
  · exact .ok (h.turn trivial)
  · exact .ok (h.turn (hnone _))
  · exact .ok (h.turn (hnone _))
  · exact .ok (h.turn trivial)
  · exact .ok (h.turn trivial)
  -- brackets
  · exact .ok (h.opened trivial)
  · exact .ok (h.opened trivial)
  · exact closed_delimited h _ _
  · exact closed_delimited h _ _
  -- a comma, a forced word, a blank, and any other character, with which a word begins
  · exact .ok (h.turn trivial)
  · exact .ok (h.turn trivial)
  · split <;> exact .ok (h.turn trivial)

/-- What is being read grows only by a character that does not end it. This is the one place at
which the characters of a name are looked at, and it is the same for all kinds of names. -/
theorem extend_delimited (h : s.Delimited) (hcomment : ∀ text, s.mode ≠ .comment text) (c : Char)
    {longer : Mode} (hlonger : Token.separates s.nested c = false → longer.Delimited s.nested) :
    Yields Delimited (s.extend c longer) := by
  unfold extend
  split
  · -- the character ends what is being read, and then begins what comes next
    exact (complete_delimited h hcomment).bind fun s' hs' => begin_delimited hs' c
  · next hc =>
    rw [terminates_eq, Bool.not_eq_true] at hc
    exact .ok (h.turn (hlonger hc))

/-- **A character** keeps the invariant: one that would end the name does end it, and any other one
may be in it. -/
theorem feed_delimited (h : s.Delimited) (c : Char) : Yields Delimited (s.feed c) := by
  have hmode := h.mode
  unfold feed
  cases hs : s.mode with
  | start => exact begin_delimited h c
  | hash =>
    dsimp only
    split
    · exact .ok (h.turn fun _ hc => absurd hc List.not_mem_nil)
    · exact extend_delimited h (by rw [hs]; nofun) c fun _ => trivial
  | word forced text =>
    refine extend_delimited h (by rw [hs]; nofun) c fun _ => ?_
    split <;> trivial
  | wordEscape forced text => exact .ok (h.turn trivial)
  | quoted text =>
    dsimp only
    split
    · exact .ok (h.emit (.str _ _))
    · refine .ok (h.turn ?_)
      split <;> trivial
  | quotedEscape text => exact .ok (h.turn trivial)
  | name sigil text =>
    rw [hs] at hmode
    dsimp only
    split
    · -- an opening bracket behind a name begins an index, unless the name is empty
      split
      · exact .error _
      · exact .ok (h.opened (toList_ofList_reverse hmode))
    · next hbracket =>
      refine extend_delimited h (by rw [hs]; nofun) c fun hc => ?_
      exact List.forall_mem_cons.2 ⟨⟨hbracket, hc⟩, hmode⟩
  | objectId text => exact extend_delimited h (by rw [hs]; nofun) c fun _ => trivial
  | aliasName text =>
    rw [hs] at hmode
    refine extend_delimited h (by rw [hs]; nofun) c fun hc => ?_
    exact List.forall_mem_cons.2 ⟨hc, hmode⟩
  | comment text => exact .ok (h.turn trivial)

/-- So does a whole line, by induction on its characters. -/
theorem feedAll_delimited (h : s.Delimited) (line : List Char) :
    Yields Delimited (line.foldlM Scanner.feed s) := by
  induction line generalizing s with
  | nil => exact .ok h
  | cons c line ih =>
    rw [List.foldlM_cons]
    exact (feed_delimited h c).bind fun s' hs' => ih hs'

/-- Outside all brackets the tokens are those of the line. -/
theorem Delimited.outermost (h : s.Delimited) (hopen : s.enclosing = []) :
    ∀ t ∈ s.tokens.reverse, t.Delimited false := by
  intro t ht
  have ht' := h.tokens t (List.mem_reverse.1 ht)
  rw [nested, hopen] at ht'
  exact ht'

/-- At the end of the line no bracket is open, and a comment that is being read is the last
token. -/
theorem finish_delimited (h : s.Delimited) :
    Yields (fun tokens => ∃ (body : List Token) (remark : Option String),
      tokens = body ++ (remark.map Token.comment).toList ∧ ∀ t ∈ body, t.Delimited false)
      s.finish := by
  by_cases hcomment : ∃ text, s.mode = .comment text
  · obtain ⟨text, hs⟩ := hcomment
    -- a comment has no end of its own, so the line has ended in it
    have hcomplete : s.complete = .ok (s.emit (.comment (String.ofList text.reverse))) := by
      rw [complete, hs]
    rw [finish, hcomplete]
    show Yields _ (match s.enclosing with | [] => _ | (o, _) :: _ => _)
    cases hopen : s.enclosing with
    | nil =>
      exact .ok ⟨s.tokens.reverse, some (String.ofList text.reverse), List.reverse_cons,
        h.outermost hopen⟩
    | cons block outer => exact .error _
  · -- without a comment all tokens are delimited, the one being read included
    have hmode : ∀ text, s.mode ≠ .comment text := fun text hs => hcomment ⟨text, hs⟩
    refine (complete_delimited h hmode).bind fun s' hs' => ?_
    cases hopen : s'.enclosing with
    | nil =>
      exact .ok ⟨s'.tokens.reverse, none, (List.append_nil _).symm, hs'.outermost hopen⟩
    | cons block outer => exact .error _

end Scanner

/-- **The tokens of a line are well-formed.** That only the last one can be a comment is due to
comments, which go on to the end of the line. -/
theorem Token.lex_wellFormedLine (line : List Char) : Yields WellFormedLine (Token.lex line) := by
  intro tokens htokens
  have hdelimited : Yields _ (Token.lex line) :=
    (Scanner.feedAll_delimited .initial line).bind fun _ hs => Scanner.finish_delimited hs
  exact ⟨Token.lex_proper line tokens htokens, hdelimited tokens htokens⟩

end VerbScript
