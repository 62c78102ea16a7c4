import VerbScript.Token.Lexer

/-!
# The tokens of a line

Lexing gives tokens that are proper at every depth: no word and no name is empty, and every number
is finite. The lexer reads character by character, so this is an invariant of its state.

* `Token.Proper` — the property of a token, through brackets and indices.
* `Scanner.Proper` — the invariant: all tokens read so far are proper, and what is being read will
  be.
* `Scanner.begin_proper`, `Scanner.complete_proper`, `Scanner.feed_proper` — the steps keep it.
* `Token.lex_proper` — so the tokens of a line are proper.
-/

namespace VerbScript

/-- Whatever the result is, if there is one, it has the property. The steps of the lexer may fail,
so that all lemmas about them are of this form. -/
def Yields {ε α : Type} (P : α → Prop) (x : Except ε α) : Prop := ∀ a, x = .ok a → P a

namespace Yields

variable {ε α β : Type} {P : α → Prop} {Q : β → Prop}

theorem ok {a : α} (h : P a) : Yields (ε := ε) P (.ok a) := by
  rintro _ ⟨⟩
  exact h

theorem error (e : ε) : Yields P (.error e) := nofun

theorem bind {x : Except ε α} {f : α → Except ε β} (hx : Yields P x)
    (hf : ∀ a, P a → Yields Q (f a)) : Yields Q (x.bind f) := by
  cases x with
  | error e => exact .error e
  | ok a => exact hf a (hx a rfl)

theorem map {x : Except ε α} {f : α → β} (hx : Yields P x) (hf : ∀ a, P a → Q (f a)) :
    Yields Q (x.map f) := by
  cases x with
  | error e => exact .error e
  | ok a => exact .ok (hf a (hx a rfl))

end Yields

/-- **Words and names are non-empty and numbers are finite**, also inside the token. Strings and
comments may be empty, and so may brackets. -/
inductive Token.Proper : Token → Prop where
  | str (text : String) : Proper (.str text)
  | number {n : Number} (finite : n.isFinite = true) : Proper (.number n)
  | bool (b : Bool) : Proper (.bool b)
  | null : Proper .null
  | word {text : String} (nonempty : text ≠ "") : Proper (.word text)
  | reference {sigil : Sigil} {name : String} {index : Option (List Token)} (nonempty : name ≠ "")
      (inside : ∀ items, index = some items → ∀ t ∈ items, Proper t) :
      Proper (.reference sigil name index)
  | object (id : ObjectId) : Proper (.object id)
  | named {name : String} (nonempty : name ≠ "") : Proper (.named name)
  | comment (text : String) : Proper (.comment text)
  | array {items : List Token} (inside : ∀ t ∈ items, Proper t) : Proper (.array items)
  | group {items : List Token} (inside : ∀ t ∈ items, Proper t) : Proper (.group items)

/-! ### Words -/

/-- A literal too large for a finite number is not read as a number. It is a word then, like any
other text that is no literal. -/
theorem Number.ofLiteral?_finite {text : List Char} {n : Number}
    (h : Number.ofLiteral? text = some n) : n.isFinite = true := by
  unfold Number.ofLiteral? at h
  have hfilter := (Option.ite_none_left_eq_some.1 h).2
  exact (Option.filter_eq_some_iff.1 hfilter).2

theorem ofList_ne_empty {text : List Char} (h : text ≠ []) : String.ofList text ≠ "" := by
  simp [h]

/-- A name is held newest character first while it is read. -/
theorem name_ne_empty {text : List Char} (h : ¬ text.isEmpty = true) :
    String.ofList text.reverse ≠ "" :=
  ofList_ne_empty (List.reverse_ne_nil_iff.2 (mt List.isEmpty_iff.2 h))

namespace Scanner

/-- A text is classified as a proper token: if it is no keyword and no number it is the word that it
is, and it is not empty. -/
theorem classify_proper {text : List Char} (h : text ≠ []) : (classify text).Proper := by
  unfold classify
  dsimp only
  split
  · exact .bool true
  · split
    · exact .bool false
    · split
      · exact .null
      · split
        next n hn => exact .number (Number.ofLiteral?_finite hn)
        next => exact .word (ofList_ne_empty h)

/-- So it is for the text of a word, classified or not. -/
theorem wordToken_proper (forced : Bool) {text : List Char} (h : text ≠ []) :
    (wordToken forced text).Proper := by
  unfold wordToken
  split
  · exact .word (ofList_ne_empty h)
  · exact classify_proper h

end Scanner

/-! ### The state of the lexer -/

/-- A word that is being read has a character already. Names and ids have none at first; that they
get one is checked when they are complete. -/
def Mode.Proper : Mode → Prop
  | .word _ text => text ≠ []
  | _ => True

/-- The name before an index is non-empty. It is complete before its bracket is opened, and becomes
part of a token only when the bracket is closed. -/
def Opener.Proper : Opener → Prop
  | .index _ name => name ≠ ""
  | _ => True

/-- A bracket makes a proper token of proper ones. The name of an index has been checked when its
bracket was opened. -/
theorem Opener.close_proper {o : Opener} (h : o.Proper) {items : List Token}
    (hitems : ∀ t ∈ items, t.Proper) : (o.close items).Proper := by
  cases o with
  | array => exact .array hitems
  | group => exact .group hitems
  | index sigil name =>
    refine .reference h ?_
    rintro _ ⟨⟩
    exact hitems

namespace Scanner

/-- **The invariant of lexing**: what is being read has what its token needs already, and the tokens
are proper that have been read, both in the innermost bracket and before each of those that are
open. -/
structure Proper (s : Scanner) : Prop where
  mode : s.mode.Proper
  tokens : ∀ t ∈ s.tokens, t.Proper
  enclosing : ∀ block ∈ s.enclosing, block.1.Proper ∧ ∀ t ∈ block.2, t.Proper

variable {s : Scanner}

/-- At the beginning of a line nothing has been read. -/
theorem Proper.initial : initial.Proper :=
  ⟨trivial, fun _ h => absurd h List.not_mem_nil, fun _ h => absurd h List.not_mem_nil⟩

/-- To go on reading something else keeps the tokens. -/
theorem Proper.turn (h : s.Proper) {mode : Mode} (hmode : mode.Proper) :
    Proper { s with mode } := ⟨hmode, h.tokens, h.enclosing⟩

/-- A proper token may be added. Nothing is being read behind it. -/
theorem Proper.emit (h : s.Proper) {t : Token} (ht : t.Proper) : (s.emit t).Proper := by
  refine ⟨trivial, fun t' ht' => ?_, h.enclosing⟩
  rcases List.mem_cons.1 ht' with rfl | ht'
  · exact ht
  · exact h.tokens t' ht'

/-- A bracket may be opened: what has been read goes behind it, and nothing has been read in it. -/
theorem Proper.opened (h : s.Proper) {o : Opener} (ho : o.Proper) : (s.opened o).Proper := by
  refine ⟨trivial, fun _ ht => absurd ht List.not_mem_nil, fun block hblock => ?_⟩
  rcases List.mem_cons.1 hblock with rfl | hblock
  · exact ⟨ho, h.tokens⟩
  · exact h.enclosing block hblock

/-- A bracket is closed if it fits, and its token joins those that were read before it. The tokens
inside have been proper one by one when they were read. -/
theorem closed_proper (h : s.Proper) (closing : Char) (fits : Opener → Bool) :
    Yields Proper (s.closed closing fits) := by
  unfold closed
  cases hopen : s.enclosing with
  | nil => exact .error _
  | cons block outer =>
    obtain ⟨o, before⟩ := block
    have hblock := h.enclosing (o, before) (by rw [hopen]; exact List.mem_cons_self)
    dsimp only
    split
    · refine .ok ⟨trivial, fun t ht => ?_, fun block hblock => ?_⟩
      · rcases List.mem_cons.1 ht with rfl | ht
        · exact Opener.close_proper hblock.1 fun t ht => h.tokens t (List.mem_reverse.1 ht)
        · exact hblock.2 t ht
      · exact h.enclosing block (by rw [hopen]; exact List.mem_cons_of_mem _ hblock)
    · exact .error _

/-- The token that is being read is proper. Where it would not be, as with a name without a
character or a string without its end, the line has a fault instead. -/
theorem complete_proper (h : s.Proper) : Yields Proper s.complete := by
  have hmode := h.mode
  unfold complete
  cases hs : s.mode with
  | start => exact .ok h
  | hash => exact .error _
  | word forced text =>
    rw [hs] at hmode
    have htext : text.reverse ≠ [] := List.reverse_ne_nil_iff.2 hmode
    exact .ok (h.emit (wordToken_proper forced htext))
  | wordEscape forced text =>
    -- a backslash at the end of a word stands for itself
    have htext : ('\\' :: text).reverse ≠ [] :=
      List.reverse_ne_nil_iff.2 (List.cons_ne_nil _ _)
    exact .ok (h.emit (wordToken_proper forced htext))
  | quoted text => exact .error _
  | quotedEscape text => exact .error _
  | name sigil text =>
    dsimp only
    split
    · exact .error _
    · -- a name without a character is a fault
      next hname => exact .ok (h.emit (.reference (name_ne_empty hname) nofun))
  | objectId text =>
    dsimp only
    split
    · exact .ok (h.emit (.object _))
    · exact .error _
  | aliasName text =>
    dsimp only
    split
    · exact .error _
    · next hname => exact .ok (h.emit (.named (name_ne_empty hname)))
  | comment text => exact .ok (h.emit (.comment _))

/-- A character between tokens. It begins a token, opens or closes a bracket, or is passed over, and
what has begun is proper as far as it goes. -/
theorem begin_proper (h : s.Proper) (c : Char) : Yields Proper (s.begin c) := by
  unfold begin
  split
  -- a string, a variable, a property, an object, a comment
  · exact .ok (h.turn trivial)
  · exact .ok (h.turn trivial)
  · exact .ok (h.turn trivial)
  · exact .ok (h.turn trivial)
  · exact .ok (h.turn trivial)
  -- brackets
  · exact .ok (h.opened trivial)
  · exact .ok (h.opened trivial)
  · exact closed_proper h _ _
  · exact closed_proper h _ _
  -- a comma, a forced word, a blank, and any other character, with which a word begins
  · exact .ok (h.turn trivial)
  · exact .ok (h.turn trivial)
  · split
    · exact .ok (h.turn trivial)
    · exact .ok (h.turn (List.cons_ne_nil _ _))

/-- A character that ends what is being read completes it and begins what comes next; any other one
makes it longer. -/
theorem extend_proper (h : s.Proper) (c : Char) {longer : Mode} (hlonger : longer.Proper) :
    Yields Proper (s.extend c longer) := by
  unfold extend
  split
  · exact (complete_proper h).bind fun s' hs' => begin_proper hs' c
  · exact .ok (h.turn hlonger)

/-- **A character** keeps the invariant, or is a fault. The cases are what is being read; most
characters make it longer or begin something else. -/
theorem feed_proper (h : s.Proper) (c : Char) : Yields Proper (s.feed c) := by
  unfold feed
  cases hs : s.mode with
  | start => exact begin_proper h c
  | hash =>
    dsimp only
    split
    · exact .ok (h.turn trivial)
    · exact extend_proper h c trivial
  | word forced text =>
    -- the word is longer by this character, or by the one after it
    refine extend_proper h c ?_
    split
    · trivial
    · exact List.cons_ne_nil _ _
  | wordEscape forced text => exact .ok (h.turn (List.cons_ne_nil _ _))
  | quoted text =>
    dsimp only
    split
    · exact .ok (h.emit (.str _))
    · refine .ok (h.turn ?_)
      split <;> trivial
  | quotedEscape text => exact .ok (h.turn trivial)
  | name sigil text =>
    dsimp only
    split
    · split
      · exact .error _
      · next hname => exact .ok (h.opened (name_ne_empty hname))
    · exact extend_proper h c trivial
  | objectId text => exact extend_proper h c trivial
  | aliasName text => exact extend_proper h c trivial
  | comment text => exact .ok (h.turn trivial)

/-- A line keeps the invariant, by induction on its characters. It may stop at one that is at
fault. -/
theorem feedAll_proper (h : s.Proper) (line : List Char) :
    Yields Proper (line.foldlM Scanner.feed s) := by
  induction line generalizing s with
  | nil => exact .ok h
  | cons c line ih =>
    rw [List.foldlM_cons]
    exact (feed_proper h c).bind fun s' hs' => ih hs'

/-- At the end of a line the last token is completed. No bracket may be open, so all tokens are
those of the line itself. -/
theorem finish_proper (h : s.Proper) : Yields (fun tokens => ∀ t ∈ tokens, t.Proper) s.finish := by
  refine (complete_proper h).bind fun s' hs' => ?_
  cases s'.enclosing with
  | nil => exact .ok fun t ht => hs'.tokens t (List.mem_reverse.1 ht)
  | cons block outer => exact .error _

end Scanner

/-- **The tokens of a line are proper**, whatever the line is. Grouping relies on this: it makes
verbs of words, and a script is well-formed only if no verb is empty. -/
theorem Token.lex_proper (line : List Char) :
    Yields (fun tokens => ∀ t ∈ tokens, t.Proper) (Token.lex line) :=
  (Scanner.feedAll_proper .initial line).bind fun _ hs => Scanner.finish_proper hs

end VerbScript
