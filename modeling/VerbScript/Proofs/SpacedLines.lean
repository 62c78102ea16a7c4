import VerbScript.Proofs.RenderedTokens

/-!
# Lexing a line piece by piece

A line that lexes can be followed by a blank and any other line: the tokens of both stand one behind
the other, and the problem of the second line is the problem of the whole.

Two things are shown for it. At the blank the scanner is between tokens again, whatever it was
reading (`Scanner.settles_of_complete`); only a comment goes on, and a backslash at the end takes
the blank into its word. And what has been read before makes no difference to the scanner:
`Scanner.atop` puts earlier tokens below all others, under every open bracket, and each operation
of the scanner does the same with and without them.

* `Scanner.feed_atop`, `Scanner.foldlM_atop`, `Scanner.finish_atop` — the operations.
* `Token.lex_append_blank` — a line behind the tokens of another one.
* `Token.lex_spaced` — the law for lines with their numbers, and for a comment behind a line.
-/

namespace VerbScript

/-- A result that is changed and then used. -/
theorem Except.bind_map {ε α β γ : Type} (x : Except ε α) (f : α → β) (g : β → Except ε γ) :
    (x.map f).bind g = x.bind fun a => g (f a) := by
  cases x <;> rfl

/-- A result that is used and then changed. -/
theorem Except.map_bind {ε α β γ : Type} (x : Except ε α) (g : α → Except ε β) (f : β → γ) :
    (x.bind g).map f = x.bind fun a => (g a).map f := by
  cases x <;> rfl

namespace Scanner

variable {s settled : Scanner}

/-! ### What has been read before -/

/-- Puts tokens below the outermost ones, which are those outside the last open bracket, or the
current ones if no bracket is open. All lists hold the newest token first, so what was read earlier
stands at their ends. -/
def bury (before tokens : List Token) :
    List (Opener × List Token) → List Token × List (Opener × List Token)
  | [] => (tokens ++ before, [])
  | (o, outside) :: enclosing =>
    let deeper := bury before outside enclosing
    (tokens, (o, deeper.1) :: deeper.2)

/-- The scanner as it is when these tokens, newest first, have been read before its own. They lie
below the outermost bracket, where the scanner does not look. -/
def atop (before : List Token) (s : Scanner) : Scanner :=
  let buried := bury before s.tokens s.enclosing
  ⟨s.mode, buried.1, buried.2⟩

variable (before : List Token)

/-- A token that is read stays on top. -/
theorem bury_cons (t : Token) (tokens : List Token) (enclosing : List (Opener × List Token)) :
    bury before (t :: tokens) enclosing =
      (t :: (bury before tokens enclosing).1, (bury before tokens enclosing).2) := by
  cases enclosing <;> rfl

/-- Whether a bracket is open does not depend on what was read before. -/
theorem isEmpty_bury (tokens : List Token) (enclosing : List (Opener × List Token)) :
    (bury before tokens enclosing).2.isEmpty = enclosing.isEmpty := by
  cases enclosing <;> rfl

/-- The same brackets are open, so the same characters terminate. -/
theorem terminates_atop (s : Scanner) (c : Char) :
    (s.atop before).terminates c = s.terminates c := by
  unfold terminates atop
  simp only [isEmpty_bury]

/-- A token that is finished comes on top of all others. -/
theorem emit_atop (s : Scanner) (t : Token) :
    (s.atop before).emit t = (s.emit t).atop before := by
  unfold emit atop
  simp only [bury_cons]

/-- A bracket that closes takes the tokens since its opener, which are the scanner's own. If it does
not fit, it does not fit with earlier tokens either. -/
theorem closed_atop (s : Scanner) (closing : Char) (fits : Opener → Bool) :
    (s.atop before).closed closing fits = (s.closed closing fits).map (atop before) := by
  obtain ⟨mode, tokens, enclosing⟩ := s
  -- with no bracket open there is nothing to close
  cases enclosing with
  | nil => rfl
  | cons block outer =>
    obtain ⟨o, outside⟩ := block
    simp only [closed, atop, bury]
    split
    · simp only [Except.map, atop, bury_cons]
    · rfl

/-- **At the end of a token** earlier tokens play no part: what is complete depends on the mode
alone. -/
theorem complete_atop (s : Scanner) :
    (s.atop before).complete = s.complete.map (atop before) := by
  have hmode : (s.atop before).mode = s.mode := rfl
  unfold complete
  rw [hmode]
  -- a mode that is complete emits its token, and one that is not fails with the same problem
  cases s.mode with
  | start => rfl
  | hash => rfl
  | word forced text => exact congrArg _ (emit_atop before s _)
  | wordEscape forced text => exact congrArg _ (emit_atop before s _)
  | quoted text => rfl
  | quotedEscape text => rfl
  | name sigil text =>
    dsimp only
    split
    · rfl
    · exact congrArg _ (emit_atop before s _)
  | objectId text =>
    dsimp only
    split
    · exact congrArg _ (emit_atop before s _)
    · rfl
  | aliasName text =>
    dsimp only
    split
    · rfl
    · exact congrArg _ (emit_atop before s _)
  | comment text => exact congrArg _ (emit_atop before s _)

/-- **At the beginning of a token** only closing brackets look at what has been read. They look at
the innermost open bracket, and earlier tokens are outside of all. -/
theorem begin_atop (s : Scanner) (c : Char) :
    (s.atop before).begin c = (s.begin c).map (atop before) := by
  unfold begin
  split
  -- the two closing brackets
  case h_8 => exact closed_atop before s _ _
  case h_9 => exact closed_atop before s _ _
  case h_12 => split <;> rfl
  all_goals rfl

/-- A token goes on, or ends at the character, which then begins the next one. Both have been shown
not to depend on the tokens before, and here they are joined. -/
theorem extend_atop (s : Scanner) (c : Char) (longer : Mode) :
    (s.atop before).extend c longer = (s.extend c longer).map (atop before) := by
  unfold extend
  rw [terminates_atop]
  split
  · rw [complete_atop, Except.bind_map, Except.map_bind]
    congr 1
    funext s'
    exact begin_atop before s' c
  · rfl

/-- **A character** is taken alike, whatever has been read before. The cases are the modes, and each
of them begins, completes or extends something. -/
theorem feed_atop (s : Scanner) (c : Char) :
    (s.atop before).feed c = (s.feed c).map (atop before) := by
  have hmode : (s.atop before).mode = s.mode := rfl
  unfold feed
  rw [hmode]
  cases s.mode with
  | start => exact begin_atop before s c
  | hash =>
    dsimp only
    split
    · rfl
    · exact extend_atop before s c _
  | word forced text => exact extend_atop before s c _
  | wordEscape forced text => rfl
  | quoted text =>
    dsimp only
    split
    · exact congrArg _ (emit_atop before s _)
    · rfl
  | quotedEscape text => rfl
  | name sigil text =>
    dsimp only
    split
    · split <;> rfl
    · exact extend_atop before s c _
  | objectId text => exact extend_atop before s c _
  | aliasName text => exact extend_atop before s c _
  | comment text => rfl

/-- **A text** is read alike, whatever has been read before, by induction on its characters. The
tokens read before stay at the bottom of the list. -/
theorem foldlM_atop (line : List Char) (s : Scanner) :
    line.foldlM feed (s.atop before) = (line.foldlM feed s).map (atop before) := by
  induction line generalizing s with
  | nil => rfl
  | cons c line ih =>
    rw [List.foldlM_cons, List.foldlM_cons, feed_atop]
    -- a problem is the problem of the text in both cases
    cases s.feed c with
    | error problem => rfl
    | ok s' => exact ih s'

/-- **At the end of the line** the tokens read before stand in front, as they were read first. If
the rest of the line has a problem, it is the same one. -/
theorem finish_atop (s : Scanner) :
    (s.atop before).finish = s.finish.map (before.reverse ++ ·) := by
  unfold finish
  rw [complete_atop, Except.bind_map, Except.map_bind]
  congr 1
  funext s'
  obtain ⟨mode, tokens, enclosing⟩ := s'
  -- tokens are put in their order at the end, so earlier ones come first
  cases enclosing with
  | nil => exact congrArg _ List.reverse_append
  | cons block outer => rfl

/-! ### The blank between two lines -/

/-- No backslash waits for the character it makes part of a word. It would make a part of the word
of a blank as well, which then ends nothing. -/
def Unescaped (s : Scanner) : Prop := ∀ forced text, s.mode ≠ .wordEscape forced text

/-- Of the characters that may begin a token only the backslash escapes the next one. So it is the
only character behind which a blank would not separate. -/
theorem begin_unescaped {c : Char} (hc : c ≠ '\\') (s : Scanner) :
    Yields Unescaped (s.begin c) := by
  -- a bracket that closes leaves the scanner between tokens
  have hclosed : ∀ closing fits, Yields Unescaped (s.closed closing fits) := by
    intro closing fits
    unfold closed
    split
    · exact .error _
    · split
      · exact .ok fun _ _ => nofun
      · exact .error _
  unfold begin
  split
  case h_8 => exact hclosed _ _
  case h_9 => exact hclosed _ _
  case h_11 => exact absurd rfl hc
  case h_12 => split <;> exact .ok fun _ _ => nofun
  all_goals exact .ok fun _ _ => nofun

/-- Nor does a character that ends a token escape, unless it is a backslash itself. Having ended the
token, it is one between tokens. -/
theorem extend_unescaped {c : Char} (hc : c ≠ '\\') (s : Scanner) {longer : Mode}
    (hlonger : ∀ forced text, longer ≠ .wordEscape forced text) :
    Yields Unescaped (s.extend c longer) := by
  unfold extend
  split
  · refine Yields.bind (P := fun _ => True) (fun _ _ => trivial) fun s' _ => ?_
    exact begin_unescaped hc s'
  · exact .ok hlonger

/-- **Only a backslash escapes.** So a line that does not end with one is not left waiting at its
end. -/
theorem feed_unescaped {c : Char} (hc : c ≠ '\\') (s : Scanner) : Yields Unescaped (s.feed c) := by
  unfold feed
  split
  · exact begin_unescaped hc s
  · split
    · exact .ok fun _ _ => nofun
    · exact extend_unescaped hc s fun _ _ => nofun
  · -- a backslash in a word would escape what follows
    rw [if_neg hc]
    exact extend_unescaped hc s fun _ _ => nofun
  · exact .ok fun _ _ => nofun
  · split
    · exact .ok fun _ _ => nofun
    · exact .ok fun _ _ => nofun
  · exact .ok fun _ _ => nofun
  · split
    · split
      · exact .error _
      · exact .ok fun _ _ => nofun
    · exact extend_unescaped hc s fun _ _ => nofun
  · exact extend_unescaped hc s fun _ _ => nofun
  · exact extend_unescaped hc s fun _ _ => nofun
  · exact .ok fun _ _ => nofun

/-- A line that does not end with a backslash leaves none waiting. This is what the blank behind the
line needs, to be a separator and not an escaped character. -/
theorem unescaped_of_foldlM {line : List Char} (hend : line.getLast? ≠ some '\\')
    (h : line.foldlM feed initial = .ok s) : s.Unescaped := by
  -- the last character decides
  rcases List.eq_nil_or_concat line with rfl | ⟨init, c, rfl⟩
  · cases h
    exact fun _ _ => nofun
  · rw [List.concat_eq_append] at h hend
    have hc : c ≠ '\\' := by
      rintro rfl
      exact hend List.getLast?_concat
    rw [List.foldlM_append] at h
    cases hinit : init.foldlM feed initial with
    | error problem =>
      rw [hinit] at h
      cases h
    | ok s' =>
      rw [hinit] at h
      have hlast : (s'.feed c >>= pure) = .ok s := h
      rw [bind_pure] at hlast
      exact feed_unescaped hc s' s hlast

/-- **What is complete at the end of a line is complete at a blank**, unless it is a comment. The
modes in which a line cannot end are complete nowhere; every other one is ended by a blank. -/
theorem settles_of_complete (h : s.complete = .ok settled) (hunescaped : s.Unescaped)
    (hcomment : ∀ text, s.mode ≠ .comment text) : s.Settles settled := by
  cases hmode : s.mode with
  | start =>
    rw [complete, hmode] at h
    cases h
    refine ⟨by rw [complete, hmode], fun c _ => ?_⟩
    rw [feed, hmode]
  | hash =>
    rw [complete, hmode] at h
    cases h
  | word forced text =>
    exact .of_extend h fun c _ => ⟨_, by rw [feed, hmode]⟩
  -- a backslash that waits would take the blank into the word
  | wordEscape forced text => exact absurd hmode (hunescaped forced text)
  | quoted text =>
    rw [complete, hmode] at h
    cases h
  | quotedEscape text =>
    rw [complete, hmode] at h
    cases h
  | name sigil text =>
    refine .of_extend h fun c hc => ⟨.name sigil (c :: text), ?_⟩
    -- a name goes on only at a bracket, and a blank is none
    have hne : c ≠ '[' := by
      rintro rfl
      exact absurd hc (by decide)
    rw [feed, hmode]
    exact if_neg hne
  | objectId text =>
    exact .of_extend h fun c _ => ⟨_, by rw [feed, hmode]⟩
  | aliasName text =>
    exact .of_extend h fun c _ => ⟨_, by rw [feed, hmode]⟩
  | comment text => exact absurd hmode (hcomment text)

/-- The tokens of a line are complete at its end, outside all brackets. So whatever is put behind
the line is read outside all brackets too. -/
theorem exists_of_finish {tokens : List Token} (h : s.finish = .ok tokens) :
    ∃ settled, s.complete = .ok settled ∧ settled.enclosing = [] ∧
      settled.tokens.reverse = tokens := by
  unfold finish at h
  cases hcomplete : s.complete with
  | error problem =>
    rw [hcomplete] at h
    cases h
  | ok settled =>
    rw [hcomplete] at h
    obtain ⟨mode, read, enclosing⟩ := settled
    cases enclosing with
    -- a line with an open bracket has no tokens
    | nil => exact ⟨_, rfl, rfl, Except.ok.inj h⟩
    | cons block outer => cases h

/-- **A blank behind a line** leads to the scanner that begins a line, over the tokens of the first
one. -/
theorem feed_blank {tokens : List Token} (h : s.finish = .ok tokens) (hunescaped : s.Unescaped)
    (hcomment : ∀ t ∈ tokens, t.isComment = false) :
    s.feed ' ' = .ok (initial.atop tokens.reverse) := by
  obtain ⟨settled, hcomplete, hclosed, rfl⟩ := exists_of_finish h
  -- a comment that is being read would be the last token
  have hremark : ∀ text, s.mode ≠ .comment text := by
    intro text hmode
    rw [complete, hmode] at hcomplete
    cases hcomplete
    exact absurd (hcomment _ (List.mem_reverse.2 List.mem_cons_self)) (Bool.noConfusion ·)
  have hsettles := settles_of_complete hcomplete hunescaped hremark
  -- the blank ends what is being read and begins nothing
  calc s.feed ' '
      = settled.begin ' ' := hsettles.feed ' ' List.mem_cons_self
    _ = .ok ⟨.start, settled.tokens, settled.enclosing⟩ := rfl
    _ = .ok (initial.atop settled.tokens.reverse.reverse) := by
      rw [hclosed, List.reverse_reverse]
      rfl

end Scanner

/-- **A line behind the tokens of another one.** The scanner stands behind the blank as at the
beginning of a line, but for the tokens that it has read, and these make no difference to what
follows. -/
theorem Token.lex_append_blank {line : List Char} {tokens : List Token}
    (h : lex line = .ok tokens) (hcomment : ∀ t ∈ tokens, t.isComment = false)
    (hend : line.getLast? ≠ some '\\') (rest : List Char) :
    lex (line ++ ' ' :: rest) = (lex rest).map (tokens ++ ·) := by
  unfold lex at h ⊢
  rw [List.foldlM_append]
  cases hread : line.foldlM Scanner.feed Scanner.initial with
  | error problem =>
    rw [hread] at h
    cases h
  | ok s =>
    rw [hread] at h
    have hblank := Scanner.feed_blank h (Scanner.unescaped_of_foldlM hend hread) hcomment
    calc ((' ' :: rest).foldlM Scanner.feed s).bind Scanner.finish
        = (rest.foldlM Scanner.feed (Scanner.initial.atop tokens.reverse)).bind Scanner.finish := by
          rw [List.foldlM_cons, hblank]
          rfl
      _ = (rest.foldlM Scanner.feed Scanner.initial).bind fun s' =>
            s'.finish.map (tokens.reverse.reverse ++ ·) := by
          rw [Scanner.foldlM_atop, Except.bind_map]
          simp only [Scanner.finish_atop]
      _ = ((rest.foldlM Scanner.feed Scanner.initial).bind Scanner.finish).map (tokens ++ ·) := by
          rw [List.reverse_reverse, Except.map_bind]

/-- A semicolon at the beginning of a line makes all of it a comment. No character in it is at
fault, be it a bracket that is never closed. -/
theorem Token.lex_comment (text : List Char) :
    lex (';' :: text) = .ok [.comment (String.ofList text)] := by
  -- in a comment every character is taken as it is
  have hread : ∀ read, text.foldlM Scanner.feed ⟨.comment read, [], []⟩ =
      .ok ⟨.comment (text.reverse ++ read), [], []⟩ :=
    Scanner.foldlM_plain (fun read => ⟨.comment read, [], []⟩) fun _ _ _ => rfl
  unfold lex
  have hall : (';' :: text).foldlM Scanner.feed Scanner.initial =
      .ok ⟨.comment (text.reverse ++ []), [], []⟩ := hread []
  rw [hall, List.append_nil]
  show Except.ok [Token.comment (String.ofList text.reverse.reverse)] = _
  rw [List.reverse_reverse]

/-- A problem is reported with the number of its line, and with nothing else. So two texts on one
line with the same problem have the same error. -/
theorem atLine_eq_error {α : Type} {number : Nat} {x : Except Problem α} {e : SyntaxError} :
    atLine number x = .error e ↔ ∃ problem, x = .error problem ∧ e = ⟨number, problem⟩ := by
  cases x with
  | error problem =>
    constructor
    · rintro ⟨⟩
      exact ⟨problem, rfl, rfl⟩
    · rintro ⟨_, ⟨⟩, rfl⟩
      rfl
  | ok a => exact ⟨nofun, nofun⟩

/-- **Lexing goes on behind a blank.** Let a line lex without a comment among its tokens, and not
end with a backslash. Behind it and a blank, the tokens of any other line follow the tokens of the
first, and if the other line does not lex, neither does the whole, for the same reason. In
particular, a blank, a semicolon and any text add one comment. -/
theorem Token.lex_spaced {number : Nat} {line : String} {tokens : List Token}
    (hlexed : atLine number (lex line.toList) = .ok tokens)
    (hcomment : ∀ t ∈ tokens, t.isComment = false) (hend : line.toList.getLast? ≠ some '\\') :
    (∀ (other : String) (more : List Token), atLine number (lex other.toList) = .ok more →
      atLine number (lex (line ++ " " ++ other).toList) = .ok (tokens ++ more)) ∧
    (∀ (other : String) (e : SyntaxError), atLine number (lex other.toList) = .error e →
      atLine number (lex (line ++ " " ++ other).toList) = .error e) ∧
    (∀ text : String,
      atLine number (lex (line ++ " ;" ++ text).toList) = .ok (tokens ++ [.comment text])) := by
  have hblank := lex_append_blank (atLine_eq_ok.1 hlexed) hcomment hend
  have hspaced : ∀ other : String,
      lex (line ++ " " ++ other).toList = (lex other.toList).map (tokens ++ ·) := by
    intro other
    have htoList : (line ++ " " ++ other).toList = line.toList ++ ' ' :: other.toList := by
      simp [String.toList_append]
    rw [htoList, hblank]
  refine ⟨?_, ?_, ?_⟩
  · intro other more hmore
    rw [hspaced, atLine_eq_ok.1 hmore]
    rfl
  · intro other e he
    obtain ⟨problem, hproblem, rfl⟩ := atLine_eq_error.1 he
    rw [hspaced, hproblem]
    rfl
  · intro text
    have htoList : (line ++ " ;" ++ text).toList = line.toList ++ ' ' :: ';' :: text.toList := by
      simp [String.toList_append]
    rw [htoList, hblank, lex_comment, String.ofList_toList]
    rfl

/-- A line with a blank behind a backslash, a string and an index. -/
def greetingLine : String := "say\\ hi 'it\\'s' %at[-4, $x]"

/-- The tokens of the line. -/
def greeting : List Token :=
  [.word "say hi", .str "it's",
    .reference .prop "at" (some [.number ⟨0xC010000000000000⟩, .reference .var "x" none])]

/-- Behind the line stand one that lexes, one that does not, and a comment. The comment has the text
of the line that does not lex. -/
theorem greeting_spaced :
    atLine 3 (Token.lex greetingLine.toList) = .ok greeting ∧
      (∀ t ∈ greeting, t.isComment = false) ∧ greetingLine.toList.getLast? ≠ some '\\' ∧
      atLine 3 (Token.lex (greetingLine ++ " " ++ "(a)b").toList)
        = .ok (greeting ++ [.group [.word "a"], .word "b"]) ∧
      atLine 3 (Token.lex (greetingLine ++ " " ++ "(a]").toList)
        = .error ⟨3, .mismatched ']' '('⟩ ∧
      atLine 3 (Token.lex (greetingLine ++ " ;" ++ "(a]").toList)
        = .ok (greeting ++ [.comment "(a]"]) := by
  have hlexed : atLine 3 (Token.lex greetingLine.toList) = .ok greeting := rfl
  have hcomment : ∀ t ∈ greeting, t.isComment = false := by simp [greeting, Token.isComment]
  have hend : greetingLine.toList.getLast? ≠ some '\\' := by decide
  obtain ⟨hgoes, hfails, hremark⟩ := Token.lex_spaced hlexed hcomment hend
  exact ⟨hlexed, hcomment, hend, hgoes "(a)b" _ rfl, hfails "(a]" _ rfl, hremark "(a]"⟩

end VerbScript
