import VerbScript.Console.Highlight

/-!
# Highlighting keeps the text

A highlighted line is the typed line with colour sequences between its characters. A terminal takes
the sequences out again, from each escape character up to the next `m`, and what it shows is the
line as it was typed, as long as the line has no escape characters of its own.

* `Highlight.plain`, `Highlight.sequences` — the two parts a terminal tells apart: the characters it
  shows and the sequences it obeys.
* `Highlight.Closed` — what it means that every colour is switched off before the next one is
  switched on and before the end.
* `Highlight.text_firstSpan`, `Highlight.text_spans` — cutting a line into spans loses nothing,
  whichever branch the cut takes.
* `Highlight.plain_line_closed` — the statement about whole lines.
-/

namespace VerbScript.Highlight

/-! ### What a terminal makes of a text -/

/-- The characters of a text that belong to no colour sequence. A text may begin within one, which
is what makes the definition a recursion on the text. -/
def plainFrom (within : Bool) : List Char → List Char
  | [] => []
  | c :: rest =>
    if within then plainFrom (c != 'm') rest
    else if c = escape then plainFrom true rest
    else c :: plainFrom false rest

/-- **A text without its colour sequences**, which reach from an escape character to the next
`m`. -/
def plain (text : List Char) : List Char := plainFrom false text

/-- The colour sequences of a text that may begin within one, of which `begun` has been read. A
sequence without an `m` reaches to the end. -/
def sequencesFrom (begun : Option (List Char)) : List Char → List (List Char)
  | [] => begun.toList
  | c :: rest =>
    match begun with
    | some code =>
      if c = 'm' then (code ++ [c]) :: sequencesFrom none rest
      else sequencesFrom (some (code ++ [c])) rest
    | none => sequencesFrom (if c = escape then some [c] else none) rest

/-- **The colour sequences of a text**, in order, each from its escape character to its `m`. -/
def sequences (text : List Char) : List (List Char) := sequencesFrom none text

/-- **Every colour that is switched on is switched off** before the next one is switched on, and
before the end. That a colour is no `reset` itself is part of it, or a text of nothing but resets
would be closed. -/
inductive Closed : List (List Char) → Prop where
  | nil : Closed []
  | painted (colour : Colour) {later : List (List Char)} (opens : colour.sequence ≠ reset)
      (rest : Closed later) : Closed (colour.sequence :: reset :: later)

section Sequence

variable {code text : List Char}

/-- Within a sequence nothing is shown, up to the `m` that ends it. The induction is on the
characters before this `m`. -/
theorem plainFrom_code (h : 'm' ∉ code) (rest : List Char) :
    plainFrom true (code ++ 'm' :: rest) = plainFrom false rest := by
  induction code with
  | nil => rfl
  | cons c code ih =>
    obtain ⟨hc, hcode⟩ := not_or.1 (mt List.mem_cons.2 h)
    have hinside : (c != 'm') = true := bne_iff_ne.2 (Ne.symm hc)
    -- `c` is not the end yet
    rw [List.cons_append, plainFrom, if_pos rfl, hinside]
    exact ih hcode

/-- A text without an escape character is shown as it is. It may stand in front of anything else, so
that the pieces of a highlighted line can be taken one by one. -/
theorem plain_text (h : escape ∉ text) (rest : List Char) :
    plain (text ++ rest) = text ++ plain rest := by
  unfold plain
  induction text with
  | nil => rfl
  | cons c text ih =>
    obtain ⟨hc, htext⟩ := not_or.1 (mt List.mem_cons.2 h)
    -- no sequence begins at `c`
    rw [List.cons_append, plainFrom, if_neg Bool.false_ne_true, if_neg (Ne.symm hc), ih htext]
    rfl

/-- What is read of a sequence is kept until its `m` comes. The induction generalizes over the part
that has been read, which grows by one character at each step. -/
theorem sequencesFrom_code (h : 'm' ∉ code) (begun rest : List Char) :
    sequencesFrom (some begun) (code ++ 'm' :: rest)
      = (begun ++ code ++ ['m']) :: sequencesFrom none rest := by
  induction code generalizing begun with
  | nil =>
    rw [List.append_nil, List.nil_append, sequencesFrom]
    exact if_pos rfl
  | cons c code ih =>
    obtain ⟨hc, hcode⟩ := not_or.1 (mt List.mem_cons.2 h)
    -- `c` goes from what follows to what has been read
    calc sequencesFrom (some begun) (c :: code ++ 'm' :: rest)
        = sequencesFrom (some (begun ++ [c])) (code ++ 'm' :: rest) := if_neg (Ne.symm hc)
      _ = (begun ++ [c] ++ code ++ ['m']) :: sequencesFrom none rest := ih hcode _
      _ = (begun ++ c :: code ++ ['m']) :: sequencesFrom none rest := by
        rw [List.append_assoc begun [c] code]
        rfl

/-- A text without an escape character has no sequence in it. As with what is shown, anything may
follow. -/
theorem sequences_text (h : escape ∉ text) (rest : List Char) :
    sequences (text ++ rest) = sequences rest := by
  unfold sequences
  induction text with
  | nil => rfl
  | cons c text ih =>
    obtain ⟨hc, htext⟩ := not_or.1 (mt List.mem_cons.2 h)
    rw [List.cons_append, sequencesFrom, if_neg (Ne.symm hc)]
    exact ih htext

/-- A sequence is not shown, and it is read as one sequence. Both hold because no `m` stands in
front of its last character. -/
theorem plain_sequence (h : 'm' ∉ code) (rest : List Char) :
    plain (escape :: (code ++ ['m']) ++ rest) = plain rest ∧
    sequences (escape :: (code ++ ['m']) ++ rest)
      = (escape :: (code ++ ['m'])) :: sequences rest := by
  rw [List.cons_append, List.append_assoc]
  exact ⟨plainFrom_code h rest, sequencesFrom_code h [escape] rest⟩

end Sequence

/-! ### Colours -/

/-- A colour is given by a number, so no `m` ends its sequence too early. -/
theorem Colour.not_mem_code (c : Colour) : 'm' ∉ c.code.toList := by
  cases c <;> decide

/-- No colour is switched on by the sequence that switches all of them off. -/
theorem Colour.sequence_ne_reset (c : Colour) : c.sequence ≠ reset := by
  cases c <;> decide

/-- **A span on a terminal**: its text is shown, between sequences that open and close a colour.
What comes after the span is read as if the span were not there. -/
theorem Span.render_read {s : Span} (h : escape ∉ s.text) (rest : List Char) :
    plain (s.render ++ rest) = s.text ++ plain rest ∧
    (Closed (sequences rest) → Closed (sequences (s.render ++ rest))) := by
  obtain ⟨colour, text⟩ := s
  cases colour with
  | none =>
    -- a plain span is its text
    refine ⟨plain_text h rest, fun hrest => ?_⟩
    rw [show Span.render ⟨none, text⟩ = text from rfl, sequences_text h]
    exact hrest
  | some c =>
    -- a painted span is a sequence, its text and the sequence that switches off again
    obtain ⟨hshown, hopened⟩ := plain_sequence c.not_mem_code (text ++ (reset ++ rest))
    have hzero : 'm' ∉ ['[', '0'] := by decide
    obtain ⟨hreset, hclosed⟩ := plain_sequence hzero rest
    have hrender : Span.render ⟨some c, text⟩ ++ rest
        = c.sequence ++ (text ++ (reset ++ rest)) := by
      simp only [Span.render, List.append_assoc]
    rw [hrender]
    constructor
    · calc plain (c.sequence ++ (text ++ (reset ++ rest)))
          = plain (text ++ (reset ++ rest)) := hshown
        _ = text ++ plain (reset ++ rest) := plain_text h _
        _ = text ++ plain rest := congrArg (text ++ ·) hreset
    · intro hrest
      have hall : sequences (c.sequence ++ (text ++ (reset ++ rest)))
          = c.sequence :: reset :: sequences rest :=
        calc sequences (c.sequence ++ (text ++ (reset ++ rest)))
            = c.sequence :: sequences (text ++ (reset ++ rest)) := hopened
          _ = c.sequence :: sequences (reset ++ rest) := by rw [sequences_text h]
          _ = c.sequence :: reset :: sequences rest := congrArg (c.sequence :: ·) hclosed
      rw [hall]
      exact .painted c c.sequence_ne_reset hrest

/-! ### Spans -/

/-- The rest of a string and what follows it are all there is. A backslash takes the next character
with it, whatever it is. -/
theorem stringBody_append (cs : List Char) : (stringBody cs).1 ++ (stringBody cs).2 = cs := by
  fun_induction stringBody cs with
  | case1 => rfl
  -- an escaped character belongs to the string, also if it is a quote
  | case2 c rest body after heq ih =>
    rw [heq] at ih
    simpa using ih
  | case3 => rfl
  -- so does any other character but the quote that ends it
  | case4 c rest _ hquote body after heq ih =>
    rw [heq] at ih
    simpa using ih

/-- **The first span** and the rest of the line make up the line. The branches are those in which
the span is cut: all but two take the characters of one class as far as they reach. -/
theorem text_firstSpan (c : Char) (rest : List Char) :
    (firstSpan c rest).1.text ++ (firstSpan c rest).2 = c :: rest := by
  -- what belongs to the span and what does not are the two parts of the rest
  have hpainted : ∀ belongs : Char → Bool,
      c :: rest.takeWhile belongs ++ rest.dropWhile belongs = c :: rest := by
    intro belongs
    rw [List.cons_append, List.takeWhile_append_dropWhile]
  unfold firstSpan
  dsimp only
  split
  · -- a comment takes everything
    exact List.append_nil _
  split
  · -- a string takes its quote and what is read up to the other one
    exact congrArg (c :: ·) (stringBody_append rest)
  split
  · exact hpainted isNameChar
  split
  · exact hpainted isNameChar
  split
  · exact hpainted isObjectChar
  split
  · exact hpainted isNumberChar
  split
  · rfl
  split
  · exact hpainted isNameChar
  · rfl

/-- **Cutting loses nothing**: the texts of the spans make up the line. The induction follows the
recursion of the cutting, with the first span as its step. -/
theorem text_spans (cs : List Char) : (spans cs).flatMap Span.text = cs := by
  fun_induction spans cs with
  | case1 => rfl
  | case2 c rest ih =>
    rw [List.flatMap_cons, ih]
    exact text_firstSpan c rest

/-- A command is one span as a whole, and any other line is cut. -/
theorem text_lineSpans (cs : List Char) : (lineSpans cs).flatMap Span.text = cs := by
  unfold lineSpans
  split
  · exact List.append_nil cs
  · exact text_spans cs

/-- **Spans on a terminal**: their texts are shown, and every colour is closed. The induction goes
from the last span to the first, since each span is read in front of what comes after it. -/
theorem render_read {ss : List Span} (h : ∀ s ∈ ss, escape ∉ s.text) :
    plain (ss.flatMap Span.render) = ss.flatMap Span.text ∧
    Closed (sequences (ss.flatMap Span.render)) := by
  induction ss with
  | nil => exact ⟨rfl, .nil⟩
  | cons s ss ih =>
    obtain ⟨hs, hss⟩ := List.forall_mem_cons.1 h
    obtain ⟨hplain, hclosed⟩ := ih hss
    obtain ⟨hshown, hopened⟩ := s.render_read hs (ss.flatMap Span.render)
    rw [List.flatMap_cons, List.flatMap_cons, hshown, hplain]
    exact ⟨rfl, hopened hclosed⟩

/-- **Highlighting keeps the text.** A line without escape characters is what is left of the
highlighted line when its colour sequences are taken out, each from its escape character up to the
next `m`. These sequences come in pairs: one that switches a colour on, and behind it the one that
switches all colours off, so that no colour is left on where the next one begins, nor at the end. -/
theorem plain_line_closed (text : String) (h : escape ∉ text.toList) :
    plain (line text).toList = text.toList ∧ Closed (sequences (line text).toList) := by
  have hspans : ∀ s ∈ lineSpans text.toList, escape ∉ s.text := by
    -- the characters of the spans are those of the line, so none of them is an escape character
    -- either
    intro s hs hescape
    refine h ?_
    rw [← text_lineSpans text.toList]
    exact List.mem_flatMap.2 ⟨s, hs, hescape⟩
  have hline : (line text).toList = (lineSpans text.toList).flatMap Span.render :=
    String.toList_ofList
  obtain ⟨hplain, hclosed⟩ := render_read hspans
  rw [hline, hplain]
  exact ⟨text_lineSpans text.toList, hclosed⟩

/-- A minus before a digit begins a number, a bracket stands alone, and a string that is not ended
keeps its last backslash. -/
theorem unended_string_line :
    escape ∉ "f(-4) 'a\\".toList ∧
    plain (line "f(-4) 'a\\").toList = "f(-4) 'a\\".toList ∧
    Closed (sequences (line "f(-4) 'a\\").toList) ∧
    sequences (line "f(-4) 'a\\").toList
      = [Colour.delimiter, .number, .delimiter, .string].flatMap fun c => [c.sequence, reset] := by
  have h : escape ∉ "f(-4) 'a\\".toList := by decide
  obtain ⟨hplain, hclosed⟩ := plain_line_closed "f(-4) 'a\\" h
  exact ⟨h, hplain, hclosed, by decide +kernel⟩

end VerbScript.Highlight
