import Mathlib.Data.List.Induction
import VerbScript.Console.Completion

/-!
# The word that is completed

Places in a line are counted in bytes, but a line is cut between characters only. This module says
what `Completion.complete?` answers at every place at which a line can be cut: the word before the
cursor begins at such a place too, it is the whole of what was typed since the last separator, and
exactly the known words that begin with it are proposed. There is an exception. Behind a separator
of more than one byte, such as a no-break space, there is no answer at all.

* `Completion.IsBoundary line place` — the line can be cut at the place.
* `Completion.Between line start stop text` — the text of the line between two such places.
* `Completion.before?_eq_some_iff` — the text before a place, where there is one.
* `Completion.Proposable start word k` — what can be proposed for a word, by the place where it
  begins.
* `Completion.complete?_eq` — the answer by the text before the word and the word itself, into which
  `Completion.exists_lastWord` divides all that is typed.
* `Completion.LastSeparator line pos sep` — the separator before the word at the cursor.
-/

namespace VerbScript

namespace Completion

variable {line text before before' word rest rest' : List Char} {place start stop pos : Nat}

/-! ### Places -/

/-- The bytes of a text are those of its parts. -/
@[simp] theorem byteLength_append (a b : List Char) :
    byteLength (a ++ b) = byteLength a + byteLength b := by
  induction a with
  | nil => exact (Nat.zero_add _).symm
  | cons c a ih =>
    calc byteLength (c :: a ++ b)
        = c.utf8Size + byteLength (a ++ b) := rfl
      _ = c.utf8Size + (byteLength a + byteLength b) := by rw [ih]
      _ = byteLength (c :: a) + byteLength b := (Nat.add_assoc _ _ _).symm

/-- Every character takes a byte. -/
theorem byteLength_pos (c : Char) (rest : List Char) : 0 < byteLength (c :: rest) :=
  Nat.add_pos_left c.utf8Size_pos _

/-- So the only text without bytes is the empty one. -/
theorem byteLength_eq_zero_iff : byteLength text = 0 ↔ text = [] := by
  cases text with
  | nil => exact iff_of_true rfl rfl
  | cons c rest =>
    exact iff_of_false (Nat.ne_of_gt (byteLength_pos c rest)) (List.cons_ne_nil c rest)

/-- A place of a line at which a character ends, or at which the line begins. A line cannot be cut
anywhere else. -/
def IsBoundary (line : List Char) (place : Nat) : Prop :=
  ∃ before rest, line = before ++ rest ∧ byteLength before = place

/-- The text of a line between two places. Both are places at which the line can be cut. -/
def Between (line : List Char) (start stop : Nat) (text : List Char) : Prop :=
  ∃ before rest, line = before ++ text ++ rest ∧ byteLength before = start ∧
    byteLength (before ++ text) = stop

/-- Two places with a text between them are in order. -/
theorem Between.start_le (h : Between line start stop text) : start ≤ stop := by
  obtain ⟨before, rest, -, rfl, rfl⟩ := h
  rw [byteLength_append]
  exact Nat.le_add_right _ _

/-- The line can be cut at the first one. -/
theorem Between.boundary (h : Between line start stop text) : IsBoundary line start := by
  obtain ⟨before, rest, rfl, rfl, -⟩ := h
  exact ⟨before, text ++ rest, List.append_assoc before text rest, rfl⟩

/-- A line is cut in one way at each place, since every further character takes a byte at least.
Places are counted in bytes, as the editor counts them. -/
theorem before_unique (h : before ++ rest = before' ++ rest')
    (hlength : byteLength before = byteLength before') : before = before' := by
  induction before generalizing before' with
  | nil => exact (byteLength_eq_zero_iff.1 hlength.symm).symm
  | cons c before ih =>
    cases before' with
    | nil => exact absurd hlength (Nat.ne_of_gt (byteLength_pos c before))
    | cons c' before' =>
      obtain ⟨rfl, hrest⟩ := List.cons.inj h
      rw [ih hrest (Nat.add_left_cancel hlength)]

/-- **The text before a place** is found where the line can be cut, and nowhere else. One direction
follows the search, and the other one is an induction on the text before the place. -/
theorem before?_eq_some_iff :
    before? line place = some before ↔
      ∃ rest, line = before ++ rest ∧ byteLength before = place := by
  constructor
  · intro h
    fun_induction before? line place generalizing before with
    | case1 line =>
      cases h
      exact ⟨line, rfl, rfl⟩
    | case2 size => cases h
    | case3 c line size hne hle ih =>
      obtain ⟨before, hbefore, rfl⟩ := Option.map_eq_some_iff.1 h
      obtain ⟨rest, rfl, hlength⟩ := ih hbefore
      refine ⟨rest, rfl, ?_⟩
      -- the place lies behind the first character, by the guard of this case
      show c.utf8Size + byteLength before = size
      omega
    | case4 c line size hne hlt => cases h
  · rintro ⟨rest, rfl, rfl⟩
    induction before with
    | nil => cases rest <;> rfl
    | cons c before ih =>
      -- the place lies behind the first character
      have hpos := c.utf8Size_pos
      have hlength : byteLength (c :: before) = c.utf8Size + byteLength before := rfl
      obtain ⟨n, hn⟩ : ∃ n, byteLength (c :: before) = n + 1 :=
        Nat.exists_eq_succ_of_ne_zero (Nat.ne_of_gt (byteLength_pos c before))
      rw [hn, List.cons_append, before?, if_pos (by omega), ← hn, hlength, Nat.add_sub_cancel_left,
        ih]
      · rfl
      · omega

/-! ### The last word -/

/-- The word goes back to the last separator of the text that is typed, or to its beginning. It is
said by both parts of the text, the word and what is before it. -/
structure LastWord (before word : List Char) : Prop where
  unbroken : ∀ c ∈ word, separates c = false
  separated : ∀ sep, before.getLast? = some sep → separates sep = true

/-- **Whatever is typed ends with a word**, which may be empty. The induction is on the typed text
from its end: a separator begins an empty word, and any other character makes the word longer. -/
theorem exists_lastWord (typed : List Char) :
    ∃ before word, typed = before ++ word ∧ LastWord before word := by
  induction typed using List.reverseRecOn with
  | nil => exact ⟨[], [], rfl, List.forall_mem_nil _, nofun⟩
  | append_singleton typed c ih =>
    cases hc : separates c with
    | true =>
      refine ⟨typed ++ [c], [], (List.append_nil _).symm, List.forall_mem_nil _, fun sep hsep => ?_⟩
      rw [List.getLast?_concat] at hsep
      rwa [← Option.some.inj hsep]
    | false =>
      obtain ⟨before, word, rfl, hword⟩ := ih
      refine ⟨before, word ++ [c], List.append_assoc before word [c], ?_, hword.separated⟩
      exact List.forall_mem_append.2 ⟨hword.unbroken, List.forall_mem_singleton.2 hc⟩

/-- The word is what is found by going back from the cursor to the first separator. There may be
none; then the word begins with the line. -/
theorem LastWord.takeWhile_eq (h : LastWord before word) :
    ((before ++ word).reverse.takeWhile fun c => !separates c).reverse = word := by
  have hword : ∀ c ∈ word.reverse, (!separates c) = true := by
    intro c hc
    rw [h.unbroken c (List.mem_reverse.1 hc)]
    rfl
  -- no character of the text before the word is taken along, since its last one is a separator
  have hbefore : (before.reverse.takeWhile fun c => !separates c) = [] := by
    rcases List.eq_nil_or_concat before with rfl | ⟨earlier, sep, rfl⟩
    · rfl
    · have hsep := h.separated sep (by rw [List.concat_eq_append, List.getLast?_concat])
      rw [List.concat_eq_append, List.reverse_append, List.reverse_singleton,
        List.singleton_append, List.takeWhile_cons_of_neg (by rw [hsep]; exact nofun)]
  rw [List.reverse_append, List.takeWhile_append_of_pos hword, hbefore, List.append_nil,
    List.reverse_reverse]

/-! ### The known words -/

/-- The loop that erases repeated elements holds the element before the rest and those that it has
put by, newest first. -/
theorem mem_eraseRepsBy_loop {α : Type} [BEq α] [LawfulBEq α] {a x : α} {l seen : List α} :
    x ∈ List.eraseRepsBy.loop (· == ·) a l seen ↔ x = a ∨ x ∈ l ∨ x ∈ seen := by
  induction l generalizing a seen with
  | nil =>
    rw [List.eraseRepsBy.loop, List.mem_reverse, List.mem_cons]
    simp only [List.not_mem_nil, false_or]
  | cons b l ih =>
    rw [List.eraseRepsBy.loop, List.mem_cons]
    split
    next heq =>
      -- the element is the one before it, and is passed over
      obtain rfl := eq_of_beq heq
      rw [ih]
      grind
    next =>
      rw [ih, List.mem_cons]
      grind

/-- Erasing repeated elements loses none. -/
theorem mem_eraseReps {α : Type} [BEq α] [LawfulBEq α] {x : α} {l : List α} :
    x ∈ l.eraseReps ↔ x ∈ l := by
  cases l with
  | nil => rfl
  | cons a l =>
    refine mem_eraseRepsBy_loop.trans ?_
    simp only [List.not_mem_nil, or_false, List.mem_cons]

/-- The words that are known where the word begins at a place: commands at the beginning of a line,
if they are called for by a dot, and nothing for an empty word. -/
def known (start : Nat) (word : List Char) : List String :=
  if start = 0 ∧ word.head? = some '.' then Command.names
  else if word = [] then []
  else words

/-- **What can be proposed** for a word that begins at a place. In a script these are the keywords
and the prepositions of one word. -/
def Proposable (start : Nat) (word : List Char) (k : String) : Prop :=
  if start = 0 ∧ word.head? = some '.' then k ∈ Command.names
  else word ≠ [] ∧ (k ∈ ["if", "while", "end", "and", "or", "true", "false", "null"] ∨
    k ∈ Preposition.phrases ∧ ' ' ∉ k.toList)

theorem mem_known_iff {k : String} : k ∈ known start word ↔ Proposable start word k := by
  unfold known Proposable
  split
  · rfl
  · by_cases hword : word = []
    · rw [if_pos hword]
      exact iff_of_false List.not_mem_nil fun h => h.1 hword
    · -- sorting the words and erasing those that are repeated loses none
      rw [if_neg hword, words, mem_eraseReps, List.mem_mergeSort, List.mem_append, List.mem_filter]
      simp [hword]

/-- For an empty word nothing can be proposed. -/
theorem not_proposable_nil (start : Nat) (k : String) : ¬Proposable start [] k := by
  simp [Proposable]

/-! ### The answer -/

/-- **The answer**, by the text before the word and the word. Whether there is one depends on the
last character of the text before the word alone. -/
theorem complete?_eq (h : LastWord before word) (rest : List Char) :
    complete? (before ++ word ++ rest) (byteLength (before ++ word)) =
      if before.getLast?.any (1 < ·.utf8Size) then none
      else some ⟨byteLength before,
        (known (byteLength before) word).filter fun k => word.isPrefixOf k.toList⟩ := by
  have htyped : before? (before ++ word ++ rest) (byteLength (before ++ word))
      = some (before ++ word) := before?_eq_some_iff.2 ⟨rest, rfl, rfl⟩
  have hlength : (before ++ word).length - word.length = before.length := by
    rw [List.length_append, Nat.add_sub_cancel]
  have hstart : byteLength (before ++ word) - byteLength word = byteLength before := by
    rw [byteLength_append, Nat.add_sub_cancel]
  unfold complete?
  rw [htyped]
  show (if _ then none else _) = _
  -- the word is counted in characters for the text before it, and in bytes for its place
  simp only [h.takeWhile_eq, hlength, List.take_left', hstart, List.isEmpty_iff, known]
  rfl

/-- What is typed ends with one word only. -/
theorem LastWord.unique {word' : List Char} (h : LastWord before word) (h' : LastWord before' word')
    (htyped : before ++ word = before' ++ word') : before = before' := by
  have hword : word = word' := by
    rw [← h.takeWhile_eq, htyped, h'.takeWhile_eq]
  rw [hword] at htyped
  exact List.append_cancel_right htyped

/-- **The last separator before a place**: none stands between it and the place. It is given by the
two places around it, and may be of any width. -/
def LastSeparator (line : List Char) (pos : Nat) (sep : Char) : Prop :=
  ∃ start stop word, Between line start stop [sep] ∧ Between line stop pos word ∧
    separates sep = true ∧ ∀ c ∈ word, separates c = false

/-- The last separator before the place behind a word is the last character of the text before the
word. -/
theorem LastWord.lastSeparator_iff (h : LastWord before word) (rest : List Char) (sep : Char) :
    LastSeparator (before ++ word ++ rest) (byteLength (before ++ word)) sep ↔
      before.getLast? = some sep := by
  constructor
  · rintro ⟨start, stop, word', ⟨earlier, behind, hline, -, hstop⟩,
      ⟨before', rest', hline', hstop', hpos⟩, hsep, hword'⟩
    -- the places of the separator cut the line behind it, and there `word'` begins
    have hcut : before' = earlier ++ [sep] := by
      have hrest : before' ++ (word' ++ rest') = earlier ++ [sep] ++ behind :=
        calc before' ++ (word' ++ rest')
            = before' ++ word' ++ rest' := (List.append_assoc _ _ _).symm
          _ = before ++ word ++ rest := hline'.symm
          _ = earlier ++ [sep] ++ behind := hline
      exact before_unique hrest (hstop'.trans hstop.symm)
    have htyped : before' ++ word' = before ++ word := before_unique hline'.symm hpos
    have hlast : LastWord before' word' := by
      refine ⟨hword', fun sep' hsep' => ?_⟩
      rw [hcut, List.getLast?_concat] at hsep'
      rwa [← Option.some.inj hsep']
    rw [← hlast.unique h htyped, hcut]
    -- both are the last word of what was typed, so the text before them is the same
    exact List.getLast?_concat
  · intro hsep
    -- the two places are those before and behind the last character
    obtain ⟨earlier, rfl⟩ := List.getLast?_eq_some_iff.1 hsep
    refine ⟨byteLength earlier, byteLength (earlier ++ [sep]), word, ?_, ?_, h.separated sep hsep,
      h.unbroken⟩
    · exact ⟨earlier, word ++ rest, List.append_assoc _ _ _, rfl, rfl⟩
    · exact ⟨earlier ++ [sep], rest, rfl, rfl, rfl⟩

/-- **Where completion answers, and what.** At every place at which a line can be cut there is an
answer, unless the last separator before it has more than one byte. The answer names a place that is
not behind the cursor and at which the line can be cut. Between it and the cursor there is no
separator, and it is the beginning of the line or directly behind a separator. What is proposed are
the known words, or the commands, that begin with the text between the two places, and all of them;
for an empty text nothing is proposed. -/
theorem complete?_valid (hpos : IsBoundary line pos) :
    (complete? line pos = none ↔ ∃ sep, LastSeparator line pos sep ∧ 1 < sep.utf8Size) ∧
    ∀ c, complete? line pos = some c →
      c.start ≤ pos ∧ IsBoundary line c.start ∧
      (c.start = 0 ∨ ∃ start sep, Between line start c.start [sep] ∧ separates sep = true) ∧
      ∃ word, Between line c.start pos word ∧ (∀ ch ∈ word, separates ch = false) ∧
        (∀ k, k ∈ c.candidates ↔ Proposable c.start word k ∧ word <+: k.toList) ∧
        (word = [] → c.candidates = []) := by
  obtain ⟨typed, rest, rfl, rfl⟩ := hpos
  obtain ⟨before, word, rfl, hword⟩ := exists_lastWord typed
  rw [complete?_eq hword rest]
  constructor
  · -- there is no answer exactly if the text before the word ends with a wide separator
    simp only [hword.lastSeparator_iff rest]
    cases before.getLast? with
    | none => simp
    | some sep => simp
  · intro c hc
    split at hc
    · cases hc
    · obtain rfl := Option.some.inj hc
      have hbetween : Between (before ++ word ++ rest) (byteLength before)
          (byteLength (before ++ word)) word := ⟨before, rest, rfl, rfl, rfl⟩
      have hcandidates : ∀ k,
          k ∈ ((known (byteLength before) word).filter fun k => word.isPrefixOf k.toList) ↔
            Proposable (byteLength before) word k ∧ word <+: k.toList := by
        intro k
        rw [List.mem_filter, List.isPrefixOf_iff_prefix, mem_known_iff]
      refine ⟨hbetween.start_le, hbetween.boundary, ?_, word, hbetween, hword.unbroken,
        hcandidates, ?_⟩
      · -- the text before the word is empty, or ends with a separator
        rcases List.eq_nil_or_concat before with rfl | ⟨earlier, sep, rfl⟩
        · exact .inl rfl
        · rw [List.concat_eq_append] at hword ⊢
          refine .inr ⟨byteLength earlier, sep, ⟨earlier, word ++ rest, ?_, rfl, rfl⟩, ?_⟩
          · exact List.append_assoc _ _ _
          · exact hword.separated sep List.getLast?_concat
      · rintro rfl
        -- a candidate would be something that can be proposed for an empty word
        rw [List.eq_nil_iff_forall_not_mem]
        intro k hk
        exact not_proposable_nil _ k ((hcandidates k).1 hk).1

/-- Behind a bracket, `wh` is completed to `while`, and to nothing that is not a keyword or a
preposition. -/
theorem bracket_completed :
    IsBoundary "say [wh".toList 7 ∧ ∃ c, complete? "say [wh".toList 7 = some c ∧ c.start = 5 ∧
      "while" ∈ c.candidates ∧ ∀ k ∈ c.candidates, Proposable 5 "wh".toList k := by
  have hpos : IsBoundary "say [wh".toList 7 := ⟨"say [wh".toList, [], rfl, rfl⟩
  obtain ⟨c, hc⟩ : ∃ c, complete? "say [wh".toList 7 = some c := ⟨_, rfl⟩
  have hstart : c.start = 5 := by
    have hsome : some c.start = (complete? "say [wh".toList 7).map Completion.start := by
      rw [hc]
      rfl
    exact Option.some.inj hsome
  obtain ⟨-, -, -, word, ⟨before, rest, hline, hbefore, htyped⟩, -, hcandidates, -⟩ :=
    (complete?_valid hpos).2 c hc
  rw [hstart] at hbefore hcandidates
  -- the two places cut the line in one way
  obtain rfl : word = "wh".toList := by
    have hcut : before = "say [".toList := by
      have hbehind : before ++ (word ++ rest) = "say [".toList ++ "wh".toList := by
        rw [← List.append_assoc]
        exact hline.symm
      exact before_unique hbehind hbefore
    have hall : before ++ word = "say [".toList ++ "wh".toList := by
      have hend : before ++ word ++ rest = "say [".toList ++ "wh".toList ++ [] := hline.symm
      exact before_unique hend htyped
    rw [hcut] at hall
    exact List.append_cancel_left hall
  refine ⟨hpos, c, hc, hstart, (hcandidates "while").2 ⟨?_, ?_⟩, fun k hk => ?_⟩
  · exact ⟨nofun, .inl (List.mem_cons_of_mem _ List.mem_cons_self)⟩
  · exact ⟨"ile".toList, rfl⟩
  · exact ((hcandidates k).1 hk).1

/-- Behind a no-break space, which takes two bytes, the same word has no answer. -/
theorem noBreakSpace_uncompleted :
    IsBoundary "say\u00a0wh".toList 7 ∧ complete? "say\u00a0wh".toList 7 = none :=
  ⟨⟨"say\u00a0wh".toList, [], rfl, rfl⟩, rfl⟩

end Completion

end VerbScript
