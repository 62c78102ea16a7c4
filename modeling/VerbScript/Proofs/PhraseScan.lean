import VerbScript.Proofs.PhraseMatches

/-!
# Finding phrases is a scan

`Preposition.find` collects the occurrences phrase by phrase, sorts them, and drops those that
overlap an earlier one. A reader of a line does something simpler: he goes through it from left to
right, takes the longest phrase at the first place where one begins, and goes on behind it. This
module shows that both come to the same.

* `Preposition.mem_occurrences_iff` — the collection lists the occurrences, all of them.
* `Preposition.Scans nodes place ms` — the scan, from a place of the line on, takes the matches
  `ms`. `Scans.unique` says that a line is scanned in one way only.
* `Preposition.scans_disjointFrom` — what is kept of the sorted occurrences is what a scan takes.
* `Scans.longest` and `Scans.covers` — what a scan takes is the longest at its place, and whatever
  occurs overlaps something that is taken and does not start later.

`Preposition.find_leftmost_longest` collects this for whole lines.
-/

namespace VerbScript

namespace Preposition

variable {nodes : List Node} {m m' : Match} {ms ms' : List Match} {place : Nat}

/-! ### Every occurrence is listed -/

/-- The words of the known phrases have no large letters, so that it makes no difference which of
the two is lowered when a word is compared. -/
theorem map_toLower_phraseWords :
    ∀ phrase ∈ phrases, ∀ word ∈ phraseWords phrase, word.map Char.toLower = word := by
  decide +kernel

/-- No two known phrases have the same words. -/
theorem phraseWords_injective :
    ∀ phrase ∈ phrases, ∀ phrase' ∈ phrases,
      phraseWords phrase = phraseWords phrase' → phrase = phrase' := by
  decide +kernel

/-- Where nodes spell words without large letters, the comparison of the search succeeds. The
induction is on the words, each of which takes one node. -/
theorem beginsWith_of_spells {words : List (List Char)} {nodes : List Node}
    (hsmall : ∀ word ∈ words, word.map Char.toLower = word)
    (h : Spells (nodes.take words.length) words) :
    beginsWith words (nodes.map spelling?) = true := by
  induction words generalizing nodes with
  | nil => rfl
  | cons word words ih =>
    cases nodes with
    | nil => cases h
    | cons n nodes =>
      obtain ⟨⟨text, rfl, hsame⟩, hrest⟩ := List.forall₂_cons.1 h
      have hspelling : spelling? (.word text) = some word := by
        show some (text.toList.map Char.toLower) = some word
        rw [show text.toList.map Char.toLower = word.map Char.toLower from hsame,
          hsmall word List.mem_cons_self]
      have hwords := ih (fun word' hword' => hsmall word' (List.mem_cons_of_mem word hword')) hrest
      show (spelling? (.word text) == some word && beginsWith words (nodes.map spelling?)) = true
      rw [hspelling, hwords, beq_self_eq_true]
      rfl

/-- Every place at which the comparison succeeds is among the places that are collected. The
induction is on the line; a place behind its first node is a place of the rest. -/
theorem mem_places_of_beginsWith {words : List (List Char)} {start i : Nat} {nodes : List Node}
    (hi : i < nodes.length) (h : beginsWith words ((nodes.drop i).map spelling?) = true) :
    start + i ∈ places words start (nodes.map spelling?) := by
  induction nodes generalizing start i with
  | nil => exact absurd hi (Nat.not_lt_zero i)
  | cons n nodes ih =>
    rw [List.map_cons, places]
    cases i with
    | zero =>
      have hfirst : beginsWith words (spelling? n :: nodes.map spelling?) = true := h
      rw [if_pos hfirst]
      exact List.mem_cons_self
    | succ i =>
      -- the place is one of the rest of the line, whether the line begins with the words or not
      have hlater : start + (i + 1) ∈ places words (start + 1) (nodes.map spelling?) := by
        rw [show start + (i + 1) = start + 1 + i by omega]
        exact ih (Nat.lt_of_succ_lt_succ hi) h
      split
      · exact List.mem_cons_of_mem start hlater
      · exact hlater

/-- Whatever occurs is listed, under the phrase that it is an occurrence of. An occurrence does not
depend on large and small letters, and neither does the comparison. -/
theorem mem_occurrences_of_occurs (h : m.OccursIn nodes) : m ∈ occurrences nodes := by
  obtain ⟨phrase, start, length⟩ := m
  obtain rfl : length = (phraseWords phrase).length := h.length_eq
  have hstop : start + (phraseWords phrase).length ≤ nodes.length := h.stop_le
  have hpos : 0 < (phraseWords phrase).length := h.length_pos
  have hbegins : beginsWith (phraseWords phrase) ((nodes.drop start).map spelling?) = true :=
    beginsWith_of_spells (map_toLower_phraseWords phrase h.known) h.spells
  have hplace : 0 + start ∈ places (phraseWords phrase) 0 (nodes.map spelling?) :=
    mem_places_of_beginsWith (by omega) hbegins
  rw [Nat.zero_add] at hplace
  refine List.mem_flatMap.2 ⟨(phrase, phraseWords phrase), ?_, List.mem_map_of_mem hplace⟩
  -- the lexicon has the words of every known phrase
  exact List.mem_map_of_mem h.known

/-- **The occurrences of a line**, and nothing else, are listed. So what is found can be described
without the collection. -/
theorem mem_occurrences_iff : m ∈ occurrences nodes ↔ m.OccursIn nodes :=
  ⟨occurs_of_mem_occurrences, mem_occurrences_of_occurs⟩

/-- Nodes spell one list of words without large letters only. Each node has one text, and the words
are this text in small letters. -/
theorem Spells.unique {nodes : List Node} {words words' : List (List Char)}
    (hsmall : ∀ word ∈ words, word.map Char.toLower = word)
    (hsmall' : ∀ word ∈ words', word.map Char.toLower = word)
    (h : Spells nodes words) (h' : Spells nodes words') : words = words' := by
  induction h generalizing words' with
  | nil =>
    cases h'
    rfl
  | @cons n word nodes words hword hwords ih =>
    obtain ⟨word', words'', hword', hwords', rfl⟩ := List.forall₂_cons_left_iff.1 h'
    obtain ⟨text, rfl, hsame⟩ := hword
    obtain ⟨text', htext, hsame'⟩ := hword'
    cases htext
    have heq : word = word' :=
      calc word = word.map Char.toLower := (hsmall word List.mem_cons_self).symm
        _ = text.toList.map Char.toLower := hsame.symm
        _ = word'.map Char.toLower := hsame'
        _ = word' := hsmall' word' List.mem_cons_self
    have hrest := ih (fun w hw => hsmall w (List.mem_cons_of_mem word hw))
      (fun w hw => hsmall' w (List.mem_cons_of_mem word' hw)) hwords'
    rw [heq, hrest]

/-- **An occurrence is known by its place and its length**, as no two phrases have the same words.
So there is one longest occurrence at a place. -/
theorem Match.OccursIn.eq_of_length (h : m.OccursIn nodes) (h' : m'.OccursIn nodes)
    (hstart : m.start = m'.start) (hlength : m.length = m'.length) : m = m' := by
  have hspells := h'.spells
  rw [← hstart, ← hlength] at hspells
  have hwords : phraseWords m.phrase = phraseWords m'.phrase :=
    h.spells.unique (map_toLower_phraseWords m.phrase h.known)
      (map_toLower_phraseWords m'.phrase h'.known) hspells
  have hphrase := phraseWords_injective m.phrase h.known m'.phrase h'.known hwords
  obtain ⟨phrase, start, length⟩ := m
  obtain ⟨phrase', start', length'⟩ := m'
  -- the phrases are the same, and place and length were given to be
  cases hphrase
  cases hstart
  cases hlength
  rfl

/-! ### Scans -/

/-- **The scan of a line** from a place on, with the matches it takes. At a place where phrases
begin it has no choice but to take the longest. -/
inductive Scans (nodes : List Node) : Nat → List Match → Prop where
  /-- The line is over. -/
  | ends {place : Nat} (behind : nodes.length ≤ place) : Scans nodes place []
  /-- No phrase begins at the place. -/
  | pass {place : Nat} {ms : List Match} (inside : place < nodes.length)
      (nothing : ∀ m : Match, m.OccursIn nodes → m.start ≠ place)
      (rest : Scans nodes (place + 1) ms) : Scans nodes place ms
  /-- The longest phrase that begins at the place is taken, and the scan goes on behind its last
  word. -/
  | take {place : Nat} {m : Match} {ms : List Match} (occurs : m.OccursIn nodes)
      (here : m.start = place)
      (longest : ∀ m' : Match, m'.OccursIn nodes → m'.start = place → m'.length ≤ m.length)
      (rest : Scans nodes m.stop ms) : Scans nodes place (m :: ms)

/-- An occurrence has a word, so it starts within the line. -/
theorem Match.OccursIn.start_lt (h : m.OccursIn nodes) : m.start < nodes.length := by
  have hpos := h.length_pos
  have hstop : m.start + m.length ≤ nodes.length := h.stop_le
  omega

/-- **A line is scanned in one way only.** At every place exactly one of the three moves can be
made, and the induction on one scan finds the other make the same. -/
theorem Scans.unique (h : Scans nodes place ms) (h' : Scans nodes place ms') : ms = ms' := by
  induction h generalizing ms' with
  | ends behind =>
    cases h' with
    | ends behind' => rfl
    | pass inside nothing rest => exact absurd inside (Nat.not_lt.2 behind)
    | take occurs here longest rest =>
      exact absurd (here ▸ occurs.start_lt) (Nat.not_lt.2 behind)
  | pass inside nothing rest ih =>
    cases h' with
    | ends behind => exact absurd inside (Nat.not_lt.2 behind)
    | pass inside' nothing' rest' => exact ih rest'
    | take occurs here longest rest' => exact absurd here (nothing _ occurs)
  | @take place m ms occurs here longest rest ih =>
    cases h' with
    | ends behind => exact absurd (here ▸ occurs.start_lt) (Nat.not_lt.2 behind)
    | pass inside nothing rest' => exact absurd here (nothing m occurs)
    | @take _ m' ms' occurs' here' longest' rest' =>
      -- both are the longest at one place
      have hlength : m.length = m'.length :=
        Nat.le_antisymm (longest' m occurs here) (longest m' occurs' here')
      obtain rfl := occurs.eq_of_length occurs' (here.trans here'.symm) hlength
      rw [ih rest']

/-- Where nothing begins, a scan goes on. The induction is on the number of places that are
passed. -/
theorem Scans.pass_to (next : Nat) (hle : place ≤ next) (hnext : next ≤ nodes.length)
    (hnothing : ∀ m : Match, m.OccursIn nodes → place ≤ m.start → next ≤ m.start)
    (h : Scans nodes next ms) : Scans nodes place ms := by
  induction hk : next - place generalizing place with
  | zero =>
    obtain rfl : place = next := by omega
    exact h
  | succ k ih =>
    refine .pass (by omega) (fun m hm hstart => ?_)
      (ih (by omega) (fun m hm hplace => ?_) (by omega))
    · have := hnothing m hm (Nat.le_of_eq hstart.symm)
      omega
    · exact hnothing m hm (by omega)

/-- **Sorted occurrences**, without those that overlap an earlier one, are what a scan takes. The
recursion of `disjointFrom` is followed, with the invariant that the list holds every occurrence
that starts at `reached` or behind it. -/
theorem scans_disjointFrom {reached : Nat} (hsorted : ms.Pairwise fun a b => a.precedes b = true)
    (hoccur : ∀ m ∈ ms, m.OccursIn nodes)
    (hall : ∀ m : Match, m.OccursIn nodes → reached ≤ m.start → m ∈ ms) :
    Scans nodes reached (disjointFrom reached ms) := by
  fun_induction disjointFrom reached ms with
  | case1 reached =>
    -- nothing occurs any more
    by_cases hend : nodes.length ≤ reached
    · exact .ends hend
    · refine Scans.pass_to nodes.length (by omega) (Nat.le_refl nodes.length)
        (fun m hm hreached => ?_)
        (.ends (Nat.le_refl nodes.length))
      exact absurd (hall m hm hreached) List.not_mem_nil
  | case2 reached m rest hlt ih =>
    -- `m` starts before `reached`, so that the invariant does not need it
    refine ih (List.pairwise_cons.1 hsorted).2
      (fun m' hm' => hoccur m' (List.mem_cons_of_mem m hm')) (fun m' hm' hreached => ?_)
    rcases List.mem_cons.1 (hall m' hm' hreached) with rfl | hrest
    · omega
    · exact hrest
  | case3 reached m rest hreached ih =>
    obtain ⟨hfirst, hrest⟩ := List.pairwise_cons.1 hsorted
    have hm := hoccur m List.mem_cons_self
    have hpos := hm.length_pos
    -- `m` comes first of all occurrences that are left
    have hprecedes : ∀ m' : Match, m'.OccursIn nodes → reached ≤ m'.start →
        m.start < m'.start ∨ m.start = m'.start ∧ m'.length ≤ m.length := by
      intro m' hm' hle
      rcases List.mem_cons.1 (hall m' hm' hle) with rfl | hmem
      · exact .inr ⟨rfl, Nat.le_refl _⟩
      · simpa [Match.precedes] using hfirst m' hmem
    refine Scans.pass_to m.start (by omega) (Nat.le_of_lt hm.start_lt)
      (fun m' hm' hle => ?_) (.take hm rfl (fun m' hm' hstart => ?_) (ih hrest ?_ ?_))
    · -- nothing starts between `reached` and `m`
      rcases hprecedes m' hm' hle with hlt | ⟨heq, -⟩ <;> omega
    · -- what starts where `m` does is not longer
      rcases hprecedes m' hm' (by omega) with hlt | ⟨-, hle⟩
      · omega
      · exact hle
    · exact fun m' hm' => hoccur m' (List.mem_cons_of_mem m hm')
    · intro m' hm' hstop
      -- what starts behind `m` is still in the list
      have hstop : m.start + m.length ≤ m'.start := hstop
      rcases List.mem_cons.1 (hall m' hm' (by omega)) with rfl | hmem
      · omega
      · exact hmem

/-- The order of matches, by their places and then by their lengths, is transitive. -/
theorem Match.precedes_trans (a b c : Match) (hab : a.precedes b = true)
    (hbc : b.precedes c = true) : a.precedes c = true := by
  simp only [Match.precedes, Bool.or_eq_true, Bool.and_eq_true, decide_eq_true_eq,
    beq_iff_eq] at hab hbc ⊢
  omega

/-- Any two matches can be compared, so a list of them can be sorted. -/
theorem Match.precedes_total (a b : Match) : (a.precedes b || b.precedes a) = true := by
  simp only [Match.precedes, Bool.or_eq_true, Bool.and_eq_true, decide_eq_true_eq, beq_iff_eq]
  omega

/-- **What is found in a line is what a scan of it takes.** The occurrences are sorted by place, and
those at one place by length, the longest first. -/
theorem find_scans (nodes : List Node) : Scans nodes 0 (find nodes) := by
  refine scans_disjointFrom ?_ (fun m hm => ?_) (fun m hm _ => ?_)
  · -- the sort orders the occurrences, and neither loses nor adds one
    exact List.pairwise_mergeSort Match.precedes_trans Match.precedes_total _
  · exact mem_occurrences_iff.1 (List.mem_mergeSort.1 hm)
  · exact List.mem_mergeSort.2 (mem_occurrences_iff.2 hm)

/-- The order of the lexicon does not matter: from any list of the occurrences in which the earlier
and longer ones come first, the same ones are kept. -/
theorem find_eq_disjointFrom {ms : List Match}
    (hsorted : ms.Pairwise fun a b => a.precedes b = true) (hperm : ms.Perm (occurrences nodes)) :
    find nodes = disjointFrom 0 ms := by
  refine (find_scans nodes).unique (scans_disjointFrom hsorted (fun m hm => ?_) fun m hm _ => ?_)
  · exact mem_occurrences_iff.1 (hperm.mem_iff.1 hm)
  · exact hperm.mem_iff.2 (mem_occurrences_iff.2 hm)

/-! ### What a scan takes and what it leaves -/

/-- What is taken is the longest at its place. All that was taken before starts further to the
left. -/
theorem Scans.longest (h : Scans nodes place ms) (hm : m ∈ ms) (hm' : m'.OccursIn nodes)
    (hstart : m'.start = m.start) : m'.length ≤ m.length := by
  induction h with
  | ends behind => exact absurd hm List.not_mem_nil
  | pass inside nothing rest ih => exact ih hm
  | take occurs here longest rest ih =>
    rcases List.mem_cons.1 hm with rfl | hrest
    · -- it was the longest when it was taken, and what is taken later is so by induction
      exact longest m' hm' (hstart.trans here)
    · exact ih hrest

/-- Whatever occurs overlaps something that is taken and does not start later. If the scan passes
its place, it does so within a match. -/
theorem Scans.covers (h : Scans nodes place ms) (hm : m.OccursIn nodes) (hplace : place ≤ m.start) :
    ∃ taken ∈ ms, taken.start ≤ m.start ∧ m.start < taken.stop := by
  induction h with
  | ends behind =>
    have := hm.start_lt
    omega
  | pass inside nothing rest ih =>
    -- nothing begins at a place that is passed, so `m` starts behind it
    have hne := nothing m hm
    exact ih (by omega)
  | @take place first ms occurs here longest rest ih =>
    by_cases hstop : first.stop ≤ m.start
    · obtain ⟨taken, htaken, hcovers⟩ := ih hstop
      exact ⟨taken, List.mem_cons_of_mem first htaken, hcovers⟩
    · -- the match that is taken here reaches over the place of `m`
      exact ⟨first, List.mem_cons_self, by omega, by omega⟩

/-- **Phrases are found leftmost and longest.** In every line, the phrases that are found are those
that a scan takes which goes from left to right, takes the longest phrase at the first place where
one begins, and goes on behind its last word; no other list of matches is taken by such a scan. So
the matches are in order and do not overlap, each of them occurs in the line, no longer phrase
occurs at its place, and every occurrence, found or not, overlaps a match that does not start
later. -/
theorem find_leftmost_longest (nodes : List Node) :
    (∀ ms, Scans nodes 0 ms ↔ ms = find nodes) ∧
    (find nodes).Pairwise (fun a b => a.stop ≤ b.start) ∧
    (∀ m ∈ find nodes, m.OccursIn nodes ∧
      ∀ m' : Match, m'.OccursIn nodes → m'.start = m.start → m'.length ≤ m.length) ∧
    (∀ m : Match, m.OccursIn nodes →
      ∃ taken ∈ find nodes, taken.start ≤ m.start ∧ m.start < taken.stop) := by
  have hscan := find_scans nodes
  refine ⟨fun ms => ⟨fun h => h.unique hscan, ?_⟩, find_pairwise nodes, fun m hm => ?_, ?_⟩
  · rintro rfl
    exact hscan
  · exact ⟨find_occurs hm, fun m' hm' hstart => hscan.longest hm hm' hstart⟩
  · intro m hm
    exact hscan.covers hm (Nat.zero_le m.start)

/-- The shorter phrases `off` and `on` begin where the longer ones do that are found. -/
example :
    (find (["jump", "OFF", "of", "rock", "on", "top", "of", "hill"].map Node.word)).map
      (fun m => (m.phrase, m.start)) = [("off of", 1), ("on top of", 4)] := by
  cbv

end Preposition

end VerbScript
