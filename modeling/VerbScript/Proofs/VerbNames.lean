import VerbScript.Proofs.PhraseScan
import VerbScript.Proofs.VerbLines

/-!
# The verb's name and the split of its line

A line is searched for phrases from the verb on, and the phrases that begin at the verb are left
out afterwards. So a phrase that begins at the verb makes a difference exactly if it reaches over a
word where another phrase begins, which is then not found. The only such phrase is `from inside`:
after any other verb than `from`, the word `inside` is a phrase of its own.

* `Preposition.behind` — the phrases behind the verb, found without looking at the verb.
* `Preposition.FromInside` — the lines that begin with the phrase `from inside`.
* `Preposition.find_behind`, `Preposition.find_swallowed` — what is found behind the verb is
  `behind`, and in the lines of the exception all of it but the `inside`.
* `Verbcall.cut_parts` — how the parts of a call depend on what is found.
* `Verbcall.ofLine?_verbs` — the calls of two verbs with the same nodes behind them, and the phrase
  right behind a verb.
-/

namespace VerbScript

namespace Preposition

variable {nodes args : List Node} {n n' : Node} {verb : String} {m m' : Match} {ms : List Match}
  {place : Nat}

/-! ### Behind the verb -/

/-- An occurrence behind the first node does not depend on it. So another node may take the place of
the verb. -/
theorem Match.OccursIn.of_behind (n' : Node) (h : m.OccursIn (n :: args)) (hstart : 1 ≤ m.start) :
    m.OccursIn (n' :: args) := by
  obtain ⟨p, hp⟩ : ∃ p, m.start = p + 1 := ⟨m.start - 1, by omega⟩
  have hspells := h.spells
  -- what is dropped has the first node among it
  rw [hp, List.drop_succ_cons] at hspells
  refine ⟨h.known, h.length_eq, h.stop_le, ?_⟩
  rw [hp, List.drop_succ_cons]
  exact hspells

/-- Nor does a scan that begins behind it. The induction is on the scan, and each of its occurrences
starts behind the node, since its places only grow. -/
theorem Scans.of_behind (n' : Node) (h : Scans (n :: args) place ms) (hplace : 1 ≤ place) :
    Scans (n' :: args) place ms := by
  induction h with
  | ends behind => exact .ends behind
  | pass inside nothing rest ih =>
    refine .pass inside (fun m hm hstart => ?_) (ih (Nat.le_succ_of_le hplace))
    exact nothing m (hm.of_behind n (by omega)) hstart
  | take occurs here longest rest ih =>
    refine .take (occurs.of_behind n' (by omega)) here (fun m' hm' hstart => ?_) (ih ?_)
    · exact longest m' (hm'.of_behind n (by omega)) hstart
    · exact Nat.le_trans (by omega) (Nat.le_add_right _ _)

/-- **The phrases behind the verb**, whatever the verb is: those that are found if there is no word
in its place. A `null` is in no phrase, so that none begins there. -/
def behind (args : List Node) : List Match := find (.null :: args)

/-- The words of an occurrence stand at its place. They are the words of the phrase, up to large and
small letters. -/
theorem Match.OccursIn.word_at (h : m.OccursIn nodes) {i : Nat} {word : List Char}
    (hword : (phraseWords m.phrase)[i]? = some word) :
    ∃ text, nodes[m.start + i]? = some (.word text) ∧ SameLetters text.toList word := by
  obtain ⟨hi, hget⟩ := List.getElem?_eq_some_iff.1 hword
  have hlength := h.spells.length_eq
  have hnode : i < ((nodes.drop m.start).take m.length).length := by omega
  -- the words are spelled node by node
  obtain ⟨text, htext, hsame⟩ := h.spells.get hnode hi
  rw [List.get_eq_getElem, List.getElem_take, List.getElem_drop] at htext
  rw [List.get_eq_getElem, hget] at hsame
  exact ⟨text, List.getElem?_eq_some_iff.2 ⟨_, htext⟩, hsame⟩

/-- Two occurrences agree in the words they share. The line has one text there, and the words of
both phrases are that text in small letters. -/
theorem Match.OccursIn.words_agree (h : m.OccursIn nodes) (h' : m'.OccursIn nodes) {i j : Nat}
    {word word' : List Char} (hword : (phraseWords m.phrase)[i]? = some word)
    (hword' : (phraseWords m'.phrase)[j]? = some word') (hplace : m.start + i = m'.start + j) :
    word = word' := by
  obtain ⟨text, htext, hsame⟩ := h.word_at hword
  obtain ⟨text', htext', hsame'⟩ := h'.word_at hword'
  rw [hplace, htext'] at htext
  cases htext
  calc word = word.map Char.toLower :=
        (map_toLower_phraseWords m.phrase h.known word (List.mem_of_getElem? hword)).symm
    _ = text.toList.map Char.toLower := hsame.symm
    _ = word'.map Char.toLower := hsame'
    _ = word' := map_toLower_phraseWords m'.phrase h'.known word' (List.mem_of_getElem? hword')

/-- What is found with no word in the verb's place is what a scan from behind it takes. A phrase
begins with a word, so none begins at a node that is no word. -/
theorem scans_behind (args : List Node) : Scans (.null :: args) 1 (behind args) := by
  have hscan : Scans (.null :: args) 0 (behind args) := find_scans _
  generalize behind args = found at hscan ⊢
  cases hscan with
  | ends nothing => exact absurd nothing (Nat.not_succ_le_zero _)
  | pass inside nothing rest => exact rest
  | @take _ m ms occurs here longest rest =>
    -- no word stands in the place of the verb
    obtain ⟨word, hword⟩ : ∃ word, (phraseWords m.phrase)[0]? = some word := by
      have hpos := occurs.length_pos
      rw [occurs.length_eq] at hpos
      exact ⟨_, List.getElem?_eq_getElem hpos⟩
    obtain ⟨text, htext, -⟩ := occurs.word_at hword
    rw [here] at htext
    cases htext

/-- A scan that begins right behind the verb takes the phrases behind it. -/
theorem Scans.eq_behind (h : Scans (n :: args) 1 ms) : ms = behind args :=
  (h.of_behind .null (Nat.le_refl 1)).unique (scans_behind args)

/-- A scan takes nothing that starts before its place. So what stands to the left of it cannot be
covered by what is taken. -/
theorem Scans.le_start (h : Scans nodes place ms) : ∀ m ∈ ms, place ≤ m.start := by
  induction h with
  | ends => exact fun m hm => absurd hm List.not_mem_nil
  | pass inside nothing rest ih =>
    intro m hm
    have hstart := ih m hm
    omega
  | @take place first ms occurs here longest rest ih =>
    intro m hm
    rcases List.mem_cons.1 hm with rfl | hrest
    · exact Nat.le_of_eq here.symm
    · have hstop : first.start + first.length ≤ m.start := ih m hrest
      omega

/-- What a scan from behind the verb takes is behind the verb. -/
theorem Scans.filter_eq (h : Scans nodes place ms) (hplace : 1 ≤ place) :
    ms.filter (1 ≤ ·.start) = ms := by
  rw [List.filter_eq_self]
  intro m hm
  have hstart := h.le_start m hm
  exact decide_eq_true (by omega)

/-! ### The phrase with a phrase in it -/

/-- **The exception**: the line begins with the phrase `from inside`. Its first word is the verb
then, and its second word is a phrase as well. -/
def FromInside (verb : String) (args : List Node) : Prop :=
  Match.OccursIn ⟨"from inside", 0, 2⟩ (.word verb :: args)

/-- No other phrase has a word in it that a phrase begins with. The table of the phrases is gone
through, every phrase with every other. -/
theorem not_begun_within : ∀ phrase ∈ phrases, phrase ≠ "from inside" →
    ∀ word ∈ (phraseWords phrase).tail, ∀ phrase' ∈ phrases,
      (phraseWords phrase')[0]? ≠ some word := by
  decide +kernel

/-- No other phrase of several words begins with `from`. -/
theorem eq_fromInside : ∀ phrase ∈ phrases, (phraseWords phrase)[0]? = some "from".toList →
    2 ≤ (phraseWords phrase).length → phrase = "from inside" := by
  decide +kernel

/-- No other phrase begins with `inside`. -/
theorem eq_inside : ∀ phrase ∈ phrases, (phraseWords phrase)[0]? = some "inside".toList →
    phrase = "inside" := by
  decide +kernel

/-- A phrase has a word for each place that it spans. -/
theorem Match.OccursIn.exists_word (h : m.OccursIn nodes) {i : Nat} (hi : i < m.length) :
    ∃ word, (phraseWords m.phrase)[i]? = some word := by
  rw [h.length_eq] at hi
  exact ⟨_, List.getElem?_eq_getElem hi⟩

/-- Within an occurrence of any other phrase nothing begins. The two would share a word, a later one
of the first phrase and the first one of the second. -/
theorem Match.OccursIn.start_not_within (h : m.OccursIn nodes) (hphrase : m.phrase ≠ "from inside")
    (h' : m'.OccursIn nodes) (hlt : m.start < m'.start) : m.stop ≤ m'.start := by
  by_contra hstop
  have hstop : m'.start < m.start + m.length := Nat.lt_of_not_le hstop
  obtain ⟨i, hi⟩ : ∃ i, m'.start = m.start + (i + 1) := ⟨m'.start - m.start - 1, by omega⟩
  obtain ⟨word, hword⟩ := h.exists_word (i := i + 1) (by omega)
  obtain ⟨first, hfirst⟩ := h'.exists_word h'.length_pos
  -- the word of the place is one of the tail of `m.phrase`
  have hagree := h.words_agree h' hword hfirst (by omega)
  rw [← hagree] at hfirst
  refine not_begun_within m.phrase h.known hphrase _ ?_ m'.phrase h'.known hfirst
  rw [← List.getElem?_tail] at hword
  exact List.mem_of_getElem? hword

/-- In all other lines what is found from the verb on is, but for a phrase that begins at the verb,
what is found behind it. -/
theorem behind_eq_of_found (h : Scans (.word verb :: args) 0 ms) (hother : ¬FromInside verb args) :
    ms.filter (1 ≤ ·.start) = behind args := by
  cases h with
  | ends nothing => exact absurd nothing (Nat.not_succ_le_zero _)
  | pass inside nothing rest =>
    rw [rest.filter_eq (Nat.le_refl 1)]
    exact rest.eq_behind
  | @take _ m ms occurs here longest rest =>
    have hphrase : m.phrase ≠ "from inside" := by
      intro hphrase
      have hlength := occurs.length_eq
      rw [hphrase] at hlength
      obtain ⟨phrase, start, length⟩ := m
      obtain rfl : phrase = "from inside" := hphrase
      obtain rfl : start = 0 := here
      obtain rfl : length = 2 := hlength
      -- the phrase would be that of the exception
      exact hother occurs
    have hpos := occurs.length_pos
    have hstop : m.stop ≤ (Node.word verb :: args).length := occurs.stop_le
    -- nothing begins at the words of the phrase, so the scan may as well begin behind the verb
    have hscan : Scans (.word verb :: args) 1 ms := by
      refine rest.pass_to m.stop ?_ hstop fun m' hm' hstart => ?_
      · show 1 ≤ m.start + m.length
        omega
      · exact occurs.start_not_within hphrase hm' (by omega)
    rw [List.filter_cons_of_neg (by simp [here]), hscan.filter_eq (Nat.le_refl 1)]
    exact hscan.eq_behind

/-- In the lines of the exception the `inside` is not found, and what else is found behind the verb
starts behind that word. -/
theorem swallowed_of_found (h : Scans (.word verb :: args) 0 ms) (hinside : FromInside verb args) :
    behind args = ⟨"inside", 1, 1⟩ :: ms.filter (1 ≤ ·.start) ∧
      ∀ m ∈ ms.filter (1 ≤ ·.start), 2 ≤ m.start := by
  cases h with
  | ends nothing => exact absurd nothing (Nat.not_succ_le_zero _)
  | pass inside nothing rest => exact absurd rfl (nothing _ hinside)
  | @take _ m ms occurs here longest rest =>
    have hlength : 2 ≤ m.length := longest _ hinside rfl
    -- the longest phrase at the verb is the one of two words
    obtain ⟨first, hfirst⟩ := occurs.exists_word (i := 0) (by omega)
    rw [occurs.length_eq] at hlength
    have hfrom := occurs.words_agree hinside hfirst (j := 0) rfl here
    rw [hfrom] at hfirst
    have hphrase := eq_fromInside m.phrase occurs.known hfirst hlength
    have hstop : m.stop = 2 := by
      show m.start + m.length = 2
      rw [here, occurs.length_eq, hphrase]
      rfl
    rw [hstop] at rest
    -- its second word is the only phrase that begins there
    have hoccurs : Match.OccursIn ⟨"inside", 1, 1⟩ (.word verb :: args) := by
      obtain ⟨text, htext, hsame⟩ := hinside.word_at (i := 1) rfl
      obtain ⟨hlt, hget⟩ := List.getElem?_eq_some_iff.1 htext
      refine ⟨by decide +kernel, rfl, hlt, ?_⟩
      show Spells ((args.drop 0).take 1) _
      cases args with
      | nil => exact absurd hlt (Nat.lt_irrefl 1)
      | cons n rest =>
        obtain rfl : n = .word text := hget
        exact .cons ⟨text, rfl, hsame⟩ .nil
    have honly : ∀ m' : Match, m'.OccursIn (.word verb :: args) → m'.start = 1 →
        m'.length ≤ 1 := by
      intro m' hm' hstart
      obtain ⟨first, hfirst⟩ := hm'.exists_word hm'.length_pos
      have hsecond := hm'.words_agree hoccurs hfirst (j := 0) rfl hstart
      rw [hsecond] at hfirst
      rw [hm'.length_eq, eq_inside m'.phrase hm'.known hfirst]
      exact Nat.le_refl 1
    have hscan : Scans (.word verb :: args) 1 (⟨"inside", 1, 1⟩ :: ms) :=
      .take hoccurs rfl honly rest
    rw [List.filter_cons_of_neg (by simp [here]), rest.filter_eq (by omega)]
    -- from behind the verb the scan takes the `inside`, and goes on where the other one does
    exact ⟨hscan.eq_behind.symm, rest.le_start⟩

/-- **What is found behind the verb** splits every line alike. The phrase right behind the verb is
missed in the lines of the exception only. -/
theorem found_behind (verb : String) (args : List Node) :
    splitter? (.word verb :: args) = splitterOf? (behind args) ∧
    (¬FromInside verb args → leadLength (.word verb :: args) = leadOf (behind args)) ∧
    (FromInside verb args →
      leadLength (.word verb :: args) = 0 ∧ leadOf (behind args) = 1 ∧
        ∀ m, splitterOf? (behind args) = some m → 2 ≤ m.start) := by
  have hscan := find_scans (.word verb :: args)
  unfold splitter? leadLength
  rw [← splitterOf?_filter, ← leadOf_filter]
  by_cases hinside : FromInside verb args
  · obtain ⟨hbehind, hstart⟩ := swallowed_of_found hscan hinside
    have hpairwise : ((find (.word verb :: args)).filter (1 ≤ ·.start)).Pairwise
        fun a b => a.stop ≤ b.start := (find_pairwise _).filter _
    have hoccur : ∀ m ∈ (find (.word verb :: args)).filter (1 ≤ ·.start), 0 < m.length :=
      fun m hm => (find_occurs (List.mem_of_mem_filter hm)).length_pos
    -- only the places count from here on, and not what is found
    rw [hbehind]
    generalize (find (.word verb :: args)).filter (1 ≤ ·.start) = found at hstart hpairwise hoccur ⊢
    obtain ⟨hlead, hsplitter⟩ := splitterOf?_of_lead (m := ⟨"inside", 1, 1⟩) Nat.zero_lt_one
      hstart rfl
    have hfound : leadOf found = 0 ∧ splitterOf? found = found.head? := by
      cases found with
      | nil => exact ⟨rfl, rfl⟩
      | cons m rest =>
        have hm := hstart m List.mem_cons_self
        exact splitterOf?_of_not_lead (hoccur m List.mem_cons_self)
          (List.pairwise_cons.1 hpairwise).1 (by omega) (by omega)
    rw [hlead, hsplitter, hfound.1, hfound.2]
    refine ⟨rfl, fun hother => absurd hinside hother, fun _ => ⟨rfl, rfl, fun m hm => ?_⟩⟩
    -- the phrase that splits is the first one found, as the verb has no lead
    exact hstart m (List.mem_of_head? hm)
  · rw [behind_eq_of_found hscan hinside]
    exact ⟨rfl, fun _ => rfl, fun h => absurd h hinside⟩

/-- The phrase right behind the verb is the longest one there. Any occurrence at this place is
covered by what the scan takes first. -/
theorem length_le_leadOf (h : m.OccursIn (n :: args)) (hstart : m.start = 1) :
    m.length ≤ leadOf (behind args) := by
  have hscan := scans_behind args
  have hm : m.OccursIn (.null :: args) := h.of_behind .null (by omega)
  obtain ⟨taken, htaken, hle, -⟩ := hscan.covers hm (by omega)
  -- what covers `m` starts where it does, since nothing that is taken starts before the place
  have hfirst : taken.start = 1 := by
    have := hscan.le_start taken htaken
    omega
  cases hfind : (behind args).find? (·.start = 1) with
  | none =>
    have hnone := List.find?_eq_none.1 hfind taken htaken
    simp [hfirst] at hnone
  | some lead =>
    have hlead : lead.start = 1 := by simpa using List.find?_some hfind
    unfold leadOf
    rw [hfind]
    exact hscan.longest (List.mem_of_find?_eq_some hfind) hm (hstart.trans hlead.symm)

end Preposition

open Preposition

/-! ### The parts of a call -/

/-- The direct object among the nodes behind a verb, by the length of the lead and the phrase that
splits the line. -/
def directNodes (args : List Node) (lead : Nat) : Option Match → List Node
  | some m => slice (lead, m.start - 1) args
  | none => args.drop lead

section Parts

variable {verb : String} {args : List Node}

/-- **The parts of a call** depend on its nodes, the lead and the splitting phrase. The verb itself
is not among the nodes, so it counts only by what is found with it. -/
theorem Verbcall.cut_parts (verb : String) (args : List Node) :
    (Verbcall.cut verb args).direct = nonEmpty?
      (directNodes args (leadLength (.word verb :: args)) (splitter? (.word verb :: args))) ∧
    (Verbcall.cut verb args).preposition
      = (splitter? (.word verb :: args)).map (·.phrase) ∧
    (Verbcall.cut verb args).indirect
      = (splitter? (.word verb :: args)).bind fun m => nonEmpty? (args.drop (m.stop - 1)) := by
  unfold Verbcall.cut
  cases hsplitter : splitter? (.word verb :: args) with
  | none => exact ⟨rfl, rfl, rfl⟩
  | some m =>
    have hbehind : leadOf (Preposition.find (.word verb :: args)) < m.start := by
      simpa using List.find?_some hsplitter
    -- behind the verb, the phrase stands one place before its place in the line
    obtain ⟨p, hp⟩ : ∃ p, m.start = p + 1 := ⟨m.start - 1, by omega⟩
    have hstop : m.stop = p + m.length + 1 := by
      show m.start + m.length = _
      omega
    refine ⟨?_, rfl, ?_⟩
    · unfold directNodes
      dsimp only
      rw [hp]
      rfl
    · show nonEmpty? ((Node.word verb :: args).drop m.stop) = nonEmpty? (args.drop (m.stop - 1))
      rw [hstop, List.drop_succ_cons, Nat.add_sub_cancel]

/-- A lead of no nodes leaves the first node in the direct object, which is what a lead of one node
takes from it. -/
theorem directNodes_zero {args : List Node} (hargs : args ≠ []) {splitter : Option Match}
    (hstart : ∀ m, splitter = some m → 2 ≤ m.start) :
    ∃ first, args.head? = some first ∧
      directNodes args 0 splitter = first :: directNodes args 1 splitter := by
  obtain ⟨first, rest, rfl⟩ := List.exists_cons_of_ne_nil hargs
  refine ⟨first, rfl, ?_⟩
  cases splitter with
  | none => rfl
  | some m =>
    obtain ⟨p, hp⟩ : ∃ p, m.start - 1 = p + 1 := by
      have := hstart m rfl
      exact ⟨m.start - 2, by omega⟩
    show slice (0, m.start - 1) (first :: rest) = first :: slice (1, m.start - 1) (first :: rest)
    rw [hp]
    rfl

/-- The direct object as it is if the phrase right behind the verb is found, which does not depend
on the verb. -/
def directBehind (args : List Node) : List Node :=
  directNodes args (leadOf (behind args)) (splitterOf? (behind args))

/-- In a line that is not of the exception, the phrase right behind the verb is left out of the
direct object. -/
theorem Verbcall.cut_direct_of_not (h : ¬FromInside verb args) :
    (Verbcall.cut verb args).direct = nonEmpty? (directBehind args) := by
  obtain ⟨hsplitter, hlead, -⟩ := found_behind verb args
  rw [(Verbcall.cut_parts verb args).1, hsplitter, hlead h]
  rfl

/-- In the lines of the exception the word `inside` is left in the direct object. The verb has
swallowed it as part of a phrase, which is then dropped because it begins at the verb. -/
theorem Verbcall.cut_direct_of_fromInside (h : FromInside verb args) :
    ∃ inside, args.head? = some inside ∧
      (Verbcall.cut verb args).direct = some (inside :: directBehind args) := by
  obtain ⟨hsplitter, -, hswallowed⟩ := found_behind verb args
  obtain ⟨hlead, hbehind, hstart⟩ := hswallowed h
  have hargs : args ≠ [] := by
    rintro rfl
    exact absurd h.stop_le (Nat.not_succ_le_self 1)
  obtain ⟨inside, hhead, hnodes⟩ := directNodes_zero hargs hstart
  refine ⟨inside, hhead, ?_⟩
  rw [(Verbcall.cut_parts verb args).1, hsplitter, hlead, hnodes, directBehind, hbehind]
  rfl

/-- The lead of a divided call is as long as the phrase right behind its verb. So the division of a
call says which words of the line belong to its verb. -/
theorem Verbcall.Divided.length_lead {c : Verbcall Node} {lead direct phrase indirect : List Node}
    (h : c.Divided lead direct phrase indirect) :
    lead.length = leadLength (.word c.verb :: c.params) := by
  have hmatch := h.lead_match
  unfold leadLength leadOf
  split at hmatch
  next m hfind =>
    rw [hfind]
    exact hmatch.1.symm
  next hfind =>
    rw [hfind, hmatch]
    rfl

end Parts

/-- A list with one more item is another list, also if the empty list stands for none. -/
theorem nonEmpty?_ne_cons {α : Type} (a : α) (items : List α) :
    nonEmpty? items ≠ some (a :: items) := by
  cases items with
  | nil => exact nofun
  | cons b rest =>
    intro h
    exact absurd (congrArg List.length (Option.some.inj h)) (Nat.ne_of_lt (Nat.lt_succ_self _))

theorem getD_nonEmpty? {α : Type} (items : List α) : (nonEmpty? items).getD [] = items := by
  cases items <;> rfl

/-- **The verb's name and the split of its line.** Two verbs with the same nodes behind them are
calls with the same params, the same preposition and the same indirect object. They have the same
direct object too, unless exactly one of the two lines begins with the phrase `from inside`; the
direct object of that line is then the other one with the word `inside` before it.

Of the nodes behind a verb, the direct object is what stands behind a lead. No phrase right behind
the verb is longer than the lead, unless the line begins with `from inside`, which has no lead. -/
theorem Verbcall.ofLine?_verbs (v w : String) (args : List Node) :
    ∃ c c' : Verbcall Node,
      Verbcall.ofLine? (.word v :: args) = some c ∧ Verbcall.ofLine? (.word w :: args) = some c' ∧
      c.params = c'.params ∧ c.preposition = c'.preposition ∧ c.indirect = c'.indirect ∧
      (c.direct = c'.direct ↔ (FromInside v args ↔ FromInside w args)) ∧
      (FromInside v args → ¬FromInside w args → ∃ inside, args.head? = some inside ∧
        c.direct = some (inside :: c'.direct.getD [])) ∧
      ∃ lead direct phrase indirect, c.Divided lead direct phrase indirect ∧
        (¬FromInside v args → ∀ m : Match, m.OccursIn (.word v :: args) → m.start = 1 →
          m.length ≤ lead.length) ∧
        (FromInside v args → lead = []) := by
  obtain ⟨-, hpreposition, hindirect⟩ := Verbcall.cut_parts v args
  obtain ⟨-, hpreposition', hindirect'⟩ := Verbcall.cut_parts w args
  obtain ⟨hsplitter, hlead, hswallowed⟩ := found_behind v args
  obtain ⟨hsplitter', -, -⟩ := found_behind w args
  rw [hsplitter] at hpreposition hindirect
  rw [hsplitter'] at hpreposition' hindirect'
  refine ⟨Verbcall.cut v args, Verbcall.cut w args, Verbcall.ofLine?_eq v args,
    Verbcall.ofLine?_eq w args, ?_, hpreposition.trans hpreposition'.symm,
    hindirect.trans hindirect'.symm, ?_, fun hv hw => ?_, ?_⟩
  · rw [Verbcall.cut_params, Verbcall.cut_params]
  · -- the direct objects agree if both lines or neither are of the exception, and in the other two
    -- cases one of them has an item more
    by_cases hv : FromInside v args <;> by_cases hw : FromInside w args
    · obtain ⟨inside, hhead, hdirect⟩ := Verbcall.cut_direct_of_fromInside hv
      obtain ⟨inside', hhead', hdirect'⟩ := Verbcall.cut_direct_of_fromInside hw
      obtain rfl : inside = inside' := Option.some.inj (hhead.symm.trans hhead')
      exact iff_of_true (hdirect.trans hdirect'.symm) (iff_of_true hv hw)
    · obtain ⟨inside, -, hdirect⟩ := Verbcall.cut_direct_of_fromInside hv
      rw [hdirect, Verbcall.cut_direct_of_not hw]
      exact iff_of_false (nonEmpty?_ne_cons _ _).symm fun h => hw (h.1 hv)
    · obtain ⟨inside, -, hdirect⟩ := Verbcall.cut_direct_of_fromInside hw
      rw [hdirect, Verbcall.cut_direct_of_not hv]
      exact iff_of_false (nonEmpty?_ne_cons _ _) fun h => hv (h.2 hw)
    · rw [Verbcall.cut_direct_of_not hv, Verbcall.cut_direct_of_not hw]
      exact iff_of_true rfl (iff_of_false hv hw)
  · obtain ⟨inside, hhead, hdirect⟩ := Verbcall.cut_direct_of_fromInside hv
    refine ⟨inside, hhead, ?_⟩
    rw [Verbcall.cut_direct_of_not hw, getD_nonEmpty?]
    exact hdirect
  · -- the lead is as long as the search says, in either case
    obtain ⟨lead, direct, phrase, indirect, hdivided⟩ := Verbcall.cut_divided v args
    have hlength := hdivided.length_lead
    rw [Verbcall.cut_verb, Verbcall.cut_params] at hlength
    refine ⟨lead, direct, phrase, indirect, hdivided, fun hv m hm hstart => ?_, fun hv => ?_⟩
    · rw [hlength, hlead hv]
      exact length_le_leadOf hm hstart
    · rw [(hswallowed hv).1] at hlength
      exact List.length_eq_zero_iff.1 hlength

/-- `inside` right behind the verb is left out of the direct object of `look`, but not of that of
`from`. -/
theorem Verbcall.fromInside_box :
    (Verbcall.ofLine? (["from", "inside", "box"].map Node.word)).bind Verbcall.direct
      = some (["inside", "box"].map Node.word) ∧
    (Verbcall.ofLine? (["look", "inside", "box"].map Node.word)).bind Verbcall.direct
      = some (["box"].map Node.word) := by
  constructor
  · -- three phrases occur, and the sort does not evaluate on more than one: the list is given to it
    have hsorted : [⟨"from inside", 0, 2⟩, ⟨"from", 0, 1⟩, ⟨"inside", 1, 1⟩].Pairwise
        fun a b : Match => a.precedes b = true := by decide
    have hperm : List.Perm [⟨"from inside", 0, 2⟩, ⟨"from", 0, 1⟩, ⟨"inside", 1, 1⟩]
        (occurrences (["from", "inside", "box"].map Node.word)) := by decide +kernel
    unfold Verbcall.ofLine?
    rw [find_eq_disjointFrom hsorted hperm]
    decide +kernel
  · decide +kernel

end VerbScript
