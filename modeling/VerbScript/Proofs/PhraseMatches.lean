import Mathlib.Data.List.Forall2
import VerbScript.Expr.Preposition

/-!
# The phrases found in a line

What `Preposition.find` lists are occurrences of known phrases, one behind the other.

* `Preposition.Spells` — nodes that are the words of a phrase, up to the case of ASCII letters.
* `Preposition.Match.OccursIn` — what it means that a phrase stands at its place in a line.
* `Preposition.find_occurs` — every match of a line occurs in it.
* `Preposition.find_pairwise` — every match ends before the next one starts.
-/

namespace VerbScript

/-- Small letters stay. The known phrases are in small letters, and a word is lowered before it is
compared with them. -/
theorem toLower_toLower (c : Char) : c.toLower.toLower = c.toLower := by
  unfold Char.toLower
  split
  next h =>
    -- a large letter that has been lowered is no large letter
    have hsmall : ¬ (c.val + ('a'.val - 'A'.val) ≥ 'A'.val ∧
        c.val + ('a'.val - 'A'.val) ≤ 'Z'.val) := by
      have hlow := UInt32.le_iff_toNat_le.1 h.1
      have hhigh := UInt32.le_iff_toNat_le.1 h.2
      have hA : 'A'.val.toNat = 65 := rfl
      have hZ : 'Z'.val.toNat = 90 := rfl
      have hshift : ('a'.val - 'A'.val).toNat = 32 := rfl
      simp only [ge_iff_le, UInt32.le_iff_toNat_le, UInt32.toNat_add]
      omega
    exact dif_neg hsmall
  next => rfl

/-- The same text up to the case of ASCII letters. Other letters are compared as they are. -/
def SameLetters (a b : List Char) : Prop := a.map Char.toLower = b.map Char.toLower

namespace Preposition

/-- The nodes are these words, up to the case of ASCII letters. There are as many nodes as words,
and strings in quotes are no words. -/
def Spells (nodes : List Node) (words : List (List Char)) : Prop :=
  List.Forall₂ (fun n word => ∃ text, n = .word text ∧ SameLetters text.toList word) nodes words

/-- **An occurrence in a line**: a known phrase whose words stand at the place of the match. It may
overlap other occurrences, and then not all of them are found. -/
structure Match.OccursIn (m : Match) (nodes : List Node) : Prop where
  known : m.phrase ∈ phrases
  length_eq : m.length = (phraseWords m.phrase).length
  stop_le : m.stop ≤ nodes.length
  spells : Spells ((nodes.drop m.start).take m.length) (phraseWords m.phrase)

/-- Every known phrase has a word. -/
theorem phraseWords_ne_nil : ∀ phrase ∈ phrases, phraseWords phrase ≠ [] := by
  decide +kernel

/-- So an occurrence is never empty. -/
theorem Match.OccursIn.length_pos {m : Match} {nodes : List Node} (h : m.OccursIn nodes) :
    0 < m.length := by
  rw [h.length_eq]
  exact List.length_pos_iff.2 (phraseWords_ne_nil m.phrase h.known)

/-! ### Occurrences -/

/-- A node that is spelled like a word is this word. No other node has a spelling, so a phrase is
never found across an object or a number. -/
theorem exists_word_of_spelling? {n : Node} {word : List Char} (h : spelling? n = some word) :
    ∃ text, n = .word text ∧ SameLetters text.toList word := by
  unfold spelling? at h
  obtain ⟨text, htext, hlower⟩ := Option.map_eq_some_iff.1 h
  cases n with
  | word text' =>
    cases htext
    refine ⟨text, rfl, ?_⟩
    -- the word has small letters only, so lowering it again changes nothing
    have hsmall : word.map Char.toLower = word := by
      rw [← hlower, List.map_map]
      exact List.map_congr_left fun c _ => toLower_toLower c
    show text.toList.map Char.toLower = word.map Char.toLower
    rw [hsmall, hlower]
  | _ => cases htext

/-- Where the comparison of the search succeeds, the nodes spell the words. The induction is on the
words, each of which takes one node. -/
theorem spells_of_beginsWith {words : List (List Char)} {nodes : List Node}
    (h : beginsWith words (nodes.map spelling?) = true) :
    words.length ≤ nodes.length ∧ Spells (nodes.take words.length) words := by
  induction words generalizing nodes with
  | nil => exact ⟨Nat.zero_le _, .nil⟩
  | cons word words ih =>
    cases nodes with
    | nil => cases h
    | cons n nodes =>
      have hboth : (spelling? n == some word && beginsWith words (nodes.map spelling?)) = true := h
      obtain ⟨hfirst, hrest⟩ := (Bool.and_eq_true _ _).mp hboth
      obtain ⟨hlength, hspells⟩ := ih hrest
      have hword := exists_word_of_spelling? (beq_iff_eq.1 hfirst)
      -- the first node is the first word, and the rest are the others
      exact ⟨Nat.succ_le_succ hlength, .cons hword hspells⟩

/-- A place that is collected is one at which the comparison succeeds. The places are counted from
`start`. -/
theorem beginsWith_of_mem_places {words : List (List Char)} {start k : Nat} {nodes : List Node}
    (h : k ∈ places words start (nodes.map spelling?)) :
    ∃ i, k = start + i ∧ i ≤ nodes.length ∧
      beginsWith words ((nodes.drop i).map spelling?) = true := by
  induction nodes generalizing start with
  | nil => exact absurd h List.not_mem_nil
  | cons n nodes ih =>
    -- a place behind the first node is a place of the rest of the line
    have hlater : k ∈ places words (start + 1) (nodes.map spelling?) →
        ∃ i, k = start + i ∧ i ≤ (n :: nodes).length ∧
          beginsWith words (((n :: nodes).drop i).map spelling?) = true := by
      intro hk
      obtain ⟨i, rfl, hi, hbegins⟩ := ih hk
      exact ⟨i + 1, by omega, Nat.succ_le_succ hi, hbegins⟩
    rw [List.map_cons, places] at h
    split at h
    next hbegins =>
      rcases List.mem_cons.1 h with rfl | hrest
      · exact ⟨0, rfl, Nat.zero_le _, hbegins⟩
      · exact hlater hrest
    next => exact hlater h

/-- Whatever is listed occurs. What is listed comes from a known phrase and a place at which the
words of the phrase have been compared with the nodes. -/
theorem occurs_of_mem_occurrences {m : Match} {nodes : List Node} (h : m ∈ occurrences nodes) :
    m.OccursIn nodes := by
  unfold occurrences at h
  obtain ⟨⟨phrase, words⟩, hlexicon, hplaces⟩ := List.mem_flatMap.1 h
  obtain ⟨start, hstart, rfl⟩ := List.mem_map.1 hplaces
  obtain ⟨known, hknown, heq⟩ := List.mem_map.1 hlexicon
  -- the words that are searched for are those of a known phrase
  obtain ⟨rfl, rfl⟩ := Prod.mk.inj heq
  obtain ⟨i, rfl, hi, hbegins⟩ := beginsWith_of_mem_places hstart
  obtain ⟨hlength, hspells⟩ := spells_of_beginsWith hbegins
  rw [List.length_drop] at hlength
  rw [Nat.zero_add]
  refine ⟨hknown, rfl, ?_, hspells⟩
  show i + (phraseWords known).length ≤ nodes.length
  omega

/-! ### The matches that count -/

/-- Matches that overlap an earlier one are dropped, and nothing else is done to the list. -/
theorem disjointFrom_sublist (reached : Nat) (ms : List Match) :
    (disjointFrom reached ms).Sublist ms := by
  fun_induction disjointFrom reached ms with
  | case1 => exact .slnil
  | case2 reached m rest _ ih => exact ih.cons m
  | case3 reached m rest _ ih => exact ih.cons_cons m

/-- What is kept starts where the earlier matches have ended. A match that starts before this place
overlaps with one of those, and it is passed over. -/
theorem le_start_of_mem_disjointFrom {reached : Nat} {ms : List Match} {m : Match}
    (h : m ∈ disjointFrom reached ms) : reached ≤ m.start := by
  fun_induction disjointFrom reached ms with
  | case1 => exact absurd h List.not_mem_nil
  | case2 reached m' rest _ ih => exact ih h
  | case3 reached m' rest hreached ih =>
    rcases List.mem_cons.1 h with rfl | hrest
    · exact Nat.le_of_not_lt hreached
    · -- behind `m'` only what starts behind its last word is kept
      have hstop : m'.start + m'.length ≤ m.start := ih hrest
      omega

/-- What is kept does not overlap, in whatever order the matches were. -/
theorem disjointFrom_pairwise (reached : Nat) (ms : List Match) :
    (disjointFrom reached ms).Pairwise fun a b => a.stop ≤ b.start := by
  fun_induction disjointFrom reached ms with
  | case1 => exact .nil
  | case2 reached m rest _ ih => exact ih
  | case3 reached m rest _ ih => exact .cons (fun _ hrest => le_start_of_mem_disjointFrom hrest) ih

/-- **Every match occurs in the line.** Sorting and dropping add nothing to the occurrences that
were collected. -/
theorem find_occurs {m : Match} {nodes : List Node} (h : m ∈ find nodes) : m.OccursIn nodes :=
  occurs_of_mem_occurrences (List.mem_mergeSort.1 ((disjointFrom_sublist 0 _).mem h))

/-- **Matches do not overlap**: every one ends before the next one starts. In particular they are in
the order of the line. -/
theorem find_pairwise (nodes : List Node) :
    (find nodes).Pairwise fun a b => a.stop ≤ b.start :=
  disjointFrom_pairwise 0 _

end Preposition

end VerbScript
