import VerbScript.Machine.Evaluation
import VerbScript.Proofs.PhraseMatches
import VerbScript.Proofs.PlanLaws

/-!
# Verb lines

A verb line is cut at the phrases found in it, and its evaluation finds the objects again by
counting nodes from the end. Both know the same four parts of what follows the verb: the phrase
right behind the verb, the direct object, the phrase that splits the line, and the indirect object.

* `Verbcall.cut`, `Verbcall.ofLine?_eq` — which phrases the cutting looks at.
* `Verbcall.Divided` — the four parts of a call, of which none is lost.
* `Verbcall.cut_divided` — the call that a line is cut into is divided so.
* `Verbcall.Divided.directRange?_eq`, `Verbcall.Divided.indirectRange?_eq` — the places of the
  objects.
* `Verbcall.Divided.plan_eq` — a call resolves each of its parts once, from left to right, and sends
  what its objects are reduced to.
* `Verbcall.ofLine?_lossless` — all of this together.
-/

namespace VerbScript

/-! ### Pieces of a list -/

section Slices

variable {α : Type}

/-- What follows a place is what lies up to a later place, and what follows that. -/
theorem drop_eq_slice_append {a b : Nat} (h : a ≤ b) (items : List α) :
    items.drop a = slice (a, b) items ++ items.drop b := by
  have hrest : items.drop b = (items.drop a).drop (b - a) := by
    rw [List.drop_drop, Nat.add_sub_cancel' h]
  show items.drop a = (items.take b).drop a ++ items.drop b
  rw [List.drop_take, hrest]
  exact (List.take_append_drop (b - a) (items.drop a)).symm

/-- A slice that does not reach beyond the list is as long as its places are apart. -/
theorem length_slice {a b : Nat} {items : List α} (h : b ≤ items.length) :
    (slice (a, b) items).length = b - a := by
  show ((items.take b).drop a).length = b - a
  rw [List.length_drop, List.length_take, Nat.min_eq_left h]

/-- The middle one of three pieces. -/
theorem slice_append (before middle after : List α) {a b : Nat} (ha : a = before.length)
    (hb : b = before.length + middle.length) :
    slice (a, b) (before ++ middle ++ after) = middle := by
  subst ha hb
  show ((before ++ middle ++ after).take _).drop _ = middle
  rw [← List.length_append, List.take_left, List.drop_left]

/-- An object that is absent counts as one without nodes. -/
theorem length_nonEmpty? (items : List α) :
    ((nonEmpty? items).map List.length).getD 0 = items.length := by
  cases items <;> rfl

end Slices

/-! ### Cutting a line -/

/-- How many nodes the phrase right behind the verb spans, of some phrases. It is zero if none of
them stands there. -/
def leadOf (found : List Preposition.Match) : Nat :=
  (found.find? (·.start = 1)).elim 0 (·.length)

/-- The first phrase behind the verb and the phrase right behind it, of some phrases. A phrase that
begins within the lead does not count. -/
def splitterOf? (found : List Preposition.Match) : Option Preposition.Match :=
  found.find? (leadOf found < ·.start)

/-- A phrase that is looked for behind the verb is looked for among those behind the verb. Matches
are filtered before they are searched; without the filter the search is easier to reason about. -/
theorem find?_filter_start (found : List Preposition.Match) (p : Preposition.Match → Bool)
    (h : ∀ m, p m = true → 1 ≤ m.start) :
    (found.filter (1 ≤ ·.start)).find? p = found.find? p := by
  rw [List.find?_filter]
  congr 1
  funext m
  -- a match that the search would accept is behind the verb, so the filter has kept it
  cases hp : p m with
  | false => simp
  | true => simp [h m hp]

/-- The verb itself is never part of a phrase that counts, so leaving out what begins at it changes
neither the lead nor the splitter. -/
theorem leadOf_filter (found : List Preposition.Match) :
    leadOf (found.filter (1 ≤ ·.start)) = leadOf found := by
  unfold leadOf
  rw [find?_filter_start found _ fun m hm => Nat.le_of_eq (of_decide_eq_true hm).symm]

theorem splitterOf?_filter (found : List Preposition.Match) :
    splitterOf? (found.filter (1 ≤ ·.start)) = splitterOf? found := by
  unfold splitterOf?
  rw [leadOf_filter, find?_filter_start found _ fun m hm => ?_]
  exact Nat.lt_of_le_of_lt (Nat.zero_le _) (of_decide_eq_true hm)

section Behind

variable {m : Preposition.Match} {rest : List Preposition.Match}

/-- A phrase right behind the verb is the lead, and the next one splits the line. There may be no
next one; then nothing splits it. -/
theorem splitterOf?_of_lead (hlength : 0 < m.length) (hafter : ∀ m' ∈ rest, m.stop ≤ m'.start)
    (hfirst : m.start = 1) :
    leadOf (m :: rest) = m.length ∧ splitterOf? (m :: rest) = rest.head? := by
  have hlead : leadOf (m :: rest) = m.length := by
    simp [leadOf, hfirst]
  refine ⟨hlead, ?_⟩
  -- the lead begins at the first place, and it is at least one word long
  have hskip : ¬ leadOf (m :: rest) < m.start := by omega
  rw [splitterOf?, List.find?_cons_of_neg (by simpa using hskip)]
  -- what comes next begins behind the last word of the lead
  cases rest with
  | nil => rfl
  | cons m' rest' =>
    have hstop : m.start + m.length ≤ m'.start := hafter m' List.mem_cons_self
    have hnext : leadOf (m :: m' :: rest') < m'.start := by omega
    rw [List.find?_cons_of_pos (by simpa using hnext)]
    rfl

/-- If no phrase stands right behind the verb, the first one splits the line. The lead has no words
then. -/
theorem splitterOf?_of_not_lead (hlength : 0 < m.length) (hafter : ∀ m' ∈ rest, m.stop ≤ m'.start)
    (hstart : 1 ≤ m.start) (hfirst : m.start ≠ 1) :
    leadOf (m :: rest) = 0 ∧ splitterOf? (m :: rest) = some m := by
  -- the first match does not begin right behind the verb, and later ones begin later
  have hnone : (m :: rest).find? (·.start = 1) = none := by
    rw [List.find?_eq_none]
    intro m' hm'
    have hne : m'.start ≠ 1 := by
      rcases List.mem_cons.1 hm' with rfl | hlater
      · exact hfirst
      · have hstop : m.start + m.length ≤ m'.start := hafter m' hlater
        omega
    simpa using hne
  have hlead : leadOf (m :: rest) = 0 := by
    rw [leadOf, hnone]
    rfl
  refine ⟨hlead, ?_⟩
  have hreached : leadOf (m :: rest) < m.start := by omega
  exact List.find?_cons_of_pos (by simpa using hreached)

end Behind

/-- How many nodes the phrase right behind the verb spans. The phrases are those that are found in
the line, the verb included. -/
def leadLength (line : List Node) : Nat := leadOf (Preposition.find line)

/-- The phrase that splits a line. Only the first one does; the phrases behind it are left in the
indirect object as words. -/
def splitter? (line : List Node) : Option Preposition.Match := splitterOf? (Preposition.find line)

/-- The call that a verb and what follows it are cut into. It says in terms of the two phrases what
the reader of lines does step by step. -/
def Verbcall.cut (verb : String) (args : List Node) : Verbcall Node :=
  match splitter? (.word verb :: args) with
  | some m =>
    { verb
      direct := nonEmpty?
        (slice (leadLength (.word verb :: args) + 1, m.start) (.word verb :: args))
      preposition := some m.phrase
      indirect := nonEmpty? ((Node.word verb :: args).drop m.stop)
      params := args }
  | none =>
    { verb
      direct := nonEmpty? ((Node.word verb :: args).drop (leadLength (.word verb :: args) + 1))
      preposition := none
      indirect := none
      params := args }

/-- The verb is the first word, and everything behind it is kept as params. -/
theorem Verbcall.cut_verb (verb : String) (args : List Node) :
    (Verbcall.cut verb args).verb = verb := by
  unfold cut
  split <;> rfl

theorem Verbcall.cut_params (verb : String) (args : List Node) :
    (Verbcall.cut verb args).params = args := by
  unfold cut
  split <;> rfl

/-- **A line that begins with a word is a call.** It is split at `splitter?`, or not at all. So the
result is never missing, and what it is can be read off `Verbcall.cut`. -/
theorem Verbcall.ofLine?_eq (verb : String) (args : List Node) :
    Verbcall.ofLine? (.word verb :: args) = some (Verbcall.cut verb args) := by
  have hpairwise : ((Preposition.find (.word verb :: args)).filter (1 ≤ ·.start)).Pairwise
      fun a b => a.stop ≤ b.start := (Preposition.find_pairwise _).filter _
  have hfound : ∀ m ∈ (Preposition.find (.word verb :: args)).filter (1 ≤ ·.start),
      1 ≤ m.start ∧ 0 < m.length := by
    intro m hm
    obtain ⟨hmem, hstart⟩ := List.mem_filter.1 hm
    exact ⟨of_decide_eq_true hstart, (Preposition.find_occurs hmem).length_pos⟩
  unfold cut leadLength splitter? Verbcall.ofLine?
  rw [← leadOf_filter, ← splitterOf?_filter]
  -- all that is used of the matches is that they are in order, apart and behind the verb
  generalize (Preposition.find (.word verb :: args)).filter (1 ≤ ·.start) = found at *
  cases found with
  | nil => rfl
  | cons m rest =>
    obtain ⟨hafter, -⟩ := List.pairwise_cons.1 hpairwise
    obtain ⟨⟨hstart, hlength⟩, -⟩ := List.forall_mem_cons.1 hfound
    -- the reader drops a match right behind the verb before it looks for a splitter
    by_cases hfirst : m.start = 1
    · obtain ⟨hlead, hsplitter⟩ := splitterOf?_of_lead hlength hafter hfirst
      have hstop : m.length + 1 = m.stop := by
        rw [Nat.add_comm, ← hfirst]
        rfl
      rw [hlead, hsplitter, hstop]
      simp only [hfirst, if_true]
      cases rest with
      | nil => rfl
      | cons m' rest' => rfl
    · obtain ⟨hlead, hsplitter⟩ := splitterOf?_of_not_lead hlength hafter hstart hfirst
      rw [hlead, hsplitter]
      simp only [hfirst, if_false]
      rfl

/-! ### The parts of a call -/

/-- **The parts of a call**: what follows the verb is the phrase right behind it, the direct object,
the phrase that splits the line, and the indirect object. -/
structure Verbcall.Divided (c : Verbcall Node) (lead direct phrase indirect : List Node) :
    Prop where
  /-- Nothing is lost. -/
  params_eq : c.params = lead ++ direct ++ phrase ++ indirect
  /-- An object is there exactly if it has nodes. -/
  direct_eq : c.direct = nonEmpty? direct
  indirect_eq : c.indirect = nonEmpty? indirect
  /-- The lead is the match at the first place behind the verb, if there is one. -/
  lead_match : match (Preposition.find (.word c.verb :: c.params)).find? (·.start = 1) with
    | some m => m.length = lead.length ∧ Preposition.Spells lead (Preposition.phraseWords m.phrase)
    | none => lead = []
  /-- The splitting phrase is the next match behind the verb and the lead, if there is one. The
  places of the match are those of the phrase among the params, so no piece reaches beyond the
  line. -/
  phrase_match : match (Preposition.find (.word c.verb :: c.params)).find?
      (lead.length < ·.start) with
    | some m => c.preposition = some m.phrase ∧ m.start = lead.length + direct.length + 1 ∧
        m.length = phrase.length ∧ phrase ≠ [] ∧
        Preposition.Spells phrase (Preposition.phraseWords m.phrase)
    | none => c.preposition = none ∧ phrase = [] ∧ indirect = []

section Cut

variable {verb : String} {args : List Node}

/-- The nodes of the phrase right behind the verb. Without such a phrase there are none. They are as
many as the words of the phrase. -/
theorem exists_lead (verb : String) (args : List Node) :
    ∃ lead : List Node, lead.length = leadLength (.word verb :: args) ∧
      args = lead ++ args.drop (leadLength (.word verb :: args)) ∧
      match (Preposition.find (.word verb :: args)).find? (·.start = 1) with
      | some m =>
        m.length = lead.length ∧ Preposition.Spells lead (Preposition.phraseWords m.phrase)
      | none => lead = [] := by
  unfold leadLength leadOf
  cases hfind : (Preposition.find (.word verb :: args)).find? (·.start = 1) with
  | none => exact ⟨[], rfl, rfl, rfl⟩
  | some m =>
    have hoccurs := Preposition.find_occurs (List.mem_of_find?_eq_some hfind)
    -- what the search has accepted begins at the first place behind the verb
    have hstart : m.start = 1 := by simpa using List.find?_some hfind
    have hstop : m.start + m.length ≤ args.length + 1 := hoccurs.stop_le
    have hspells : Preposition.Spells (args.take m.length) (Preposition.phraseWords m.phrase) := by
      have hspells := hoccurs.spells
      rwa [hstart] at hspells
    have hlength : (args.take m.length).length = m.length := by
      rw [List.length_take]
      omega
    exact ⟨args.take m.length, hlength, (List.take_append_drop _ _).symm, hlength.symm, hspells⟩

/-- What the splitting phrase divides the nodes behind the lead into. The pieces are given as lists,
and their places in the line follow from their lengths. -/
theorem exists_split {m : Preposition.Match} (h : splitter? (.word verb :: args) = some m) :
    ∃ direct phrase indirect : List Node,
      args.drop (leadLength (.word verb :: args)) = direct ++ phrase ++ indirect ∧
      slice (leadLength (.word verb :: args) + 1, m.start) (.word verb :: args) = direct ∧
      (Node.word verb :: args).drop m.stop = indirect ∧
      m.start = leadLength (.word verb :: args) + direct.length + 1 ∧
      m.length = phrase.length ∧ phrase ≠ [] ∧
      Preposition.Spells phrase (Preposition.phraseWords m.phrase) := by
  have hoccurs := Preposition.find_occurs (List.mem_of_find?_eq_some h)
  have hbehind : leadOf (Preposition.find (.word verb :: args)) < m.start := by
    simpa using List.find?_some h
  have hstop : m.start + m.length ≤ args.length + 1 := hoccurs.stop_le
  have hpositive := hoccurs.length_pos
  have hspells := hoccurs.spells
  -- behind the verb, the phrase stands one place before its place in the line
  obtain ⟨p, hp⟩ : ∃ p, m.start = p + 1 := ⟨m.start - 1, by omega⟩
  have hle : leadLength (.word verb :: args) ≤ p := by
    unfold leadLength
    omega
  have hdirect : (slice (leadLength (.word verb :: args), p) args).length
      = p - leadLength (.word verb :: args) := length_slice (by omega)
  have hphrase : (slice (p, p + m.length) args).length = m.length := by
    rw [length_slice (by omega), Nat.add_sub_cancel_left]
  rw [hp, List.drop_succ_cons, List.take_drop] at hspells
  refine ⟨slice (leadLength (.word verb :: args), p) args, slice (p, p + m.length) args,
    args.drop (p + m.length), ?_, ?_, ?_, ?_, hphrase.symm, ?_, hspells⟩
  · -- the three pieces follow one another without a gap
    rw [List.append_assoc, ← drop_eq_slice_append (Nat.le_add_right p m.length)]
    exact drop_eq_slice_append hle args
  · rw [hp]
    rfl
  · show (Node.word verb :: args).drop (m.start + m.length) = _
    rw [hp, Nat.add_right_comm]
    rfl
  · omega
  · -- a phrase has at least one word
    intro hnil
    rw [hnil] at hphrase
    exact absurd hphrase.symm (Nat.ne_of_gt hpositive)

/-- **A cut loses nothing.** The four parts are those of the two searches, and put together they are
what follows the verb. -/
theorem Verbcall.cut_divided (verb : String) (args : List Node) :
    ∃ lead direct phrase indirect,
      (Verbcall.cut verb args).Divided lead direct phrase indirect := by
  obtain ⟨lead, hlength, hwhole, hlead⟩ := exists_lead verb args
  unfold cut
  cases hsplitter : splitter? (.word verb :: args) with
  | none =>
    refine ⟨lead, args.drop (leadLength (.word verb :: args)), [], [], ?_, rfl, rfl, hlead, ?_⟩
    · rw [List.append_nil, List.append_nil]
      exact hwhole
    · have hnone : (Preposition.find (.word verb :: args)).find? (lead.length < ·.start)
          = none := by
        rw [hlength]
        exact hsplitter
      dsimp only
      rw [hnone]
      exact ⟨rfl, rfl, rfl⟩
  | some m =>
    obtain ⟨direct, phrase, indirect, hrest, hdirect, hindirect, hstart, hspan, hne, hspells⟩ :=
      exists_split hsplitter
    refine ⟨lead, direct, phrase, indirect, ?_, ?_, ?_, hlead, ?_⟩
    · rw [List.append_assoc, List.append_assoc, ← List.append_assoc direct, ← hrest]
      exact hwhole
    · rw [← hdirect]
    · rw [← hindirect]
    · have hsome : (Preposition.find (.word verb :: args)).find? (lead.length < ·.start)
          = some m := by
        rw [hlength]
        exact hsplitter
      dsimp only
      rw [hsome, hlength]
      exact ⟨rfl, hstart, hspan, hne, hspells⟩

end Cut

/-! ### Finding the objects again -/

/-- A place that is there exactly if an object is, lies in the params and holds the object. It is
what evaluation relies on when it looks for the value of an object among the operands. -/
def Locates (params : List Node) : Option (Nat × Nat) → Option (List Node) → Prop
  | some (start, stop), some object =>
    start ≤ stop ∧ stop ≤ params.length ∧ slice (start, stop) params = object
  | none, none => True
  | _, _ => False

namespace Verbcall.Divided

variable {c : Verbcall Node} {lead direct phrase indirect : List Node}

/-- The words of the splitting phrase are as many as its nodes. So the phrase tells how many of the
parameters stand between the two objects, though the call keeps only its text. -/
theorem phraseLength (h : c.Divided lead direct phrase indirect) :
    (c.preposition.map fun p => (Text.words p.toList).length).getD 0 = phrase.length := by
  have hphrase := h.phrase_match
  split at hphrase
  · -- a phrase that is spelled by nodes has a word for each of them
    obtain ⟨hpreposition, -, -, -, hspells⟩ := hphrase
    rw [hpreposition]
    exact hspells.length_eq.symm
  · obtain ⟨hpreposition, rfl, -⟩ := hphrase
    rw [hpreposition]
    rfl

/-- The parts are all there is. -/
theorem length_params (h : c.Divided lead direct phrase indirect) :
    c.params.length = lead.length + direct.length + phrase.length + indirect.length := by
  rw [h.params_eq]
  simp only [List.length_append]

/-- **Where the direct object stands**: behind the lead. Evaluation finds it by counting back from
the end over the indirect object and the words of the phrase. -/
theorem directRange?_eq (h : c.Divided lead direct phrase indirect) :
    c.directRange? = c.direct.map fun _ => (lead.length, lead.length + direct.length) := by
  -- what stands behind the direct object
  have htail : (c.indirect.map List.length).getD 0
      + (c.preposition.map fun p => (Text.words p.toList).length).getD 0
        = indirect.length + phrase.length := by
    rw [h.phraseLength, h.indirect_eq, length_nonEmpty?]
  have hstop : minus? c.params.length (indirect.length + phrase.length)
      = some (lead.length + direct.length) := by
    have hlength := h.length_params
    rw [minus?, if_pos (by omega)]
    congr 1
    omega
  have hstart : minus? (lead.length + direct.length) direct.length = some lead.length := by
    rw [minus?, if_pos (Nat.le_add_left _ _), Nat.add_sub_cancel]
  unfold directRange?
  dsimp only
  rw [htail, hstop, h.direct_eq]
  cases direct with
  | nil => rfl
  | cons n rest =>
    show (minus? (lead.length + (n :: rest).length) (n :: rest).length).bind _ = _
    rw [hstart]
    rfl

/-- **Where the indirect object stands**: at the end, as many nodes as it has. Evaluation counts
these back from the end of the params. -/
theorem indirectRange?_eq (h : c.Divided lead direct phrase indirect) :
    c.indirectRange? = c.indirect.map fun _ =>
      (lead.length + direct.length + phrase.length, c.params.length) := by
  have hstart : minus? c.params.length indirect.length
      = some (lead.length + direct.length + phrase.length) := by
    have hlength := h.length_params
    rw [minus?, if_pos (by omega)]
    congr 1
    omega
  unfold indirectRange?
  rw [h.indirect_eq]
  cases indirect with
  | nil => rfl
  | cons n rest =>
    show (minus? c.params.length (n :: rest).length).bind _ = _
    rw [hstart]
    rfl

/-- What stands at the place of the direct object in a list divided as the params are. -/
theorem slice_direct {α : Type} {l d p i : List α} (hl : l.length = lead.length)
    (hd : d.length = direct.length) :
    slice (lead.length, lead.length + direct.length) (l ++ d ++ p ++ i) = d := by
  rw [List.append_assoc]
  exact slice_append l d (p ++ i) hl.symm (by rw [hl, hd])

/-- The same of the indirect object, which is the last of the four. The lists may be those of the
nodes or of the operands they are resolved to, as only the lengths count. -/
theorem slice_indirect {α : Type} {l d p i : List α} (h : c.Divided lead direct phrase indirect)
    (hl : l.length = lead.length) (hd : d.length = direct.length) (hp : p.length = phrase.length)
    (hi : i.length = indirect.length) :
    slice (lead.length + direct.length + phrase.length, c.params.length) (l ++ d ++ p ++ i)
      = i := by
  have hpieces : l ++ d ++ p ++ i = (l ++ d ++ p) ++ i ++ [] := (List.append_nil _).symm
  rw [hpieces]
  refine slice_append (l ++ d ++ p) i [] ?_ ?_
  · simp only [List.length_append]
    omega
  · rw [h.length_params]
    simp only [List.length_append]
    omega

/-- So the direct object is found where it stands, and the indirect one too. If the direct object is
missing, there is no place to be found. -/
theorem locates_direct (h : c.Divided lead direct phrase indirect) :
    Locates c.params c.directRange? c.direct := by
  have hlength := h.length_params
  have hslice : slice (lead.length, lead.length + direct.length) c.params = direct := by
    rw [h.params_eq]
    exact slice_direct rfl rfl
  rw [h.directRange?_eq, h.direct_eq]
  cases direct with
  | nil => trivial
  | cons n rest => exact ⟨Nat.le_add_right _ _, by omega, hslice⟩

theorem locates_indirect (h : c.Divided lead direct phrase indirect) :
    Locates c.params c.indirectRange? c.indirect := by
  have hlength := h.length_params
  have hslice := h.slice_indirect rfl rfl rfl rfl
  rw [← h.params_eq] at hslice
  rw [h.indirectRange?_eq, h.indirect_eq]
  cases indirect with
  | nil => trivial
  | cons n rest => exact ⟨by omega, Nat.le_refl _, hslice⟩

end Verbcall.Divided

/-! ### Evaluating a call -/

/-- The value of an object whose nodes are resolved: none if there is no object, and otherwise what
its operands are reduced to. -/
def objectValue (operands : List Operand) : Option (List Node) → Except Fault (Option Value)
  | none => .ok none
  | some object => (reduce operands (Expr.numberFirst object)).map some

/-- The request of a call whose parts are resolved. Unlike `callRequest` it is given the parts
separately, and no place has to be computed. -/
def partsRequest (owner : ObjectId) (c : Verbcall Node)
    (lead direct phrase indirect : List Operand) : Except Fault Request := do
  let directValue ← objectValue direct c.direct
  let indirectValue ← objectValue indirect c.indirect
  return .call owner {
    verb := c.verb
    direct := directValue
    preposition := c.preposition
    indirect := indirectValue
    params := List.zipWith paramValue c.params (lead ++ direct ++ phrase ++ indirect)
    caller := owner }

/-- An object that stands at a place of the params has the value of what stands there among the
operands. -/
theorem callObject_eq {params : List Node} {operands part : List Operand} {range : Nat × Nat}
    {object : Option (List Node)} (hlocates : Locates params (object.map fun _ => range) object)
    (hpart : slice range operands = part) :
    callObject params operands (object.map fun _ => range) = objectValue part object := by
  cases object with
  | none => rfl
  | some nodes =>
    obtain ⟨-, -, hnodes⟩ := hlocates
    rw [Option.map_some, callObject, objectValue, hpart, hnodes]

/-- Nodes are resolved one after another, so those of two lists in a row are resolved in a row. This
carries the four pieces of a line over to its operands. -/
theorem resolveOperands_append (s : Scope) (a b : List Node) :
    resolveOperands s (a ++ b) = (resolveOperands s a).bind fun x =>
      (resolveOperands s b).bind fun y => .done (x ++ y) := by
  induction a with
  | nil => exact (Plan.bind_done (resolveOperands s b)).symm
  | cons n a ih =>
    rw [List.cons_append, resolveOperands, resolveOperands]
    -- an operator asks nothing, any other node may ask requests before the rest does
    split
    next op hop =>
      rw [ih]
      simp only [Plan.bind_eq, Plan.pure_eq, Plan.bind_assoc, Plan.done_bind, List.cons_append]
    next hop =>
      rw [ih]
      simp only [Plan.bind_eq, Plan.pure_eq, Plan.bind_assoc, Plan.done_bind, List.cons_append]

/-- Every node has its operand, whatever is answered. The places of the objects among the nodes are
therefore their places among the operands. -/
theorem resolveOperands_length (s : Scope) (nodes : List Node) :
    (resolveOperands s nodes).Gives fun operands => operands.length = nodes.length := by
  induction nodes with
  | nil => exact rfl
  | cons n nodes ih =>
    rw [resolveOperands]
    split
    next op hop => exact ih.bind fun operands hlength => congrArg (· + 1) hlength
    next hop =>
      have hany : (n.resolve s).Gives fun _ => True := Plan.gives_true _
      exact hany.bind fun v _ => ih.bind fun operands hlength => congrArg (· + 1) hlength

namespace Verbcall.Divided

variable {c : Verbcall Node} {lead direct phrase indirect : List Node}

/-- **The request of a call** carries what the nodes of its objects are reduced to. Only the lengths
of the four lists of operands matter. -/
theorem callRequest_eq (h : c.Divided lead direct phrase indirect) (owner : ObjectId)
    {l d p i : List Operand} (hl : l.length = lead.length) (hd : d.length = direct.length)
    (hp : p.length = phrase.length) (hi : i.length = indirect.length) :
    callRequest owner c (l ++ d ++ p ++ i) = partsRequest owner c l d p i := by
  have hdirect : callObject c.params (l ++ d ++ p ++ i) c.directRange?
      = objectValue d c.direct := by
    have hlocates := h.locates_direct
    rw [h.directRange?_eq] at hlocates ⊢
    exact callObject_eq hlocates (slice_direct hl hd)
  have hindirect : callObject c.params (l ++ d ++ p ++ i) c.indirectRange?
      = objectValue i c.indirect := by
    have hlocates := h.locates_indirect
    rw [h.indirectRange?_eq] at hlocates ⊢
    exact callObject_eq hlocates (h.slice_indirect hl hd hp hi)
  rw [callRequest, partsRequest, hdirect, hindirect]

/-- **Evaluating a call** resolves its parts from left to right, each node once. The words of a
phrase are among them, though nothing is made of their values. -/
theorem plan_eq (h : c.Divided lead direct phrase indirect) (s : Scope) :
    c.plan s =
      (resolveOperands s lead).bind fun l =>
      (resolveOperands s direct).bind fun d =>
      (resolveOperands s phrase).bind fun p =>
      (resolveOperands s indirect).bind fun i =>
      (Plan.ofExcept (partsRequest s.owner c l d p i)).bind Plan.request := by
  -- resolving the params is resolving the parts in their order
  have hparts : resolveOperands s c.params =
      (resolveOperands s lead).bind fun l => (resolveOperands s direct).bind fun d =>
        (resolveOperands s phrase).bind fun p => (resolveOperands s indirect).bind fun i =>
          .done (l ++ d ++ p ++ i) := by
    rw [h.params_eq, resolveOperands_append, resolveOperands_append, resolveOperands_append]
    simp only [Plan.bind_assoc, Plan.done_bind]
  have hplan : c.plan s = (resolveOperands s c.params).bind (callPlan s.owner c) := rfl
  rw [hplan, hparts]
  simp only [Plan.bind_assoc, Plan.done_bind]
  -- the parts have the lengths that the places of the objects count on
  refine (resolveOperands_length s lead).bind_congr fun l hl => ?_
  refine (resolveOperands_length s direct).bind_congr fun d hd => ?_
  refine (resolveOperands_length s phrase).bind_congr fun p hp => ?_
  refine (resolveOperands_length s indirect).bind_congr fun i hi => ?_
  show (Plan.ofExcept (callRequest s.owner c (l ++ d ++ p ++ i))).bind Plan.request = _
  rw [h.callRequest_eq s.owner hl hd hp hi]

end Verbcall.Divided

/-- **Verb lines lose nothing, and evaluation finds their parts again.** A line that begins with a
word is a call of this word with everything behind it as params. The params are divided into a lead,
the direct object, the splitting phrase and the indirect object, and the objects are found at their
places among the params. A call resolves each node of its parts once, from left to right, and sends
the values that the nodes of its objects are reduced to. -/
theorem Verbcall.ofLine?_lossless (verb : String) (args : List Node) :
    ∃ (c : Verbcall Node) (lead direct phrase indirect : List Node),
      Verbcall.ofLine? (.word verb :: args) = some c ∧ c.verb = verb ∧ c.params = args ∧
      c.Divided lead direct phrase indirect ∧
      Locates c.params c.directRange? c.direct ∧ Locates c.params c.indirectRange? c.indirect ∧
      ∀ s : Scope, (Node.call c).resolve s = c.plan s ∧
        c.plan s =
          (resolveOperands s lead).bind fun l =>
          (resolveOperands s direct).bind fun d =>
          (resolveOperands s phrase).bind fun p =>
          (resolveOperands s indirect).bind fun i =>
          (Plan.ofExcept (partsRequest s.owner c l d p i)).bind Plan.request := by
  obtain ⟨lead, direct, phrase, indirect, hdivided⟩ := Verbcall.cut_divided verb args
  have hverb := Verbcall.cut_verb verb args
  have hparams := Verbcall.cut_params verb args
  have hnested : ∀ s : Scope,
      (Node.call (Verbcall.cut verb args)).resolve s = (Verbcall.cut verb args).plan s := by
    intro s
    rw [Node.resolve]
    rfl
  exact ⟨Verbcall.cut verb args, lead, direct, phrase, indirect, Verbcall.ofLine?_eq verb args,
    hverb, hparams, hdivided, hdivided.locates_direct, hdivided.locates_indirect,
    fun s => ⟨hnested s, hdivided.plan_eq s⟩⟩

/-- In `look at the sky in front of bob` the sky stands behind the lead `at`, and bob behind a
phrase of three words. -/
example :
    let line := ["look", "at", "the", "sky", "in", "front", "of", "bob"].map Node.word
    (Verbcall.ofLine? line).bind Verbcall.directRange? = some (1, 3) ∧
    (Verbcall.ofLine? line).bind Verbcall.indirectRange? = some (6, 7) := by cbv

end VerbScript
