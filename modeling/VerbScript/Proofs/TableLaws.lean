import VerbScript.Table

/-!
# Laws of tables

A table is determined by its lookups. The order of the entries is part of the type, so tables that
came about by different updates in a different order are equal as soon as every key finds the same
in both.

* `Table.ext_get?` — tables with the same lookups are equal.
* `Table.keys_eq_of_isSome`, `Table.size_eq_of_isSome` — tables that bind the same keys list them
  alike and have the same size.
* `Table.insert_insert`, `Table.insert_comm` — of two updates of one key the later counts, and
  updates of different keys may be exchanged.
* `Table.ofList_toList` — a table is the table of its listing.
* `Table.mem_keys` — the keys are those that are bound.
-/

namespace VerbScript

open Std

namespace Table

variable {κ α β : Type} [Ord κ]

/-- The key of the first binding finds its value. -/
theorem find_cons_self [ReflOrd κ] (k : κ) (v : α) (l : List (κ × α)) :
    find k ((k, v) :: l) = some v := if_pos ReflCmp.compare_self

/-- Any other key is looked up behind it. -/
theorem find_cons_of_ne [LawfulEqOrd κ] {j k : κ} (h : j ≠ k) (v : α) (l : List (κ × α)) :
    find j ((k, v) :: l) = find j l := if_neg fun heq => h (LawfulEqOrd.eq_of_compare heq)

/-- A key below all entries finds nothing. No entry has an equal key, and equal ones are all that a
lookup is looking for. -/
theorem find_eq_none_of_lt {k : κ} {l : List (κ × α)} (h : ∀ b ∈ l, compare k b.1 = .lt) :
    find k l = none := by
  induction l with
  | nil => rfl
  | cons b l ih =>
    have hb : compare k b.1 = .lt := h b List.mem_cons_self
    have hne : ¬compare k b.1 = .eq := by rw [hb]; exact nofun
    unfold find
    rw [if_neg hne]
    exact ih fun b' hb' => h b' (List.mem_cons_of_mem b hb')

/-- Looking up a key among changed values. The keys stay as they are, so the same entry is found. -/
theorem find_map (f : α → β) (k : κ) (l : List (κ × α)) :
    find k (l.map fun b => (b.1, f b.2)) = (find k l).map f := by
  induction l with
  | nil => rfl
  | cons b l ih =>
    rw [List.map_cons]
    unfold find
    split
    · rfl
    · exact ih

variable [TransOrd κ] [LawfulEqOrd κ]

/-- Of two ascending lists with the same lookups, the first does not begin with a smaller key. It
would be found in the first list, and in the second one it would be below all entries. -/
theorem not_lt_of_find_eq {k k' : κ} {v v' : α} {l l' : List (κ × α)}
    (h' : ((k', v') :: l').Pairwise fun a b => compare a.1 b.1 = .lt)
    (hfind : ∀ j, find j ((k, v) :: l) = find j ((k', v') :: l')) : compare k k' ≠ .lt := by
  intro hlt
  -- the smaller key would be below all of the other list, so it would find nothing there
  have hnone : find k ((k', v') :: l') = none := by
    refine find_eq_none_of_lt fun b hb => ?_
    rcases List.mem_cons.1 hb with rfl | hb
    · exact hlt
    · exact TransCmp.lt_trans hlt ((List.pairwise_cons.1 h').1 b hb)
  have hk := hfind k
  rw [hnone, find_cons_self] at hk
  cases hk

/-- Ascending lists with the same lookups are equal. The induction is on both lists, whose first
keys are the least ones. -/
theorem eq_of_find_eq {l l' : List (κ × α)} (h : l.Pairwise fun a b => compare a.1 b.1 = .lt)
    (h' : l'.Pairwise fun a b => compare a.1 b.1 = .lt) (hfind : ∀ j, find j l = find j l') :
    l = l' := by
  induction l generalizing l' with
  | nil =>
    cases l' with
    | nil => rfl
    | cons b l' =>
      have hb := hfind b.1
      rw [find_cons_self] at hb
      cases hb
  | cons a l ih =>
    cases l' with
    | nil =>
      have ha := hfind a.1
      rw [find_cons_self] at ha
      cases ha
    | cons b l' =>
      obtain ⟨k, v⟩ := a
      obtain ⟨k', v'⟩ := b
      -- the least keys agree, because neither is below the other
      have hle := not_lt_of_find_eq h' hfind
      have hge := not_lt_of_find_eq h fun j => (hfind j).symm
      have hkey : k = k' := by
        cases hc : compare k k' with
        | lt => exact absurd hc hle
        | eq => exact LawfulEqOrd.eq_of_compare hc
        | gt => exact absurd (OrientedCmp.gt_iff_lt.1 hc) hge
      subst hkey
      -- the values of the first key agree, because it is looked up there
      have hvalue := hfind k
      rw [find_cons_self, find_cons_self] at hvalue
      cases hvalue
      obtain ⟨hhead, htail⟩ := List.pairwise_cons.1 h
      obtain ⟨hhead', htail'⟩ := List.pairwise_cons.1 h'
      -- behind it, the lookups agree as well: the first key itself finds nothing any more
      have hrest : l = l' := by
        refine ih htail htail' fun j => ?_
        by_cases hj : j = k
        · subst hj
          rw [find_eq_none_of_lt hhead, find_eq_none_of_lt hhead']
        · have hfj := hfind j
          rwa [find_cons_of_ne hj, find_cons_of_ne hj] at hfj
      rw [hrest]

/-- **Tables with the same lookups are equal.** Their entries are sorted by keys and no key comes
twice, so the lookups leave nothing open. -/
theorem ext_get? {s t : Table κ α} (h : ∀ k, s.get? k = t.get? k) : s = t :=
  ext (eq_of_find_eq s.ascending t.ascending h)

/-- **Of two updates of one key the later counts.** The tables are compared by their lookups, as in
the lemmas below. -/
theorem insert_insert (t : Table κ α) (k : κ) (v u : α) :
    (t.insert k v).insert k u = t.insert k u := by
  refine ext_get? fun j => ?_
  -- the key itself finds the later value, and other keys find what they found before
  by_cases hj : j = k
  · subst hj
    rw [get?_insert_self, get?_insert_self]
  · rw [get?_insert_of_ne _ _ hj, get?_insert_of_ne _ _ hj, get?_insert_of_ne _ _ hj]

/-- **Updates of different keys may be exchanged.** No trace is left of the order in which they were
made. -/
theorem insert_comm (t : Table κ α) {k j : κ} (h : k ≠ j) (v u : α) :
    (t.insert k v).insert j u = (t.insert j u).insert k v := by
  refine ext_get? fun i => ?_
  -- each of the two keys finds its own value, whichever was put in last
  by_cases hj : i = j
  · subst hj
    rw [get?_insert_self, get?_insert_of_ne _ _ h.symm, get?_insert_self]
  · rw [get?_insert_of_ne _ _ hj]
    by_cases hk : i = k
    · subst hk
      rw [get?_insert_self, get?_insert_self]
    · rw [get?_insert_of_ne _ _ hk, get?_insert_of_ne _ _ hk, get?_insert_of_ne _ _ hj]

/-- **Tables that bind the same keys list the same keys**, and in the same order, whatever is bound
to them. -/
theorem keys_eq_of_isSome {s t : Table κ α} (h : ∀ k, (s.get? k).isSome = (t.get? k).isSome) :
    s.keys = t.keys := by
  -- compare the tables without their values
  have hascending : ∀ u : Table κ α,
      (u.entries.map fun b => (b.1, ())).Pairwise fun a b => compare a.1 b.1 = .lt := by
    intro u
    rw [List.pairwise_map]
    exact u.ascending
  have hbound : (s.entries.map fun b => (b.1, ())) = t.entries.map fun b => (b.1, ()) := by
    refine eq_of_find_eq (hascending s) (hascending t) fun k => ?_
    rw [find_map (fun _ => ()), find_map (fun _ => ())]
    have hk : (find k s.entries).isSome = (find k t.entries).isSome := h k
    -- a key is bound in both or in neither
    cases hs : find k s.entries with
    | none =>
      rw [hs] at hk
      have ht : find k t.entries = none := Option.isNone_iff_eq_none.1 (by simpa using hk.symm)
      rw [ht]
    | some v =>
      rw [hs] at hk
      obtain ⟨v', ht⟩ := Option.isSome_iff_exists.1 hk.symm
      rw [ht]
      rfl
  have hkeys := congrArg (List.map Prod.fst) hbound
  rwa [List.map_map, List.map_map] at hkeys

/-- **Tables that bind the same keys have the same size.** -/
theorem size_eq_of_isSome {s t : Table κ α} (h : ∀ k, (s.get? k).isSome = (t.get? k).isSome) :
    s.size = t.size := by
  have hlength := congrArg List.length (keys_eq_of_isSome h)
  unfold keys at hlength
  rwa [List.length_map, List.length_map] at hlength

omit [TransOrd κ] [LawfulEqOrd κ] in
/-- A key above all entries is placed behind them. In this way a table that is listed in order is
built again from its listing. -/
theorem place_of_lt [OrientedOrd κ] {k : κ} (v : α) {l : List (κ × α)}
    (h : ∀ b ∈ l, compare b.1 k = .lt) : place k v l = l ++ [(k, v)] := by
  induction l with
  | nil => rfl
  | cons b l ih =>
    have hb : compare k b.1 = .gt := OrientedCmp.gt_iff_lt.2 (h b List.mem_cons_self)
    have hrest := ih fun b' hb' => h b' (List.mem_cons_of_mem b hb')
    unfold place
    rw [hb, hrest]
    rfl

/-- Bindings that ascend from those of a table on are all put behind them. The induction is on the
bindings that are left, with a table that grows. -/
theorem entries_foldl_insert {t : Table κ α} {l : List (κ × α)}
    (h : (t.entries ++ l).Pairwise fun a b => compare a.1 b.1 = .lt) :
    (l.foldl (fun t b => t.insert b.1 b.2) t).entries = t.entries ++ l := by
  induction l generalizing t with
  | nil => exact (List.append_nil _).symm
  | cons b l ih =>
    -- the next key is above all that are there, so it goes to the end
    have hbelow : ∀ a ∈ t.entries, compare a.1 b.1 = .lt := fun a ha =>
      (List.pairwise_append.1 h).2.2 a ha b List.mem_cons_self
    have hentries : (t.insert b.1 b.2).entries = t.entries ++ [b] := place_of_lt b.2 hbelow
    have hrest : (t.insert b.1 b.2).entries ++ l = t.entries ++ b :: l := by
      rw [hentries, List.append_assoc, List.singleton_append]
    rw [List.foldl_cons, ih (hrest ▸ h), hrest]

/-- **A table is the table of its listing.** The bindings are inserted in order, so each of them
comes behind all others. -/
theorem ofList_toList (t : Table κ α) : ofList t.toList = t :=
  ext (entries_foldl_insert (t := empty) t.ascending)

omit [TransOrd κ] in
/-- **The keys are those that are bound.** A key that is listed has its value found, and no other
has one. -/
theorem mem_keys (t : Table κ α) (k : κ) : k ∈ t.keys ↔ t.contains k = true := by
  unfold keys contains get?
  generalize t.entries = l
  induction l with
  | nil => exact ⟨nofun, nofun⟩
  | cons b l ih =>
    obtain ⟨k', v⟩ := b
    -- a key that is not the first one is listed or looked up behind it
    by_cases hk : k = k'
    · subst hk
      rw [find_cons_self]
      exact ⟨fun _ => rfl, fun _ => List.mem_cons_self⟩
    · rw [find_cons_of_ne hk, List.map_cons, List.mem_cons, ih]
      exact or_iff_right hk

end Table

end VerbScript
