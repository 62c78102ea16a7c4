/-!
# Tables in key order

A `Table κ α` is a finite map whose entries are kept in strictly ascending key order.
The order is part of the type, so two tables with the same bindings are equal, listing a
table needs no sorting, and whatever is written from a listing is canonical.

* `Table.get?` and `Table.insert` are the lookup and the update.
* `Table.keys`, `Table.toList` list a table in key order.
* `Table.ofList` builds a table from bindings in any order; of two bindings of one key the
  later wins.
-/

namespace VerbScript

open Std

/-- A finite map from `κ` to `α`, its entries in strictly ascending key order. So there is one table
for each such map, and equal tables are equal as data. -/
structure Table (κ α : Type) [Ord κ] where
  /-- The bindings, in key order. -/
  entries : List (κ × α)
  /-- No key occurs twice and the keys ascend. -/
  ascending : entries.Pairwise fun a b => compare a.1 b.1 = .lt

namespace Table

variable {κ α β : Type} [Ord κ]

@[ext] theorem ext {s t : Table κ α} (h : s.entries = t.entries) : s = t := by
  cases s; cases t; cases h; rfl

instance [DecidableEq κ] [DecidableEq α] : DecidableEq (Table κ α) := fun s t =>
  decidable_of_iff (s.entries = t.entries) ⟨ext, fun h => h ▸ rfl⟩

/-- The table without bindings, which is the only one of size zero. -/
def empty : Table κ α := ⟨[], .nil⟩

instance : Inhabited (Table κ α) := ⟨empty⟩

/-- The bindings in key order. Whatever is written from a table is written in this order. -/
def toList (t : Table κ α) : List (κ × α) := t.entries

/-- The keys in ascending order. -/
def keys (t : Table κ α) : List κ := t.entries.map Prod.fst

/-- The number of bindings. -/
def size (t : Table κ α) : Nat := t.entries.length

/-- The value bound to the first key equal to `k`. It needs no order of the bindings, so it is also
defined for lists that are no tables. -/
def find (k : κ) : List (κ × α) → Option α
  | [] => none
  | (k', v) :: rest => if compare k k' = .eq then some v else find k rest

/-- The value bound to `k`. -/
def get? (t : Table κ α) (k : κ) : Option α := find k t.entries

/-- The value bound to `k`, or `fallback` if there is none. -/
def getD (t : Table κ α) (k : κ) (fallback : α) : α := (t.get? k).getD fallback

/-- Whether `k` is bound. -/
def contains (t : Table κ α) (k : κ) : Bool := (t.get? k).isSome

/-- Puts a binding in its place among ascending ones, replacing a binding of the same key. All other
bindings stay, in their order. -/
def place (k : κ) (v : α) : List (κ × α) → List (κ × α)
  | [] => [(k, v)]
  | (k', v') :: rest =>
    match compare k k' with
    | .lt => (k, v) :: (k', v') :: rest
    | .eq => (k, v) :: rest
    | .gt => (k', v') :: place k v rest

/-- Every binding after a placement is the placed one or was there before. So what holds of all
bindings of a table is kept by an update that it holds of. -/
theorem mem_place {k : κ} {v : α} {b : κ × α} :
    ∀ {l : List (κ × α)}, b ∈ place k v l → b = (k, v) ∨ b ∈ l
  | [], h => by simpa [place] using h
  | (k', v') :: rest, h => by
    unfold place at h
    split at h
    · simpa using h
    · rcases List.mem_cons.1 h with h | h
      · exact .inl h
      · exact .inr (List.mem_cons_of_mem _ h)
    · rcases List.mem_cons.1 h with h | h
      · exact .inr (by simp [h])
      · rcases mem_place h with h | h
        · exact .inl h
        · exact .inr (List.mem_cons_of_mem _ h)

variable [TransOrd κ] [LawfulEqOrd κ]

/-- Placing a binding keeps the keys ascending. This is the invariant that a table carries, and it
is shown here once for all updates. -/
theorem place_ascending (k : κ) (v : α) :
    ∀ {l : List (κ × α)}, l.Pairwise (fun a b => compare a.1 b.1 = .lt) →
      (place k v l).Pairwise fun a b => compare a.1 b.1 = .lt
  | [], _ => by simp [place]
  | (k', v') :: rest, h => by
    obtain ⟨head, tail⟩ := List.pairwise_cons.1 h
    unfold place
    split
    next lt =>
      refine List.pairwise_cons.2 ⟨fun b hb => ?_, h⟩
      rcases List.mem_cons.1 hb with rfl | hb
      · exact lt
      · exact TransCmp.lt_trans lt (head b hb)
    next eq =>
      obtain rfl := LawfulEqOrd.eq_of_compare eq
      exact List.pairwise_cons.2 ⟨head, tail⟩
    next gt =>
      refine List.pairwise_cons.2 ⟨fun b hb => ?_, place_ascending k v tail⟩
      rcases mem_place hb with rfl | hb
      · exact OrientedCmp.gt_iff_lt.1 gt
      · exact head b hb

/-- Binds `k` to `v`, replacing an earlier binding of `k`. -/
def insert (t : Table κ α) (k : κ) (v : α) : Table κ α :=
  ⟨place k v t.entries, place_ascending k v t.ascending⟩

/-- The table of the given bindings; of two bindings of one key the later wins. -/
def ofList (bindings : List (κ × α)) : Table κ α :=
  bindings.foldl (fun t b => t.insert b.1 b.2) empty

omit [TransOrd κ] in
/-- What has been placed is found, whatever the list. -/
@[simp] theorem find_place_self (k : κ) (v : α) :
    ∀ l : List (κ × α), find k (place k v l) = some v
  | [] => by simp [place, find]
  | (k', v') :: rest => by
    unfold place
    split
    next => simp [find]
    next => simp [find]
    next gt => simp [find, gt, find_place_self k v rest]

omit [TransOrd κ] in
/-- Placing a binding changes nothing for other keys. The key may be placed before or behind the one
that is looked up. -/
theorem find_place_of_ne {k j : κ} (v : α) (h : j ≠ k) :
    ∀ l : List (κ × α), find j (place k v l) = find j l
  | [] => by
    have : compare j k ≠ .eq := fun e => h (LawfulEqOrd.eq_of_compare e)
    simp [place, find, this]
  | (k', v') :: rest => by
    have ne : compare j k ≠ .eq := fun e => h (LawfulEqOrd.eq_of_compare e)
    unfold place
    split
    next => simp [find, ne]
    next eq =>
      obtain rfl := LawfulEqOrd.eq_of_compare eq
      simp [find, ne]
    next => simp [find, find_place_of_ne v h rest]

omit [TransOrd κ] [LawfulEqOrd κ] in
@[simp] theorem get?_empty (k : κ) : (empty : Table κ α).get? k = none := rfl

@[simp] theorem get?_insert_self (t : Table κ α) (k : κ) (v : α) :
    (t.insert k v).get? k = some v := find_place_self k v _

theorem get?_insert_of_ne (t : Table κ α) {k j : κ} (v : α) (h : j ≠ k) :
    (t.insert k v).get? j = t.get? j := find_place_of_ne v h _

/-- **The effect of an update on every lookup.** The two cases are the key that was updated and any
other one. -/
theorem get?_insert [DecidableEq κ] (t : Table κ α) (k j : κ) (v : α) :
    (t.insert k v).get? j = if j = k then some v else t.get? j := by
  split
  next h => subst h; exact get?_insert_self t j v
  next h => exact get?_insert_of_ne t v h

end Table

end VerbScript
