import VerbScript.Proofs.WorldWrites

/-!
# Objects are filed under their ids

A world finds objects by the id they are filed under, and an object also carries an id of its own.
All that is done to a store keeps the two together: a write files an object under its id, or where
one with the same id was (`World.Writes.misfiles`). By induction, an object under an id that is not
its own has been there from the beginning (`Store.after_misfiles`). A store that starts empty has
none. A snapshot is taken as it is, and can have some.

New ids are fresh: numbers are drawn until one stands for an id that is not in use. The loop that
draws has no bound, so what is said of a new id is said of the runs of the loop that come to an end
(`IdStream.Draws`). The loop comes to an end exactly if some number of the stream, however late,
stands for an id that is not in use (`IdStream.exists_draws_iff`); in a world in which every id is
in use it does not.

* `World.Misfiles`, `World.Filed` — an object under an id that is not its own, and none such.
* `Store.FilesSince`, `Store.objects_filed` — filing along every history, and what `create`,
  `insert` and `ids` do after it.
* `Store.stray_loaded` — a snapshot can bring an object under an id that is not its own.
-/

namespace VerbScript

/-! ### Filing -/

namespace World

/-- Under `id` there is an object that has the other id `own`. Such an object is found by the id it
is filed under, and not by its own. -/
def Misfiles (w : World) (id own : ObjectId) : Prop :=
  ∃ o, w.object? id = some o ∧ o.id = own ∧ own ≠ id

/-- Every object is under its own id. Operations rely on this without a test: what they write goes
under the id that the object has. -/
def Filed (w : World) : Prop := ∀ id o, w.object? id = some o → o.id = id

/-- An object under an id has that id, or it is misfiled. -/
theorem id_eq_or_misfiles {w : World} {id : ObjectId} {o : Object} (h : w.object? id = some o) :
    o.id = id ∨ w.Misfiles id o.id := by
  by_cases hid : o.id = id
  · exact .inl hid
  · exact .inr ⟨o, h, rfl, hid⟩

/-- **A write misfiles nothing** that was not misfiled before: what it files under an id has this
id, or was there already with another one. -/
theorem Writes.misfiles {w w' : World} {x : Write} {id own : ObjectId} (hx : w.Writes x w')
    (h : w'.Misfiles id own) : w.Misfiles id own := by
  obtain ⟨o', hfound', hown, hne⟩ := h
  cases hx with
  | @edit j o e hfound =>
    by_cases hj : id = j
    · -- the edited object has the id it had
      subst hj
      rw [object?_put_self] at hfound'
      cases hfound'
      exact ⟨o, hfound, (e.apply_id o).symm.trans hown, hne⟩
    · rw [object?_put_of_ne _ _ hj] at hfound'
      exact ⟨o', hfound', hown, hne⟩
  -- names are no part of what objects are filed under
  | naming name j => exact ⟨o', hfound', hown, hne⟩
  | insert o =>
    by_cases hj : id = o.id
    · -- what is put in is under its own id, so this entry cannot be the misfiled one
      subst hj
      rw [object?_put_self] at hfound'
      cases hfound'
      exact absurd hown.symm hne
    · rw [object?_put_of_ne _ _ hj] at hfound'
      exact ⟨o', hfound', hown, hne⟩

end World

/-- **No operation misfiles an object.** It changes the world by one write or not at all, and a
write misfiles nothing. -/
theorem Store.perform_misfiles {s : Store} {α : Type} (op : Operation α) {id own : ObjectId}
    (h : (s.perform op).1.world.Misfiles id own) : s.world.Misfiles id own := by
  rcases s.perform_writes op with hsame | ⟨x, hx⟩
  · rwa [hsame] at h
  · exact hx.misfiles h

/-- **What is misfiled after a history was misfiled before it**, with the same two ids. The
induction is on the history, taken from its beginning. -/
theorem Store.after_misfiles {s : Store} (history : List ((α : Type) × Operation α))
    {id own : ObjectId} (h : (s.after history).world.Misfiles id own) :
    s.world.Misfiles id own := by
  induction history generalizing s with
  | nil => exact h
  | cons op history ih => exact perform_misfiles op.2 (ih h)

/-! ### New ids -/

/-- An id that can be given to a new object. Ids beyond the range can only come from snapshots and
from objects that are inserted. -/
def ObjectId.Issuable (id : ObjectId) : Prop :=
  1 ≤ id.raw.toNat ∧ id.raw.toNat ≤ IdStream.maxId

/-- A number of the range stands for such an id. The range ends far below the largest number of 64
bits, so nothing is cut off. -/
theorem ObjectId.issuable_of_le {n : Nat} (hpos : 1 ≤ n) (hmax : n ≤ IdStream.maxId) :
    (ObjectId.mk n.toUInt64).Issuable := by
  have hn : n.toUInt64.toNat = n := by
    refine UInt64.toNat_ofNat_of_lt' (Nat.lt_of_le_of_lt hmax ?_)
    decide
  unfold Issuable
  rw [hn]
  exact ⟨hpos, hmax⟩

namespace IdStream

/-- A drawn number has its share in the range of ids. The share is a quotient that is smaller than
the range is large, and one is added to it, so the id is never zero. -/
theorem issuable_of_idOf? {drawn : UInt64} {id : ObjectId} (h : idOf? drawn = some id) :
    id.Issuable := by
  -- a number below `2 ^ 64` has a share of the range that is below its end
  have hshare : drawn.toNat * maxId / UInt64.size < maxId := by
    refine Nat.div_lt_of_lt_mul ?_
    exact Nat.mul_lt_mul_of_pos_right drawn.toNat_lt (by decide)
  -- numbers that would make some ids likelier than others are refused
  simp only [idOf?] at h
  split at h
  · cases h
    exact ObjectId.issuable_of_le (Nat.le_add_right 1 _) (by omega)
  · cases h

/-- **A run of the loop that draws ids.** It goes on past the draws that are refused and ends at the
first one that is accepted, with its id and the stream behind it. There is no run from a stream of
which every draw is refused. -/
inductive Draws (accept : ObjectId → Bool) : IdStream → ObjectId → IdStream → Prop where
  | accepted {s s' : IdStream} {id : ObjectId} (drawn : s.attempt accept = (some id, s')) :
      Draws accept s id s'
  | refused {s s' last : IdStream} {id : ObjectId} (drawn : s.attempt accept = (none, s'))
      (rest : Draws accept s' id last) : Draws accept s id last

variable {accept : ObjectId → Bool} {s last : IdStream} {id : ObjectId}

/-- A stream with a run is one the loop ends from: a refused draw leaves one stream only, from which
the rest of the run goes on. -/
theorem Draws.ends (h : Draws accept s id last) :
    Acc (fun next s => s.attempt accept = (none, next)) s := by
  induction h with
  | accepted drawn =>
    refine .intro _ fun next hrefused => ?_
    rw [drawn] at hrefused
    cases hrefused
  | refused drawn rest ih =>
    -- the draw is the refused one, so the stream behind it is the next of the run
    refine .intro _ fun next hrefused => ?_
    rw [drawn] at hrefused
    cases hrefused
    exact ih

/-- What a run of the loop ends with is what the loop gives. The induction is on the run, and each
of its draws opens the loop once. -/
theorem Draws.next_eq (h : Draws accept s id last) : s.next accept = (id, last) := by
  unfold next
  induction h with
  | accepted drawn =>
    have hends := (Draws.accepted drawn).ends
    rw [retry_eq hends, drawn]
  | refused drawn rest ih =>
    have hends := (Draws.refused drawn rest).ends
    rw [retry_eq hends, drawn]
    exact ih

/-- A draw is accepted exactly if its number stands for an id and this is accepted. -/
theorem attempt_fst_eq_some :
    (s.attempt accept).1 = some id ↔ idOf? s.draw.1 = some id ∧ accept id = true :=
  Option.filter_eq_some_iff

/-- **What is drawn in the end is accepted**, and it can be given to an object. The induction is on
the draws, of which only the last one counts. -/
theorem Draws.issuable (h : Draws accept s id last) : id.Issuable ∧ accept id = true := by
  induction h with
  | accepted drawn =>
    obtain ⟨hid, haccept⟩ := attempt_fst_eq_some.1 (congrArg Prod.fst drawn)
    exact ⟨issuable_of_idOf? hid, haccept⟩
  | refused drawn rest ih => exact ih

/-- The stream behind some draws, each of which takes two words of it. So a draw is known by the
number of draws before it. -/
def skip (s : IdStream) (n : Nat) : IdStream := { s with position := s.position + 2 * n }

/-- Draws behind other draws are counted together. -/
theorem skip_skip (s : IdStream) (m n : Nat) : (s.skip m).skip n = s.skip (m + n) := by
  simp only [skip, Nat.mul_add, Nat.add_assoc]

/-- **The loop comes to an end exactly if some draw is accepted**, however late. The stream has no
end, so the loop might go on forever if all ids of its draws are in use. -/
theorem exists_draws_iff : (∃ id last, Draws accept s id last) ↔
    ∃ n id, idOf? (s.skip n).draw.1 = some id ∧ accept id = true := by
  constructor
  · rintro ⟨id, last, h⟩
    induction h with
    | @accepted s s' id drawn =>
      exact ⟨0, id, attempt_fst_eq_some.1 (congrArg Prod.fst drawn)⟩
    | @refused s s' last id drawn rest ih =>
      -- the draw that is accepted comes one place later in the whole stream
      obtain ⟨n, id', hid⟩ := ih
      -- what a refused draw leaves is the stream one draw further on
      obtain rfl : s.skip 1 = s' := congrArg Prod.snd drawn
      rw [skip_skip] at hid
      exact ⟨1 + n, id', hid⟩
  · rintro ⟨n, id, hid⟩
    induction n generalizing s with
    | zero => exact ⟨id, _, .accepted (Prod.ext (attempt_fst_eq_some.2 hid) rfl)⟩
    | succ n ih =>
      -- an earlier draw may be accepted already; then the loop ends there
      cases hfirst : (s.attempt accept).1 with
      | some found => exact ⟨found, _, .accepted (Prod.ext hfirst rfl)⟩
      | none =>
        rw [Nat.add_comm, ← skip_skip] at hid
        obtain ⟨id', last, hrest⟩ := ih hid
        exact ⟨id', last, .refused (Prod.ext hfirst rfl) hrest⟩

end IdStream

namespace Store

/-- The loop that draws an id for a new object of a store ends with this id and this stream. It
accepts the ids that are not in use. -/
def Draws (s : Store) (id : ObjectId) (last : IdStream) : Prop :=
  s.stream.Draws (fun id => !s.world.contains id) id last

/-- **A fresh id is not in use** and can be given to an object. That it is not in use is why a new
object replaces none. -/
theorem Draws.fresh {s : Store} {id : ObjectId} {last : IdStream} (h : s.Draws id last) :
    id.Issuable ∧ s.world.contains id = false := by
  obtain ⟨hissuable, haccept⟩ := IdStream.Draws.issuable h
  exact ⟨hissuable, by simpa using haccept⟩

/-! ### What is done to a store -/

/-- The ids of a world are listed in strictly ascending order. -/
theorem ids_ascending (s : Store) : s.world.ids.Pairwise fun a b => a.raw < b.raw := by
  refine List.pairwise_map.2 (s.world.objects.ascending.imp ?_)
  intro a b hlt
  exact Std.compare_eq_lt.1 hlt

/-- **A new object comes under a fresh id**, and nothing else changes. The id is the one with which
the loop ends, and the stream is where the loop has left it. -/
theorem perform_create_fresh {s : Store} {id : ObjectId} {last : IdStream} (h : s.Draws id last)
    (parent : Option ObjectId) (created : UInt64) :
    s.perform (.create parent created) =
      ({ world := s.world.put id { id, parent, created }, stream := last }, id) := by
  rw [perform_create, create_of_freshId h.next_eq]

/-- **The objects of a store `s` that has come about from `start`** are filed under their ids, but
for what `start` itself had elsewhere; and what is done to it next keeps them there. -/
structure FilesSince (start s : Store) : Prop where
  /-- If every object was under its own id, it still is. -/
  filed : start.world.Filed → s.world.Filed
  /-- An object that is not has been there from the beginning. -/
  own : ∀ id o, s.world.object? id = some o → o.id = id ∨ start.world.Misfiles id o.id
  /-- Whenever the loop that draws ids ends, a new object gets the id it ended with, which was not
  in use, and nothing else changes. -/
  create : ∀ (parent : Option ObjectId) (created : UInt64) (id : ObjectId) (last : IdStream),
    s.Draws id last →
    ∃ s', s.perform (.create parent created) = (s', id) ∧
      id.Issuable ∧ s.world.contains id = false ∧
      (∀ j, s'.world.object? j =
        if j = id then some { id, parent, created, props := .empty, verbs := .empty }
        else s.world.object? j) ∧
      (∀ name, s'.world.alias? name = s.world.alias? name) ∧ s'.stream = last
  /-- And it ends exactly if some number of the stream, however late, stands for such an id. -/
  draws : (∃ id last, s.Draws id last) ↔
    ∃ n id, IdStream.idOf? (s.stream.skip n).draw.1 = some id ∧ s.world.contains id = false
  /-- What is inserted changes the entry of its own id, and the answer is what was there. -/
  insert : ∀ o : Object,
    ∃ s', s.perform (.insert o) = (s', s.world.object? o.id) ∧
      (∀ j, s'.world.object? j = if j = o.id then some o else s.world.object? j) ∧
      (∀ name, s'.world.alias? name = s.world.alias? name) ∧ s'.stream = s.stream
  /-- The ids are listed in ascending order, and they are those of the objects there are. -/
  ascending : s.world.ids.Pairwise fun a b => a.raw < b.raw
  ids : ∀ id, id ∈ s.world.ids ↔ s.world.contains id = true

/-- **Objects stay filed under their ids, and new ids are fresh.** Along every history of any store
an object that is not under its own id has been there from the beginning, so the store of a snapshot
keeps what the snapshot had elsewhere and gets nothing else of this kind. A store that starts empty
never has such an object. -/
theorem objects_filed (start : Store) (history : List ((α : Type) × Operation α)) :
    FilesSince start (start.after history) ∧
      ∀ seed, start = ofSeed seed → (start.after history).world.Filed := by
  have hown : ∀ id o, (start.after history).world.object? id = some o →
      o.id = id ∨ start.world.Misfiles id o.id := fun id o hfound =>
    (World.id_eq_or_misfiles hfound).imp_right (after_misfiles history)
  have hfiled : start.world.Filed → (start.after history).world.Filed := by
    intro hstart id o hfound
    rcases hown id o hfound with hid | ⟨o₀, hfound₀, hsame, hne⟩
    · exact hid
    · -- it would have been misfiled in the beginning, where nothing was
      exact absurd (hsame.symm.trans (hstart id o₀ hfound₀)) hne
  refine ⟨⟨hfiled, hown, ?_, ?_, ?_, ids_ascending _, fun id => Table.mem_keys _ id⟩, ?_⟩
  · -- what the loop ends with is fresh, and the new object is filed under it
    intro parent created id last hdraws
    obtain ⟨hissuable, hunused⟩ := hdraws.fresh
    refine ⟨_, perform_create_fresh hdraws parent created, hissuable, hunused, ?_, ?_, rfl⟩
    · intro j
      exact World.object?_put _ _ _ _
    · intro name
      rfl
  · refine IdStream.exists_draws_iff.trans ?_
    simp only [Bool.not_eq_true']
  · intro o
    exact ⟨_, rfl, fun j => World.object?_put _ _ _ _, fun name => rfl, rfl⟩
  · rintro seed rfl
    exact hfiled nofun

/-- A hall is loaded and gets a parent, and a room is made beside it, under the first id that is
drawn. -/
theorem hall_filed :
    let bytes : List UInt8 := [0x93, 1, 0, 0x92, 0x81, 7, 0x95, 7, 0xC0, 0, 0x80, 0x80, 0x80]
    let moved : List ((α : Type) × Operation α) := [⟨_, .setParent ⟨7⟩ (some ⟨9⟩)⟩]
    ∃ hall, ofBytes? bytes = some hall ∧
      (∃ o, (hall.after moved).world.object? ⟨7⟩ = some o ∧ o.parent = some ⟨9⟩ ∧
        (o.id = ⟨7⟩ ∨ hall.world.Misfiles ⟨7⟩ o.id)) ∧
      ∃ last s', hall.Draws ⟨0x67094CEB⟩ last ∧
        hall.perform (.create (some ⟨7⟩) 0) = (s', ⟨0x67094CEB⟩) ∧
        hall.world.contains ⟨0x67094CEB⟩ = false := by
  intro bytes moved
  obtain ⟨hall, hload, hseen⟩ : ∃ hall, ofBytes? bytes = some hall ∧
      (((hall.after moved).world.object? ⟨7⟩).map Object.parent,
        hall.stream.attempt fun id => !hall.world.contains id) =
      (some (some ⟨9⟩), some ⟨0x67094CEB⟩, ⟨1, 2⟩) :=
    Option.map_eq_some_iff.1 (by decide +kernel)
  obtain ⟨hparent, hdrawn⟩ := Prod.mk.inj hseen
  obtain ⟨o, hfound, hparent⟩ := Option.map_eq_some_iff.1 hparent
  have hdraws : hall.Draws ⟨0x67094CEB⟩ ⟨1, 2⟩ := .accepted hdrawn
  obtain ⟨s', hperform, -, hfresh, -⟩ :=
    (objects_filed hall []).1.create (some ⟨7⟩) 0 _ _ hdraws
  have ho := (objects_filed hall moved).1.own ⟨7⟩ o hfound
  exact ⟨hall, hload, ⟨o, hfound, hparent, ho⟩, _, s', hdraws, hperform, hfresh⟩

/-- **A snapshot can bring an object under an id that is not its own**: here one with the id 7 under
the id 5, of a store to which nothing is done. -/
theorem stray_loaded :
    ¬∀ (bytes : List UInt8) (loaded : Store) (history : List ((α : Type) × Operation α)),
      ofBytes? bytes = some loaded → (loaded.after history).world.Filed := by
  intro hfiled
  obtain ⟨stray, hload, hstray⟩ : ∃ stray,
      ofBytes? [0x93, 1, 0, 0x92, 0x81, 5, 0x95, 7, 0xC0, 0, 0x80, 0x80, 0x80] = some stray ∧
      (stray.world.object? ⟨5⟩).map Object.id = some ⟨7⟩ := Option.map_eq_some_iff.1 rfl
  obtain ⟨o, hfound, hid⟩ := Option.map_eq_some_iff.1 hstray
  have hown : o.id = ⟨5⟩ := hfiled _ stray [] hload ⟨5⟩ o hfound
  rw [hid] at hown
  exact absurd hown (by decide)

/-- What looks an object up along the parents counts on it. The walk from 5 remembers the id 7
there, takes the object under 7 for one that it has seen, and does not find what that has. -/
example :
    let w : World := {
      objects := Table.ofList [(⟨5⟩, { id := ⟨7⟩, parent := some ⟨7⟩ }),
        (⟨7⟩, { id := ⟨7⟩, props := .ofList [("lamp", .str "lit")] })] }
    w.readProp ⟨7⟩ "lamp" = .ok (.str "lit") ∧
      w.readProp ⟨5⟩ "lamp" = .error (.propNotFound "lamp") := ⟨rfl, rfl⟩

end Store

end VerbScript
