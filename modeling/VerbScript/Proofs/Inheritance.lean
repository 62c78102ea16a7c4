import Mathlib.Data.List.Chain
import Mathlib.Data.List.Nodup
import VerbScript.Proofs.Filing
import VerbScript.Proofs.Interleaving
import VerbScript.Proofs.SnapshotFidelity

/-!
# Inheritance

A property or a verb that an object does not have is looked up on its ancestors. Parents are not
checked when they are set: an object can be its own ancestor, and a parent need not exist. This
module says, without the walk of `World.chain`, what the line of ancestors is, and that reading
finds the nearest definition on it.

* `World.IsAncestry w id line` — the line of `id`: each id is followed by the parent of its object,
  and the line goes on until there is no parent, or no such object, or the parent is on the line.
* `World.IsAncestry.eq` — there is at most one such line.
* `World.lineage_isAncestry` — the walk takes it, in a world whose objects are filed under their
  ids.
* `Store.Reachable` — the stores that come about from an empty one. Their objects are filed.
* `Store.inherits_nearest` — reading and looking up find the nearest definition.
-/

namespace VerbScript

namespace World

variable {w : World}

/-! ### The line of ancestors -/

/-- The parent of the object with an id. It is an id too, and need not be in use. -/
def parent? (w : World) (id : ObjectId) : Option ObjectId := (w.object? id).bind Object.parent

/-- The parent is read off the object. It may be an id under which there is no object. -/
theorem parent?_eq {id : ObjectId} {o : Object} (h : w.object? id = some o) :
    w.parent? id = o.parent := by
  unfold parent?
  rw [h]
  rfl

/-- An id with an object is in use. -/
theorem contains_eq_true {id : ObjectId} {o : Object} (h : w.object? id = some o) :
    w.contains id = true := Option.isSome_iff_exists.2 ⟨o, h⟩

theorem exists_object {id : ObjectId} (h : w.contains id = true) : ∃ o, w.object? id = some o :=
  Option.isSome_iff_exists.1 h

theorem contains_eq_false {id : ObjectId} (h : w.object? id = none) : w.contains id = false :=
  Option.isSome_eq_false_iff.2 (Option.isNone_iff_eq_none.2 h)

theorem object?_of_missing {id : ObjectId} (h : w.contains id = false) : w.object? id = none :=
  Option.isNone_iff_eq_none.1 (Option.isSome_eq_false_iff.1 h)

/-- The ids of an object and its ancestors, nearest first. This says what the line is by the world
alone, and not how it is found. -/
structure IsAncestry (w : World) (id : ObjectId) (line : List ObjectId) : Prop where
  /-- An object that does not exist has no line. -/
  missing : w.contains id = false → line = []
  starts : w.contains id = true → line.head? = some id
  exist : ∀ j ∈ line, w.contains j = true
  linked : line.IsChain fun j k => w.parent? j = some k
  /-- No id comes twice. -/
  nodup : line.Nodup
  /-- The last object has no parent, or one that does not exist, or one that is on the line. -/
  ends : ∀ j ∈ line.getLast?, ∀ k, w.parent? j = some k → w.contains k = true → k ∈ line

/-- Of two linked lists with the same head, one goes on where the other one ends. Every object has
one parent at most, so the lists cannot part. -/
theorem prefix_or_prefix_of_linked {line line' : List ObjectId}
    (h : line.IsChain fun j k => w.parent? j = some k)
    (h' : line'.IsChain fun j k => w.parent? j = some k) (hhead : line.head? = line'.head?) :
    line <+: line' ∨ line' <+: line := by
  induction line generalizing line' with
  | nil => exact .inl (List.nil_prefix)
  | cons j rest ih =>
    cases line' with
    | nil => cases hhead
    | cons j' rest' =>
      obtain rfl : j = j' := Option.some.inj hhead
      rw [List.prefix_cons_inj, List.prefix_cons_inj]
      cases rest with
      | nil => exact .inl List.nil_prefix
      | cons k rest =>
        cases rest' with
        | nil => exact .inr List.nil_prefix
        | cons k' rest' =>
          -- both go on with the parent of `j`
          obtain ⟨hk, hrest⟩ := List.isChain_cons_cons.1 h
          obtain ⟨hk', hrest'⟩ := List.isChain_cons_cons.1 h'
          refine ih hrest hrest' ?_
          rw [List.head?_cons, List.head?_cons, ← hk, ← hk']

namespace IsAncestry

variable {id : ObjectId} {line line' : List ObjectId}

/-- **A line does not go on behind another one.** It would go on with the parent of the last object,
and that is on the line already or does not exist. -/
theorem eq_of_prefix (h : w.IsAncestry id line) (h' : w.IsAncestry id line')
    (hbegins : line <+: line') : line' = line := by
  obtain ⟨rest, rfl⟩ := hbegins
  cases rest with
  | nil => exact List.append_nil line
  | cons k rest =>
    -- the longer line is not empty, so there is an object
    have hid : w.contains id = true := by
      by_contra hnot
      have hnil := h'.missing (Bool.eq_false_of_not_eq_true hnot)
      exact List.cons_ne_nil k rest (List.append_eq_nil_iff.1 hnil).2
    -- and the shorter line begins with it
    have hne : line ≠ [] := by
      rintro rfl
      cases h.starts hid
    have hj : line.getLast? = some (line.getLast hne) := List.getLast?_eq_some_getLast hne
    -- `k` is the parent of the last object of the shorter line, so it is on this line already
    have hparent : w.parent? (line.getLast hne) = some k :=
      (List.isChain_append.1 h'.linked).2.2 _ hj k rfl
    have hk : k ∈ line := h.ends _ hj k hparent
      (h'.exist k (List.mem_append_right line List.mem_cons_self))
    exact absurd rfl ((List.nodup_append.1 h'.nodup).2.2 k hk k List.mem_cons_self)

/-- **There is at most one line** of ancestors. Two of them begin alike and go on alike, so one of
them goes on where the other one ends. -/
theorem eq (h : w.IsAncestry id line) (h' : w.IsAncestry id line') : line' = line := by
  have hhead : line.head? = line'.head? := by
    cases hid : w.contains id with
    | true => rw [h.starts hid, h'.starts hid]
    | false => rw [h.missing hid, h'.missing hid]
  -- one of the two goes on where the other one ends, and then it ends there too
  rcases prefix_or_prefix_of_linked h.linked h'.linked hhead with hbegins | hbegins
  · exact h.eq_of_prefix h' hbegins
  · exact (h'.eq_of_prefix h hbegins).symm

end IsAncestry

/-! ### The walk -/

/-- A walk that has `seen` some ids stops at `id`: there is no such object, or it has been seen. In
both cases the walk is over. -/
def Stops (w : World) (seen : List ObjectId) (id : ObjectId) : Prop :=
  w.contains id = false ∨ id ∈ seen

/-- The walk goes on at an object that has not been seen. It stops at one that is missing, and at
one that it has come from. -/
theorem not_stops_iff {seen : List ObjectId} {id : ObjectId} :
    ¬w.Stops seen id ↔ w.contains id = true ∧ id ∉ seen := by
  unfold Stops
  rw [not_or, Bool.not_eq_false]

/-- The line of `id` without the ids that have been `seen`. This is `IsAncestry` as the walk meets
it in the middle: to have been seen is as good as not to exist. -/
structure Ascends (w : World) (seen : List ObjectId) (id : ObjectId) (line : List ObjectId) :
    Prop where
  stops : w.Stops seen id → line = []
  starts : ¬w.Stops seen id → line.head? = some id
  goes : ∀ j ∈ line, ¬w.Stops seen j
  linked : line.IsChain fun j k => w.parent? j = some k
  nodup : line.Nodup
  ends : ∀ j ∈ line.getLast?, ∀ k, w.parent? j = some k → ¬w.Stops seen k → k ∈ line

namespace Ascends

variable {seen line : List ObjectId} {id parent : ObjectId}

/-- Where the walk stops, nothing is left of the line. -/
theorem nil (h : w.Stops seen id) : w.Ascends seen id [] :=
  ⟨fun _ => rfl, fun hgoes => absurd h hgoes, nofun, .nil, .nil, nofun⟩

/-- A line ends at an object without parent. The other lines end at an object whose parent is
missing or has been passed already. -/
theorem root (h : ¬w.Stops seen id) (hparent : w.parent? id = none) : w.Ascends seen id [id] where
  stops hstops := absurd hstops h
  starts _ := rfl
  goes := List.forall_mem_singleton.2 h
  linked := .singleton id
  nodup := List.nodup_singleton id
  ends j hj k hk := by
    obtain rfl : id = j := Option.some.inj hj
    rw [hparent] at hk
    cases hk

/-- **Above an object the line is the one of its parent**, without the object. The conditions are
shown one by one; that of the end is the only one that looks at both lines. -/
theorem cons (h : ¬w.Stops seen id) (hparent : w.parent? id = some parent)
    (hline : w.Ascends (id :: seen) parent line) : w.Ascends seen id (id :: line) where
  stops hstops := absurd hstops h
  starts _ := rfl
  goes := by
    -- what stops the walk with less seen stops it with `id` seen too
    refine List.forall_mem_cons.2 ⟨h, fun j hj hstops => hline.goes j hj ?_⟩
    exact hstops.imp_right (List.mem_cons_of_mem id)
  linked := by
    refine List.isChain_cons.2 ⟨fun k hk => ?_, hline.linked⟩
    -- what comes next is the parent, or nothing
    by_cases hstops : w.Stops (id :: seen) parent
    · rw [hline.stops hstops] at hk
      cases hk
    · rw [hline.starts hstops] at hk
      rwa [← Option.some.inj hk]
  nodup := by
    refine List.nodup_cons.2 ⟨fun hmem => ?_, hline.nodup⟩
    exact hline.goes id hmem (.inr List.mem_cons_self)
  ends j hj k hk hgoes := by
    by_cases hid : k = id
    · rw [hid]
      exact List.mem_cons_self
    · -- having seen `id` too makes no difference at `k`
      have hgoes' : ¬w.Stops (id :: seen) k := by
        rintro (hmissing | hmem)
        · exact hgoes (.inl hmissing)
        · exact hgoes (.inr (List.mem_of_ne_of_mem hid hmem))
      refine List.mem_cons_of_mem id ?_
      cases line with
      | nil =>
        -- the walk stopped at the parent, which is `k`
        obtain rfl : id = j := Option.some.inj hj
        obtain rfl : parent = k := Option.some.inj (hparent.symm.trans hk)
        cases hline.starts hgoes'
      | cons above rest =>
        rw [List.getLast?_cons_cons] at hj
        exact hline.ends j hj k hk hgoes'

/-- With nothing seen yet, this is the line of ancestors. The ids that have been seen are needed for
the induction only. -/
theorem isAncestry (h : w.Ascends [] id line) : w.IsAncestry id line where
  missing hmissing := h.stops (.inl hmissing)
  starts hid := h.starts (not_stops_iff.2 ⟨hid, List.not_mem_nil⟩)
  exist j hj := (not_stops_iff.1 (h.goes j hj)).1
  linked := h.linked
  nodup := h.nodup
  ends j hj k hk hexists := h.ends j hj k hk (not_stops_iff.2 ⟨hexists, List.not_mem_nil⟩)

end Ascends

/-- **There are no more ids in use than objects.** This bounds the walk: it can see as many objects
as there are. -/
theorem length_le_size {w : World} {ids : List ObjectId} (hnodup : ids.Nodup)
    (hexist : ∀ id ∈ ids, w.contains id = true) : ids.length ≤ w.objects.size := by
  have hsubset : ids ⊆ w.objects.keys := fun id hid => (w.objects.mem_keys id).2 (hexist id hid)
  exact (hnodup.length_le_of_subset hsubset).trans_eq (List.length_map _)

/-- **The walk takes the line** without the ids it has seen, if it may go on for as many steps as
there are objects it has not seen. The induction is on these steps; each of them sees one object
more, so that the sum of both stays. -/
theorem lineageFrom_ascends (hfiled : w.Filed) {fuel : Nat} {seen : List ObjectId} (id : ObjectId)
    (hnodup : seen.Nodup) (hexist : ∀ j ∈ seen, w.contains j = true)
    (hfuel : w.objects.size ≤ seen.length + fuel) :
    w.Ascends seen id (w.lineageFrom seen fuel id) := by
  induction fuel generalizing seen id with
  | zero =>
    -- everything there is has been seen
    refine .nil ?_
    by_contra hgoes
    obtain ⟨hid, hunseen⟩ := not_stops_iff.1 hgoes
    have hlength := length_le_size (List.nodup_cons.2 ⟨hunseen, hnodup⟩)
      (List.forall_mem_cons.2 ⟨hid, hexist⟩)
    rw [List.length_cons] at hlength
    omega
  | succ fuel ih =>
    unfold lineageFrom
    cases ho : w.object? id with
    | none => exact .nil (.inl (contains_eq_false ho))
    | some o =>
      have hid : w.contains id = true := contains_eq_true ho
      have hparent : w.parent? id = o.parent := parent?_eq ho
      -- the walk remembers the id an object has, which is the one it is filed under
      simp only [hfiled id o ho]
      by_cases hseen : id ∈ seen
      · rw [if_pos hseen]
        -- a loop ends the walk
        exact .nil (.inr hseen)
      · rw [if_neg hseen]
        have hgoes : ¬w.Stops seen id := not_stops_iff.2 ⟨hid, hseen⟩
        cases hnext : o.parent with
        -- the object has no parent, and the walk ends behind it
        | none => exact .root hgoes (hparent.trans hnext)
        | some parent =>
          refine .cons hgoes (hparent.trans hnext) ?_
          refine ih parent (List.nodup_cons.2 ⟨hseen, hnodup⟩)
            (List.forall_mem_cons.2 ⟨hid, hexist⟩) ?_
          rw [List.length_cons]
          omega

/-- **The walk up the parents takes the line of ancestors.** It begins with nothing seen and may go
on for as many steps as there are objects. -/
theorem lineage_isAncestry (hfiled : w.Filed) (id : ObjectId) :
    w.IsAncestry id (w.lineage id) := by
  refine (lineageFrom_ascends hfiled id .nil nofun ?_).isAncestry
  exact Nat.le_add_left _ _

/-! ### Looking up along the line -/

/-- A property that is set on the object itself, and not one that it inherits. -/
def ownProp? (w : World) (name : String) (id : ObjectId) : Option Value :=
  (w.object? id).bind (·.props.get? name)

/-- A verb that is defined on the object itself, and not one that it inherits. -/
def ownVerb? (w : World) (name : String) (id : ObjectId) : Option String :=
  (w.object? id).bind (·.verbs.get? name)

/-- The first of the ids on a line that has anything of its `own` has `a`. What those behind it have
plays no part. -/
def Nearest {α : Type} (own : ObjectId → Option α) (line : List ObjectId) (a : α) : Prop :=
  ∃ nearer j farther, line = nearer ++ j :: farther ∧ own j = some a ∧ ∀ k ∈ nearer, own k = none

/-- The answer is the nearest definition on the line of `id`, or says that there is no such object,
or has the fault `absent`, which says that there is no definition. -/
structure Inherits {α : Type} (w : World) (id : ObjectId) (line : List ObjectId)
    (own : ObjectId → Option α) (absent : Fault) (answer : Except Fault α) : Prop where
  missing : answer = .error (.objectNotFound id) ↔ w.contains id = false
  found : ∀ a, answer = .ok a ↔ Nearest own line a
  undefined : answer = .error absent ↔ w.contains id = true ∧ ∀ j ∈ line, own j = none

/-- The answer to a lookup: what has been found, or the fault `absent`. The two lookups differ only
in this fault and in where they look. -/
def given {α : Type} (absent : Fault) : Option α → Except Fault α
  | some a => .ok a
  | none => .error absent

/-- An answer is given if something was found. What was found is the answer. -/
theorem given_eq_ok_iff {α : Type} {absent : Fault} {found : Option α} {a : α} :
    given absent found = .ok a ↔ found = some a := by
  cases found with
  | none => exact ⟨nofun, nofun⟩
  | some b => exact ⟨fun h => congrArg some (Except.ok.inj h), fun h => congrArg Except.ok
      (Option.some.inj h)⟩

/-- The fault is given if nothing was. -/
theorem given_eq_error_iff {α : Type} {absent fault : Fault} {found : Option α} :
    given absent found = .error fault ↔ found = none ∧ absent = fault := by
  cases found with
  | none => exact ⟨fun h => ⟨rfl, Except.error.inj h⟩, fun h => congrArg Except.error h.2⟩
  | some b => exact ⟨nofun, nofun⟩

/-- To search what the items of a list have is to search the items for what they have. The items are
the ids on a line of ancestors, and what they have are objects, if any. -/
theorem findSome?_filterMap {α β γ : Type} (f : α → Option β) (g : β → Option γ) (l : List α) :
    (l.filterMap f).findSome? g = l.findSome? fun a => (f a).bind g := by
  induction l with
  | nil => rfl
  | cons a l ih =>
    rw [List.findSome?_cons]
    cases ha : f a with
    | none =>
      rw [List.filterMap_cons_none ha, ih]
      rfl
    | some b =>
      rw [List.filterMap_cons_some ha, List.findSome?_cons, ih]
      rfl

/-- An object that does not exist inherits nothing, and the lookup says so. No ancestor is looked
at. -/
theorem inherited_of_missing {α : Type} {id : ObjectId} (h : w.contains id = false)
    (probe : Object → Option α) : w.inherited id probe = .error (.objectNotFound id) := by
  unfold inherited
  rw [object?_of_missing h]

/-- What an object inherits is the first thing found on its line. The walk of the world meets the
objects of the line, and there is no other line. -/
theorem inherited_eq {α : Type} {id : ObjectId} {line : List ObjectId} (hfiled : w.Filed)
    (hline : w.IsAncestry id line) (hid : w.contains id = true) (probe : Object → Option α) :
    w.inherited id probe = .ok (line.findSome? fun j => (w.object? j).bind probe) := by
  obtain ⟨o, ho⟩ := exists_object hid
  obtain rfl : w.lineage id = line := hline.eq (lineage_isAncestry hfiled id)
  have hchain : w.chain o = (w.lineage id).filterMap w.object? := chain_eq_lineage ho
  unfold inherited
  rw [ho]
  dsimp only
  rw [hchain, findSome?_filterMap]

/-- **What is inherited is the nearest definition on the line.** It is shown once for whatever is
looked up, by a function of the object that says what the object has itself. -/
theorem inherits_of_inherited {α : Type} {id : ObjectId} {line : List ObjectId}
    (hfiled : w.Filed) (hline : w.IsAncestry id line) (probe : Object → Option α) {absent : Fault}
    (habsent : absent ≠ .objectNotFound id) :
    w.Inherits id line (fun j => (w.object? j).bind probe) absent
      (w.inherited id probe >>= given absent) := by
  cases hid : w.contains id with
  | false =>
    -- there is no object and no line, and the lookup says so
    have hnil : line = [] := hline.missing hid
    rw [inherited_of_missing hid]
    refine ⟨⟨fun _ => hid, fun _ => rfl⟩, fun a => ⟨nofun, ?_⟩, ⟨fun h => ?_, ?_⟩⟩
    · rintro ⟨nearer, j, farther, hsplit, -⟩
      rw [hnil] at hsplit
      cases List.append_eq_nil_iff.1 hsplit.symm |>.2
    · exact absurd (Except.error.inj h).symm habsent
    · rintro ⟨hexists, -⟩
      rw [hid] at hexists
      cases hexists
  | true =>
    rw [inherited_eq hfiled hline hid]
    change w.Inherits id _ _ _ (given absent _)
    refine ⟨⟨fun h => ?_, fun h => ?_⟩, fun a => ?_, ?_⟩
    · -- the object exists, so its absence is not what is reported
      exact absurd (given_eq_error_iff.1 h).2 habsent
    · rw [hid] at h
      cases h
    · -- a search finds the first of the ids that has something
      rw [given_eq_ok_iff]
      exact List.findSome?_eq_some_iff
    · -- and it fails if none of them has
      rw [given_eq_error_iff, List.findSome?_eq_none_iff, hid]
      exact ⟨fun h => ⟨rfl, h.1⟩, fun h => ⟨h.2, rfl⟩⟩

/-- There are two read-only properties. -/
theorem isReadOnly_eq_false_iff {name : String} :
    isReadOnly name = false ↔ name ≠ verbsName ∧ name ≠ createdName :=
  decide_eq_false_iff_not.trans not_or

/-- Any other property is read as it is inherited. The missing object and the missing property are
faults of different kinds, and the search tells them apart in the same order. -/
theorem readProp_eq_inherited (w : World) (id : ObjectId) {name : String}
    (hname : isReadOnly name = false) :
    w.readProp id name = w.inherited id (·.props.get? name) >>= given (.propNotFound name) := by
  obtain ⟨hverbs, hcreated⟩ := isReadOnly_eq_false_iff.1 hname
  unfold readProp
  cases ho : w.object? id with
  | none =>
    rw [inherited_of_missing (contains_eq_false ho)]
    rfl
  | some o =>
    dsimp only
    rw [if_neg hverbs, if_neg hcreated]
    congr 1
    funext found
    cases found <;> rfl

/-- A verb is always looked up as it is inherited. Unlike properties, verbs have no names that are
reserved. -/
theorem findVerb_eq_inherited (w : World) (id : ObjectId) (name : String) :
    w.findVerb id name = w.inherited id (·.verbs.get? name) >>= given (.verbNotFound name) := by
  unfold findVerb
  congr 1
  funext found
  cases found <;> rfl

/-- **A property reads as its nearest definition.** Read-only names are left out, since they are
answered without a lookup. -/
theorem readProp_inherits {id : ObjectId} {line : List ObjectId} (hfiled : w.Filed)
    (hline : w.IsAncestry id line) {name : String} (hname : isReadOnly name = false) :
    w.Inherits id line (w.ownProp? name) (.propNotFound name) (w.readProp id name) := by
  rw [readProp_eq_inherited w id hname]
  exact inherits_of_inherited hfiled hline (·.props.get? name) nofun

/-- **A verb is looked up at its nearest definition**, under any name. The line is the one along
which properties are inherited too. -/
theorem findVerb_inherits {id : ObjectId} {line : List ObjectId} (hfiled : w.Filed)
    (hline : w.IsAncestry id line) (name : String) :
    w.Inherits id line (w.ownVerb? name) (.verbNotFound name) (w.findVerb id name) := by
  rw [findVerb_eq_inherited]
  exact inherits_of_inherited hfiled hline (·.verbs.get? name) nofun

/-- The read-only properties of an object do not depend on what it has or inherits. They are found
first, so a property of such a name would never be read. -/
theorem readProp_readOnly {id : ObjectId} {o : Object} (h : w.object? id = some o) :
    w.readProp id "_created" = .ok (.number (.ofNat o.created.toNat)) ∧
      w.readProp id "_verbs" = .ok .null := by
  have hne : ("_created" : String) ≠ verbsName := by decide
  unfold readProp
  rw [h]
  exact ⟨(if_neg hne).trans (if_pos rfl), if_pos rfl⟩

end World

namespace Store

/-! ### Stores that come about -/

/-- The stores that come about from an empty one by operations, and by reading back what has been
written. Lengths that can be written have four bytes. -/
inductive Reachable : Store → Prop where
  | seeded (seed : UInt64) : Reachable (ofSeed seed)
  | performed {s : Store} (before : Reachable s) {α : Type} (op : Operation α) :
    Reachable (s.perform op).1
  | reloaded {s s' : Store} (before : Reachable s) (measured : s.world.Measured)
    (loads : ofBytes? s.toBytes = some s') : Reachable s'

/-- An operation leaves objects filed under their ids: what is misfiled afterwards was misfiled
before. -/
theorem perform_filed {s : Store} (h : s.world.Filed) {α : Type} (op : Operation α) :
    (s.perform op).1.world.Filed := by
  intro id o ho
  rcases World.id_eq_or_misfiles ho with hid | hmisfiled
  · exact hid
  · -- an object under a wrong id would have been there before
    obtain ⟨o', ho', hown, hne⟩ := perform_misfiles op hmisfiled
    exact absurd (hown.symm.trans (h id o' ho')) hne

/-- **Objects are filed under their ids** in every store that comes about. The empty one has none,
and no operation misfiles an object. -/
theorem Reachable.filed {s : Store} (h : s.Reachable) : s.world.Filed := by
  induction h with
  | seeded seed => exact nofun
  | performed _ op ih => exact perform_filed ih op
  | reloaded _ measured loads ih =>
    -- what is read back has the world that was written
    rw [eq_of_ofBytes?_toBytes measured loads]
    exact ih

/-- **Inheritance.** In a store that has come about, every id has exactly one line of ancestors, and
every property that is not read-only and every verb is found at the nearest of them that has it. The
two read-only properties are not inherited, whatever the object and its ancestors have. -/
theorem inherits_nearest {s : Store} (h : s.Reachable) (id : ObjectId) :
    ∃ line, s.world.IsAncestry id line ∧
      (∀ line', s.world.IsAncestry id line' → line' = line) ∧
      (∀ name, name ≠ "_verbs" → name ≠ "_created" →
        s.world.Inherits id line (s.world.ownProp? name) (.propNotFound name)
          (s.world.readProp id name)) ∧
      (∀ name, s.world.Inherits id line (s.world.ownVerb? name) (.verbNotFound name)
          (s.world.findVerb id name)) ∧
      ∀ o, s.world.object? id = some o →
        s.world.readProp id "_created" = .ok (.number (.ofNat o.created.toNat)) ∧
        s.world.readProp id "_verbs" = .ok .null := by
  have hline := World.lineage_isAncestry h.filed id
  refine ⟨s.world.lineage id, hline, fun line' hline' => hline.eq hline', ?_, ?_, ?_⟩
  · -- the line is the one that the walk takes, and both lookups go along it
    intro name hverbs hcreated
    exact World.readProp_inherits h.filed hline
      (World.isReadOnly_eq_false_iff.2 ⟨hverbs, hcreated⟩)
  · intro name
    exact World.findVerb_inherits h.filed hline name
  · intro o ho
    exact World.readProp_readOnly ho

/-- Two rooms that are each other's parent. Nothing in the world forbids this, and the walk from
either of them ends at the other one. -/
def mirrors : Store :=
  let left : Object := { id := ⟨1⟩, parent := some ⟨2⟩ }
  let right : Object := {
    id := ⟨2⟩
    parent := some ⟨1⟩
    created := 5
    props := Table.empty.insert "color" (.str "red") }
  (((ofSeed 0).perform (.insert left)).1.perform (.insert right)).1

/-- Both rooms can be written: their names and values are short enough. So the world can be loaded
from its own bytes. -/
theorem mirrors_storable : mirrors.world.Storable := by
  have hrooms : ∀ b ∈ mirrors.world.objects.toList, b.2.Storable := by
    refine List.forall_mem_cons.2 ⟨⟨by decide, nofun, nofun, by decide, nofun, nofun⟩, ?_⟩
    refine List.forall_mem_singleton.2 ⟨by decide, ?_, ?_, by decide, nofun, nofun⟩
    · exact List.forall_mem_singleton.2 (by decide)
    · exact List.forall_mem_singleton.2 (.str (by decide))
  exact ⟨by decide, hrooms, by decide, nofun⟩

/-- They can be made, and they can be written and read back. -/
theorem mirrors_reachable : mirrors.Reachable := by
  have hmade : mirrors.Reachable := .performed (.performed (.seeded 0) _) _
  exact .reloaded hmade mirrors_storable.measured (ofBytes?_toBytes (by decide) mirrors_storable)

/-- Each of the rooms has the other one as its only ancestor. -/
theorem mirrors_isAncestry :
    mirrors.world.IsAncestry ⟨1⟩ [⟨1⟩, ⟨2⟩] ∧ mirrors.world.IsAncestry ⟨2⟩ [⟨2⟩, ⟨1⟩] := by
  have hfiled := mirrors_reachable.filed
  have hleft : mirrors.world.lineage ⟨1⟩ = [⟨1⟩, ⟨2⟩] := by rfl
  have hright : mirrors.world.lineage ⟨2⟩ = [⟨2⟩, ⟨1⟩] := by rfl
  rw [← hleft, ← hright]
  exact ⟨World.lineage_isAncestry hfiled ⟨1⟩, World.lineage_isAncestry hfiled ⟨2⟩⟩

/-- The color of the second room is inherited by the first one, its time of creation is not. -/
theorem mirrors_inherit :
    mirrors.Reachable ∧ mirrors.world.readProp ⟨1⟩ "color" = .ok (.str "red") ∧
      mirrors.world.readProp ⟨1⟩ "_created" = .ok (.number (.ofNat 0)) := by
  obtain ⟨line, -, hunique, hread, -, hreadOnly⟩ := inherits_nearest mirrors_reachable ⟨1⟩
  -- the line is known, because there is only one
  have hline : line = [⟨1⟩, ⟨2⟩] := (hunique _ mirrors_isAncestry.1).symm
  have hcolor := (hread "color" (by decide) (by decide)).found (.str "red")
  refine ⟨mirrors_reachable, hcolor.2 ?_, (hreadOnly _ rfl).1⟩
  -- the first room has no color of its own, and the second one has
  exact ⟨[⟨1⟩], ⟨2⟩, [], hline, rfl, List.forall_mem_singleton.2 rfl⟩

end Store

end VerbScript
