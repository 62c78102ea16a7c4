import VerbScript.Proofs.WorldWrites

/-!
# Snapshots are canonical

The bytes of a store depend on what can be looked up in it, and not on how it came about. Every
table of a store keeps its entries in key order, so a table is its lookups (`Table.ext_get?`), and
from the tables up, two stores that answer every lookup alike are the same store.

* `Object.Alike`, `World.Alike`, `Store.Alike` — the same answers to every lookup; the `eq` of each
  says that nothing else is left to differ.
* `World.Write.Visible` — what can be looked up after a write.
* `Store.toBytes_canonical` — stores that are alike have the same bytes; writes that are apart may
  come in either order; of two writes to one place only the later is visible.
-/

namespace VerbScript

/-! ### Looking alike -/

/-- Objects with the same id, parent and time, and the same under every name. This is all that can
be asked of an object one lookup at a time; nothing is said of the order in which it was filled. -/
structure Object.Alike (o o' : Object) : Prop where
  id : o.id = o'.id
  parent : o.parent = o'.parent
  created : o.created = o'.created
  props : ∀ name, o.props.get? name = o'.props.get? name
  verbs : ∀ name, o.verbs.get? name = o'.verbs.get? name

/-- Nothing is left in which two such objects could differ: their tables are their lookups. -/
theorem Object.Alike.eq {o o' : Object} (h : o.Alike o') : o = o' := by
  cases o
  cases o'
  rw [Object.mk.injEq]
  exact ⟨h.id, h.parent, h.created, Table.ext_get? h.props, Table.ext_get? h.verbs⟩

/-- Worlds with objects that are alike under every id, and the same targets of every alias. What is
filed where is all that a world has. -/
structure World.Alike (w w' : World) : Prop where
  objects : ∀ id, Option.Rel Object.Alike (w.object? id) (w'.object? id)
  aliases : ∀ name, w.alias? name = w'.alias? name

/-- So it is with worlds, whose objects are alike under every id. Tables with the same entries are
the same table, and this is why the bytes of a world do not tell in which order it was built. -/
theorem World.Alike.eq {w w' : World} (h : w.Alike w') : w = w' := by
  have hobject : ∀ id, w.object? id = w'.object? id := by
    intro id
    have hid := h.objects id
    generalize w.object? id = found at hid ⊢
    generalize w'.object? id = found' at hid ⊢
    -- what is found under the id is taken as a value of its own, so that alikeness can be split
    -- there is an object under an id in both worlds or in neither
    cases hid with
    | some halike => rw [halike.eq]
    | none => rfl
  cases w
  cases w'
  rw [World.mk.injEq]
  exact ⟨Table.ext_get? hobject, Table.ext_get? h.aliases⟩

/-- Stores with the same seed, at the same position, with worlds that are alike. Two such stores may
have come about by different histories. -/
structure Store.Alike (s t : Store) : Prop where
  seed : s.stream.seed = t.stream.seed
  position : s.stream.position = t.stream.position
  world : s.world.Alike t.world

/-- And with stores. -/
theorem Store.Alike.eq {s t : Store} (h : s.Alike t) : s = t := by
  obtain ⟨world, ⟨seed, position⟩⟩ := s
  obtain ⟨world', ⟨seed', position'⟩⟩ := t
  obtain rfl : seed = seed' := h.seed
  obtain rfl : position = position' := h.position
  obtain rfl : world = world' := h.world.eq
  rfl

/-! ### What is seen of a write -/

/-- The object has the part as it was written. Read-only properties are never written, so of these
there is nothing to be seen. -/
def Object.Edit.Visible (o : Object) : Object.Edit → Prop
  | prop name value => World.isReadOnly name = true ∨ o.props.get? name = some value
  | verb name source => o.verbs.get? name = some source
  | parent id => o.parent = id

/-- An edit can be seen on the object it was made on. One of a read-only property changes nothing,
and there is nothing to be seen of it. -/
theorem Object.Edit.visible_apply (e : Object.Edit) (o : Object) : e.Visible (e.apply o) := by
  cases e with
  | prop name value =>
    by_cases hname : World.isReadOnly name = true
    · -- of a write to a read-only name nothing has to be seen
      exact .inl hname
    · right
      simp only [apply, if_neg hname]
      exact Table.get?_insert_self _ _ _
  | verb name source => exact Table.get?_insert_self _ _ _
  | parent id => rfl

/-- The world has at the site of the write what was written. -/
def World.Write.Visible (w : World) : World.Write → Prop
  | edit id e => ∃ o, w.object? id = some o ∧ e.Visible o
  | naming name id => w.alias? name = some id
  | insert o => w.object? o.id = some o

/-- **A write can be seen** right after it was made. So the theorem below cannot hold for the reason
that writes do nothing. -/
theorem World.Writes.visible {w w' : World} {x : World.Write} (h : w.Writes x w') :
    x.Visible w' := by
  cases h with
  | @edit id o e hfound => exact ⟨_, object?_put_self w id _, e.visible_apply o⟩
  | naming name id => exact Table.get?_insert_self _ _ _
  | insert o => exact object?_put_self w _ o

/-! ### Stores and their bytes -/

namespace Store

/-- The store after a write to its world. -/
def write (s : Store) (x : World.Write) : Except Fault Store :=
  (s.world.write x).map fun world => { s with world }

/-- A write to a store is a write to its world, and leaves the stream of ids alone. The position in
the stream is part of the bytes, so this is needed to compare them. -/
theorem write_eq_ok_iff {s t : Store} {x : World.Write} :
    s.write x = .ok t ↔ s.world.Writes x t.world ∧ t.stream = s.stream := by
  rw [← World.write_eq_ok_iff]
  unfold write
  cases s.world.write x with
  | error fault =>
    constructor
    · exact nofun
    · rintro ⟨h, -⟩
      cases h
  | ok world =>
    constructor
    · intro h
      cases h
      exact ⟨rfl, rfl⟩
    · rintro ⟨h, hstream⟩
      cases h
      rw [← hstream]
      rfl

/-- **Snapshots are canonical.** Stores that answer every lookup alike have the same bytes. Two
writes that are apart can be made in either order, with the same bytes at the end. Of two writes the
second of which covers the first, the bytes show the second only, and it can be seen. -/
theorem toBytes_canonical :
    (∀ s t : Store, s.Alike t → s.toBytes = t.toBytes) ∧
    (∀ (s s₁ s₂ : Store) (a b : World.Write), a.site.Apart b.site →
      s.write a = .ok s₁ → s₁.write b = .ok s₂ →
      ∃ t₁ t₂, s.write b = .ok t₁ ∧ t₁.write a = .ok t₂ ∧ t₂.toBytes = s₂.toBytes) ∧
    (∀ (s s₁ s₂ : Store) (a b : World.Write), b.site.Covers a.site →
      s.write a = .ok s₁ → s₁.write b = .ok s₂ →
      b.Visible s₂.world ∧ ∃ t, s.write b = .ok t ∧ t.toBytes = s₂.toBytes) := by
  refine ⟨?_, ?_, ?_⟩
  · intro s t halike
    rw [halike.eq]
  · -- after the exchange the store is the same one, down to its tables
    intro s s₁ s₂ a b hapart ha hb
    obtain ⟨ha, hstream₁⟩ := write_eq_ok_iff.1 ha
    obtain ⟨hb, hstream₂⟩ := write_eq_ok_iff.1 hb
    obtain ⟨v, hb', ha'⟩ := World.Writes.comm hapart ha hb
    have hstream : s₂.stream = s.stream := hstream₂.trans hstream₁
    exact ⟨{ s with world := v }, s₂, write_eq_ok_iff.2 ⟨hb', rfl⟩,
      write_eq_ok_iff.2 ⟨ha', hstream⟩, rfl⟩
  · intro s s₁ s₂ a b hcovers ha hb
    obtain ⟨ha, hstream₁⟩ := write_eq_ok_iff.1 ha
    obtain ⟨hb, hstream₂⟩ := write_eq_ok_iff.1 hb
    have hstream : s₂.stream = s.stream := hstream₂.trans hstream₁
    exact ⟨hb.visible, s₂, write_eq_ok_iff.2 ⟨World.Writes.absorb hcovers ha hb, hstream⟩, rfl⟩

/-- Two rooms come into the world in either order. One of them gets a property and a verb, in either
order, and the property is then written once more. -/
theorem rooms_canonical :
    let hall : Object := { id := ⟨7⟩ }
    let yard : Object := { id := ⟨9⟩, parent := some ⟨7⟩ }
    let s : Store := { world := ((World.insert {} hall).1.insert yard).1, stream := { seed := 42 } }
    let t : Store := { world := ((World.insert {} yard).1.insert hall).1, stream := { seed := 42 } }
    let size : World.Write := .edit ⟨7⟩ (.prop "size" (.number ⟨0x7FF8000000000001⟩))
    let look : World.Write := .edit ⟨7⟩ (.verb "look" "say $this")
    let resize : World.Write := .edit ⟨7⟩ (.prop "size" .null)
    s.Alike t ∧ s.toBytes = t.toBytes ∧
      ∃ sized looked, s.write size = .ok sized ∧ sized.write look = .ok looked ∧
        (∃ t₁ t₂, s.write look = .ok t₁ ∧ t₁.write size = .ok t₂ ∧ t₂.toBytes = looked.toBytes) ∧
        ∃ resized, sized.write resize = .ok resized ∧ resize.Visible resized.world ∧
          ∃ t₁, s.write resize = .ok t₁ ∧ t₁.toBytes = resized.toBytes := by
  intro hall yard s t size look resize
  -- the order in which the rooms came leaves no trace in the table of objects
  have hst : s = t := by
    change Store.mk ((World.put {} ⟨7⟩ hall).put ⟨9⟩ yard) _ = _
    rw [World.put_comm _ (by decide)]
    rfl
  have halike : s.Alike t := by
    rw [hst]
    refine ⟨rfl, rfl, ⟨fun id => ?_, fun name => rfl⟩⟩
    cases t.world.object? id with
    | none => exact .none
    | some o => exact .some ⟨rfl, rfl, rfl, fun _ => rfl, fun _ => rfl⟩
  have hapart : size.site.Apart look.site := ⟨nofun, nofun⟩
  have hcovers : resize.site.Covers size.site := rfl
  obtain ⟨hsame, hcomm, habsorb⟩ := toBytes_canonical
  refine ⟨halike, hsame s t halike, _, _, rfl, rfl, ?_, _, rfl, ?_⟩
  · exact hcomm s _ _ size look hapart rfl rfl
  · exact habsorb s _ _ size resize hcovers rfl rfl

end Store

end VerbScript
