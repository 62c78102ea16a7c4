import VerbScript.Proofs.SnapshotRoundTrip
import VerbScript.Proofs.TableLaws
import VerbScript.Proofs.WorldAnswers

/-!
# Writes to a world

Everything that changes a world is a `World.Write`: an edit of one part of an object that exists, a
new name for an object, or an object that is put in the place of whatever had its id. A write has a
`Site`, and sites are all that has to be known of two writes to tell how they interact.

* `World.Writes` — what each write does, with the condition under which it succeeds.
* `World.Writes.comm` — writes whose sites are apart may be exchanged.
* `World.Writes.absorb` — a write to a site that covers an earlier one makes it invisible.
* `Store.perform_writes` — an operation on a store changes its world by one write or not at all.
-/

namespace VerbScript

/-! ### Edits of an object -/

namespace Object

/-- A part of an object that can be changed by itself: one property, one verb, or the parent. Its id
and the time of its creation are no parts, because nothing changes them. -/
inductive Part where
  | prop (name : String)
  | verb (name : String)
  | parent
deriving DecidableEq

/-- A change of one part of an object, with what is put there. No edit removes a property or a
verb. -/
inductive Edit where
  | prop (name : String) (value : Value)
  | verb (name source : String)
  | parent (id : Option ObjectId)

namespace Edit

/-- The part that is changed. Two edits of one object with different parts do not touch each
other. -/
def part : Edit → Part
  | prop name _ => .prop name
  | verb name _ => .verb name
  | parent _ => .parent

/-- The object after the change; read-only properties are left alone, as if nothing had been
written. -/
def apply : Edit → Object → Object
  | prop name value, o =>
    if World.isReadOnly name then o else { o with props := o.props.insert name value }
  | verb name source, o => { o with verbs := o.verbs.insert name source }
  | parent id, o => { o with parent := id }

/-- No edit changes the id. So an object stays filed where it was, whatever is written to it. -/
theorem apply_id (e : Edit) (o : Object) : (e.apply o).id = o.id := by
  cases e with
  | prop name value =>
    simp only [apply]
    split <;> rfl
  | verb name source => rfl
  | parent id => rfl

/-- **Edits of different parts may be exchanged.** Two properties or two verbs of different names
are different parts; that they may be exchanged is due to the tables, which do not keep the order of
insertion. -/
theorem apply_comm {e e' : Edit} (h : e.part ≠ e'.part) (o : Object) :
    e'.apply (e.apply o) = e.apply (e'.apply o) := by
  cases e with
  | prop name value =>
    cases e' with
    | prop name' value' =>
      -- two properties have different names, if they are different parts
      have hname : name ≠ name' := fun heq => h (congrArg Part.prop heq)
      simp only [apply]
      split
      · rfl
      · split
        · rfl
        · rw [Table.insert_comm _ hname]
    | verb name' source => simp only [apply]; split <;> rfl
    | parent id => simp only [apply]; split <;> rfl
  | verb name source =>
    cases e' with
    | prop name' value => simp only [apply]; split <;> rfl
    | verb name' source' =>
      have hname : name ≠ name' := fun heq => h (congrArg Part.verb heq)
      simp only [apply]
      rw [Table.insert_comm _ hname]
    | parent id => rfl
  | parent id =>
    cases e' with
    | prop name value => simp only [apply]; split <;> rfl
    | verb name source => rfl
    | parent id' => exact absurd rfl h

/-- **Of two edits of one part the later counts.** Nothing is left of the earlier one, so it might
as well not have been made. -/
theorem apply_absorb {e e' : Edit} (h : e.part = e'.part) (o : Object) :
    e'.apply (e.apply o) = e'.apply o := by
  cases e with
  | prop name value =>
    cases e' with
    | prop name' value' =>
      obtain rfl : name = name' := by injection h
      simp only [apply]
      -- a read-only property is left alone by both edits
      split
      · rfl
      · rw [Table.insert_insert]
    | verb name' source => cases h
    | parent id => cases h
  | verb name source =>
    cases e' with
    | prop name' value => cases h
    | verb name' source' =>
      obtain rfl : name = name' := by injection h
      simp only [apply]
      rw [Table.insert_insert]
    | parent id => cases h
  | parent id =>
    cases e' with
    | prop name value => cases h
    | verb name source => cases h
    | parent id' => rfl

end Edit

end Object

namespace World

/-! ### Writes and their sites -/

/-- Something that is written to a world: an edit of an object, a name for one, or a whole
object. -/
inductive Write where
  | edit (id : ObjectId) (e : Object.Edit)
  | naming (name : String) (id : ObjectId)
  | insert (o : Object)

/-- The place of a world that a write goes to. An object is a place of its own beside its parts,
since a whole object replaces all of them. -/
inductive Site where
  | part (id : ObjectId) (p : Object.Part)
  | object (id : ObjectId)
  | name (name : String)
deriving DecidableEq

/-- The site of a write. It says where the write goes, and not what is written. -/
def Write.site : Write → Site
  | edit id e => .part id e.part
  | naming name _ => .name name
  | insert o => .object o.id

/-- The parts of an object belong to its site. Any other site belongs to itself only. A write to a
site takes away what was written to the sites that belong to it. -/
def Site.Covers : Site → Site → Prop
  | .object id, .part id' _ => id = id'
  | a, b => a = b

/-- Neither site belongs to the other. Two parts of one object are apart, but a part and its object
are not. -/
def Site.Apart (a b : Site) : Prop := ¬a.Covers b ∧ ¬b.Covers a

/-- The world after a write. An edit of an object that does not exist fails, and nothing else
does. -/
def write (w : World) : Write → Except Fault World
  | .edit id (.prop name value) => w.writeProp id name value
  | .edit id (.verb name source) => w.setVerb id name source
  | .edit id (.parent parent) => w.setParent id parent
  | .naming name id => .ok (w.setAlias name id)
  | .insert o => .ok (w.insert o).1

/-- Files an object under an id, whatever id the object has itself, and whatever was filed there. -/
def put (w : World) (id : ObjectId) (o : Object) : World :=
  { w with objects := w.objects.insert id o }

variable {w w₁ w₂ : World} {a b : Write}

/-- Under the id there is the object that was put there, and under any other one what was there
before. -/
theorem object?_put (w : World) (id j : ObjectId) (o : Object) :
    (w.put id o).object? j = if j = id then some o else w.object? j := Table.get?_insert _ _ _ _

/-- The object that was put under an id is found there. -/
theorem object?_put_self (w : World) (id : ObjectId) (o : Object) :
    (w.put id o).object? id = some o := Table.get?_insert_self _ _ _

/-- Under any other id the same object is found as before. -/
theorem object?_put_of_ne (w : World) {id j : ObjectId} (o : Object) (h : j ≠ id) :
    (w.put id o).object? j = w.object? j := Table.get?_insert_of_ne _ _ h

/-- Of two objects under one id the later counts. The earlier one leaves no trace in the table. -/
theorem put_put (w : World) (id : ObjectId) (o o' : Object) :
    (w.put id o).put id o' = w.put id o' := by
  unfold put
  dsimp only
  rw [Table.insert_insert]

/-- Objects under different ids may be put there in any order. The table is the same, and so are its
bytes. -/
theorem put_comm (w : World) {id j : ObjectId} (h : id ≠ j) (o o' : Object) :
    (w.put id o).put j o' = (w.put j o').put id o := by
  unfold put
  dsimp only
  rw [Table.insert_comm _ h]

/-- Of two objects with one name the later counts. The object that had the name before stays,
without it. -/
theorem setAlias_setAlias (w : World) (name : String) (id id' : ObjectId) :
    (w.setAlias name id).setAlias name id' = w.setAlias name id' := by
  unfold setAlias
  dsimp only
  rw [Table.insert_insert]

/-- Different names may be given in any order. They may be names of the same object. -/
theorem setAlias_comm (w : World) {name name' : String} (h : name ≠ name') (id id' : ObjectId) :
    (w.setAlias name id).setAlias name' id' = (w.setAlias name' id').setAlias name id := by
  unfold setAlias
  dsimp only
  rw [Table.insert_comm _ h]

/-- **What a write does**: an edit needs its object, everything else succeeds. What has been edited
is filed under the same id again. -/
inductive Writes (w : World) : Write → World → Prop where
  | edit {id : ObjectId} {o : Object} (e : Object.Edit) (found : w.object? id = some o) :
      Writes w (.edit id e) (w.put id (e.apply o))
  | naming (name : String) (id : ObjectId) : Writes w (.naming name id) (w.setAlias name id)
  | insert (o : Object) : Writes w (.insert o) (w.put o.id o)

/-- An edit is written by changing its object. -/
theorem write_edit (w : World) (id : ObjectId) (e : Object.Edit) :
    w.write (.edit id e) = w.change id e.apply := by
  cases e <;> rfl

/-- **A write that succeeds** does what `World.Writes` says, and what that says succeeds. From here
on writes are taken apart by the cases of `World.Writes`, and the operations are not opened
again. -/
theorem write_eq_ok_iff {x : Write} {w' : World} : w.write x = .ok w' ↔ w.Writes x w' := by
  cases x with
  | edit id e =>
    rw [write_edit]
    unfold change
    constructor
    · intro h
      cases ho : w.object? id with
      -- without its object an edit fails
      | none =>
        rw [ho] at h
        cases h
      | some o =>
        rw [ho] at h
        cases h
        exact .edit e ho
    · rintro ⟨_, hfound⟩
      rw [hfound]
      rfl
  | naming name id =>
    constructor
    · intro h
      cases h
      exact .naming name id
    · intro h
      cases h
      rfl
  | insert o =>
    constructor
    · intro h
      cases h
      exact .insert o
    · intro h
      cases h
      rfl

namespace Writes

/-- **Writes that are apart may be exchanged.** The cases are the two writes, so it is decided for
each pair why they are apart. -/
theorem comm (h : a.site.Apart b.site) (ha : w.Writes a w₁) (hb : w₁.Writes b w₂) :
    ∃ v, w.Writes b v ∧ v.Writes a w₂ := by
  cases ha with
  | @edit id o e hfound =>
    cases hb with
    | @edit j o' e' hfound' =>
      by_cases hid : j = id
      · -- both edit one object, in different parts of it
        subst hid
        have hpart : e.part ≠ e'.part := fun heq => h.1 (congrArg (Site.part j) heq)
        rw [object?_put_self] at hfound'
        cases hfound'
        have hlast := Writes.edit e (object?_put_self w j (e'.apply o))
        rw [put_put] at hlast
        rw [put_put, Object.Edit.apply_comm hpart]
        exact ⟨_, .edit e' hfound, hlast⟩
      · -- different objects: neither write changes what the other one finds
        rw [object?_put_of_ne _ _ hid] at hfound'
        refine ⟨_, .edit e' hfound', ?_⟩
        rw [put_comm _ (Ne.symm hid)]
        exact .edit e ((object?_put_of_ne _ _ (Ne.symm hid)).trans hfound)
    | naming name j => exact ⟨_, .naming name j, .edit e hfound⟩
    | insert o' =>
      -- an object in place of the edited one would cover the edit
      have hid : o'.id ≠ id := h.2
      refine ⟨_, .insert o', ?_⟩
      rw [put_comm _ (Ne.symm hid)]
      exact .edit e ((object?_put_of_ne _ _ (Ne.symm hid)).trans hfound)
  | naming name id =>
    cases hb with
    | edit e' hfound' => exact ⟨_, .edit e' hfound', .naming name id⟩
    | naming name' id' =>
      have hname : name ≠ name' := fun heq => h.1 (congrArg Site.name heq)
      refine ⟨_, .naming name' id', ?_⟩
      rw [setAlias_comm _ hname]
      exact .naming name id
    | insert o' => exact ⟨_, .insert o', .naming name id⟩
  | insert o =>
    cases hb with
    | @edit j o' e' hfound' =>
      -- the edited object is not the one that was put in, so it was there before
      have hid : o.id ≠ j := h.1
      rw [object?_put_of_ne _ _ (Ne.symm hid)] at hfound'
      refine ⟨_, .edit e' hfound', ?_⟩
      rw [put_comm _ hid]
      exact .insert o
    | naming name id => exact ⟨_, .naming name id, .insert o⟩
    | insert o' =>
      have hid : o.id ≠ o'.id := fun heq => h.1 (congrArg Site.object heq)
      refine ⟨_, .insert o', ?_⟩
      rw [put_comm _ hid]
      exact .insert o

/-- **A write to a site that covers an earlier one makes it invisible**: the later write alone has
the same result. The cases begin with the later write, since it says what it covers. -/
theorem absorb (h : b.site.Covers a.site) (ha : w.Writes a w₁) (hb : w₁.Writes b w₂) :
    w.Writes b w₂ := by
  cases hb with
  | @edit j o' e' hfound' =>
    cases ha with
    | @edit id o e hfound =>
      -- both edit the same part of one object
      obtain ⟨rfl, hpart⟩ : j = id ∧ e'.part = e.part := by
        injection (h : Site.part j e'.part = Site.part id e.part) with hid hpart
        exact ⟨hid, hpart⟩
      rw [object?_put_self] at hfound'
      cases hfound'
      rw [put_put, Object.Edit.apply_absorb hpart.symm]
      exact .edit e' hfound
    | naming name id => cases (h : Site.part j e'.part = Site.name name)
    | insert o => cases (h : Site.part j e'.part = Site.object o.id)
  | naming name' id' =>
    cases ha with
    | @edit id o e hfound => cases (h : Site.name name' = Site.part id e.part)
    | naming name id =>
      obtain rfl : name' = name := by
        injection (h : Site.name name' = Site.name name)
      rw [setAlias_setAlias]
      exact .naming name' id'
    | insert o => cases (h : Site.name name' = Site.object o.id)
  | insert o' =>
    -- the whole object is replaced, with whatever was written to it
    have hput : ∀ {id : ObjectId} {o : Object}, o'.id = id →
        (w.put id o).put o'.id o' = w.put o'.id o' := by
      rintro id o rfl
      exact put_put w _ _ _
    cases ha with
    | @edit id o e hfound =>
      rw [hput h]
      exact .insert o'
    | naming name id => cases (h : Site.object o'.id = Site.name name)
    | insert o =>
      have hid : o'.id = o.id := by
        injection (h : Site.object o'.id = Site.object o.id)
      rw [hput hid]
      exact .insert o'

end Writes

end World

namespace Store

/-! ### Operations -/

/-- A new object is filed under the id that was found for it. It has neither properties nor
verbs. -/
theorem create_of_freshId {s : Store} {id : ObjectId} {stream : IdStream}
    (h : s.freshId = (id, stream)) (parent : Option ObjectId) (created : UInt64) :
    s.create parent created =
      (id, { world := s.world.put id { id, parent, created }, stream }) := by
  unfold create
  rw [h]
  rfl

/-- A new object is made by the store itself. -/
theorem perform_create (s : Store) (parent : Option ObjectId) (created : UInt64) :
    s.perform (.create parent created) =
      ((s.create parent created).2, (s.create parent created).1) := rfl

/-- A request changes the world of a store as it changes the world alone. -/
theorem perform_serve_world (s : Store) (request : Request) :
    (s.perform (.serve request)).1.world = (s.world.serve request).1 := rfl

/-- The world of a store after a write that may fail: it is the same, or a write has been made. A
write that fails changes nothing at all. -/
theorem adopt_writes (s : Store) (x : World.Write) :
    (s.adopt (s.world.write x)).1.world = s.world ∨
      ∃ x', s.world.Writes x' (s.adopt (s.world.write x)).1.world := by
  cases h : s.world.write x with
  | ok w => exact .inr ⟨x, World.write_eq_ok_iff.1 h⟩
  | error fault => exact .inl rfl

/-- **An operation changes the world by one write or not at all.** Creating an object is a write of
a whole object; what only asks for something is none. -/
theorem perform_writes (s : Store) {α : Type} (op : Operation α) :
    (s.perform op).1.world = s.world ∨ ∃ x, s.world.Writes x (s.perform op).1.world := by
  cases op with
  | create parent created =>
    right
    rcases hfresh : s.freshId with ⟨id, stream⟩
    rw [perform_create, create_of_freshId hfresh]
    exact ⟨_, .insert { id, parent, created }⟩
  | insert o => exact .inr ⟨_, .insert o⟩
  | setAlias name id => exact .inr ⟨_, .naming name id⟩
  | setParent id parent => exact s.adopt_writes (.edit id (.parent parent))
  | writeProp id name value => exact s.adopt_writes (.edit id (.prop name value))
  | setVerb id name source => exact s.adopt_writes (.edit id (.verb name source))
  | serve request =>
    -- of the requests only a write of a property changes anything
    rw [perform_serve_world]
    by_cases hkind : request.kind = .setProp
    · obtain ⟨id, name, value, rfl⟩ : ∃ id name value, request = .setProp id name value := by
        cases request with
        | setProp id name value => exact ⟨id, name, value, rfl⟩
        | getProp id name => cases hkind
        | resolveAlias name => cases hkind
        | call id args => cases hkind
      have hserve : (s.world.serve (.setProp id name value)).1 =
          (s.adopt (s.world.write (.edit id (.prop name value)))).1.world := by
        simp only [World.serve, World.write]
        cases s.world.writeProp id name value <;> rfl
      rw [hserve]
      exact s.adopt_writes _
    · exact .inl (World.serve_eq_self s.world hkind)
  | _ => exact .inl rfl

end Store

end VerbScript
