import VerbScript.Proofs.Inheritance

/-!
# What a property write changes

A property is written on one object and read on all that inherit from it. The line of ancestors of
an object `y` decides who sees a write to `x`: those with `x` on their line and the property on no
object before it (`World.Exposes`). Nobody else does, no other property changes, and nothing but
properties.

* `World.SameBut.isAncestry` — properties have no influence on the line of ancestors.
* `World.SameBut.readProp_of_exposes`, `World.SameBut.readProp_eq` — who sees a difference in one
  property, and who does not.
* `Store.writeProp_effect` — a write and all the readings after it.
-/

namespace VerbScript

namespace World

variable {w w' : World} {allowed : ObjectId → String → Prop} {x y : ObjectId} {name : String}

/-! ### Worlds that differ in properties -/

namespace SameBut

/-- What does not depend on a property that may differ is found alike in both worlds. Parents, verbs
and all other properties are found in this way. -/
theorem bind_eq (h : w.SameBut allowed w') {α : Type} (id : ObjectId) {f : Object → Option α}
    (hf : ∀ o o', o.SameBut (allowed id) o' → f o' = f o) :
    (w'.object? id).bind f = (w.object? id).bind f := by
  cases ho : w.object? id with
  | none => rw [h.missing id ho]
  | some o =>
    obtain ⟨o', ho', hsame⟩ := h.objects id o ho
    rw [ho']
    exact hf o o' hsame

/-- An object has the same parent in both worlds. -/
theorem parent?_eq (h : w.SameBut allowed w') (id : ObjectId) : w'.parent? id = w.parent? id :=
  h.bind_eq id fun _ _ hsame => hsame.parent

/-- It has the same verbs of its own. -/
theorem ownVerb?_eq (h : w.SameBut allowed w') (name : String) (id : ObjectId) :
    w'.ownVerb? name id = w.ownVerb? name id :=
  h.bind_eq id fun _ _ hsame => by rw [hsame.verbs]

/-- It has the same properties of its own, but for those that may differ. -/
theorem ownProp?_eq (h : w.SameBut allowed w') {id : ObjectId} (hname : ¬allowed id name) :
    w'.ownProp? name id = w.ownProp? name id :=
  h.bind_eq id fun _ _ hsame => hsame.props name hname

/-- The same objects exist. A difference in properties makes no object, and takes none away. -/
theorem contains_eq (h : w.SameBut allowed w') (id : ObjectId) :
    w'.contains id = w.contains id := by
  cases ho : w.object? id with
  | none => rw [contains_eq_false ho, contains_eq_false (h.missing id ho)]
  | some o =>
    obtain ⟨o', ho', -⟩ := h.objects id o ho
    rw [contains_eq_true ho, contains_eq_true ho']

/-- So the same ids are in use. -/
theorem ids_eq (h : w.SameBut allowed w') : w'.ids = w.ids :=
  Table.keys_eq_of_isSome h.contains_eq

/-- Objects are filed under their ids in both worlds or in neither. An id is no property, so it
cannot differ. -/
theorem filed (h : w.SameBut allowed w') (hfiled : w.Filed) : w'.Filed := by
  intro id o' ho'
  obtain ⟨o, ho⟩ := exists_object ((h.contains_eq id).symm.trans (contains_eq_true ho'))
  obtain ⟨o'', ho'', hsame⟩ := h.objects id o ho
  obtain rfl : o'' = o' := Option.some.inj (ho''.symm.trans ho')
  rw [hsame.id, hfiled id o ho]

/-- **Properties have no influence on the line of ancestors.** Each of its conditions is about the
parents of objects and about which objects there are. -/
theorem isAncestry (h : w.SameBut allowed w') {id : ObjectId} {line : List ObjectId}
    (hline : w.IsAncestry id line) : w'.IsAncestry id line where
  missing hid := hline.missing ((h.contains_eq id).symm.trans hid)
  starts hid := hline.starts ((h.contains_eq id).symm.trans hid)
  exist j hj := (h.contains_eq j).trans (hline.exist j hj)
  linked := hline.linked.imp fun j _ hk => (h.parent?_eq j).trans hk
  nodup := hline.nodup
  ends j hj k hk hexists :=
    hline.ends j hj k ((h.parent?_eq j).symm.trans hk) ((h.contains_eq k).symm.trans hexists)

end SameBut

/-! ### Who sees a definition -/

/-- The object `x` is on the line of `y`, and no object before it has the property: what `x` has is
what `y` reads. -/
def Exposes (w : World) (x : ObjectId) (name : String) (y : ObjectId) : Prop :=
  ∃ nearer farther, w.IsAncestry y (nearer ++ x :: farther) ∧
    ∀ k ∈ nearer, w.ownProp? name k = none

/-- A search finds the same if it finds the same in each item. -/
theorem findSome?_congr {α β : Type} {f g : α → Option β} {l : List α} (h : ∀ a ∈ l, f a = g a) :
    l.findSome? f = l.findSome? g := by
  induction l with
  | nil => rfl
  | cons a l ih =>
    rw [List.findSome?_cons, List.findSome?_cons, h a List.mem_cons_self,
      ih fun b hb => h b (List.mem_cons_of_mem a hb)]

/-- A definition of `x` makes no difference to a line that `x` is not on, or on which there is a
definition before it. -/
theorem findSome?_of_hidden {α : Type} {own own' : ObjectId → Option α} {line : List ObjectId}
    (hnodup : line.Nodup) (hothers : ∀ k, k ≠ x → own' k = own k)
    (hhidden : ∀ nearer farther, line = nearer ++ x :: farther → ∃ k ∈ nearer, own k ≠ none) :
    line.findSome? own' = line.findSome? own := by
  have hcongr : ∀ part : List ObjectId, x ∉ part → part.findSome? own' = part.findSome? own := by
    intro part hx
    refine findSome?_congr fun k hk => hothers k ?_
    rintro rfl
    exact hx hk
  by_cases hx : x ∈ line
  · obtain ⟨nearer, farther, rfl⟩ := List.append_of_mem hx
    obtain ⟨k, hk, hdefined⟩ := hhidden nearer farther rfl
    have hnearer : x ∉ nearer := fun hmem =>
      (List.nodup_append.1 hnodup).2.2 x hmem x List.mem_cons_self rfl
    -- both searches end before they come to `x`
    have hfound : nearer.findSome? own ≠ none := fun hnone =>
      hdefined (List.findSome?_eq_none_iff.1 hnone k hk)
    obtain ⟨a, ha⟩ := Option.ne_none_iff_exists'.1 hfound
    rw [List.findSome?_append, List.findSome?_append, hcongr nearer hnearer, ha]
    rfl
  · -- `x` is nowhere on the line
    exact hcongr line hx

/-! ### Reading in worlds that differ in one property -/

/-- An object that does not exist has no properties to read. This comes before the name is looked
at, even if it is a read-only one. -/
theorem readProp_of_missing (hid : w.contains y = false) (name : String) :
    w.readProp y name = .error (.objectNotFound y) := by
  unfold readProp
  rw [object?_of_missing hid]

/-- A property reads as the first value found on the line. This does not hold of the read-only
ones. -/
theorem readProp_eq_given {line : List ObjectId} (hfiled : w.Filed) (hline : w.IsAncestry y line)
    (hid : w.contains y = true) (hname : isReadOnly name = false) :
    w.readProp y name = given (.propNotFound name) (line.findSome? (w.ownProp? name)) := by
  rw [readProp_eq_inherited w y hname, inherited_eq hfiled hline hid]
  rfl

namespace SameBut

/-- **Verbs are looked up alike**, since the lines and the verbs on them are the same. So no write
of a property, whatever its name is, changes which verb is called. -/
theorem findVerb_eq (h : w.SameBut allowed w') (hfiled : w.Filed) (id : ObjectId) (verb : String) :
    w'.findVerb id verb = w.findVerb id verb := by
  rw [findVerb_eq_inherited, findVerb_eq_inherited]
  cases hid : w.contains id with
  | false =>
    rw [inherited_of_missing hid, inherited_of_missing ((h.contains_eq id).trans hid)]
  | true =>
    have hline := lineage_isAncestry hfiled id
    have hid' : w'.contains id = true := (h.contains_eq id).trans hid
    rw [inherited_eq hfiled hline hid, inherited_eq (h.filed hfiled) (h.isAncestry hline) hid']
    exact congrArg (given _) (findSome?_congr fun j _ => h.ownVerb?_eq verb j)

/-- The read-only properties read alike, as neither of them is kept among the properties. One is the
time of creation, and the other is null on every object. -/
theorem readProp_readOnly_eq (h : w.SameBut allowed w') (hname : isReadOnly name = true) :
    w'.readProp y name = w.readProp y name := by
  cases ho : w.object? y with
  | none =>
    rw [readProp_of_missing (contains_eq_false ho), readProp_of_missing
      (contains_eq_false (h.missing y ho))]
  | some o =>
    obtain ⟨o', ho', hsame⟩ := h.objects y o ho
    rcases of_decide_eq_true hname with rfl | rfl
    · exact (readProp_readOnly ho').2.trans (readProp_readOnly ho).2.symm
    · refine (readProp_readOnly ho').1.trans ?_
      rw [hsame.created]
      exact (readProp_readOnly ho).1.symm

/-- **Who does not see a difference**: if only the property `name` of `x` may differ, it makes no
difference to other properties, and none to objects to which `x` does not expose it. -/
theorem readProp_eq (h : w.SameBut (fun id n => id = x ∧ n = name) w') (hfiled : w.Filed)
    {m : String} (hhidden : ¬(m = name ∧ w.Exposes x name y)) :
    w'.readProp y m = w.readProp y m := by
  cases hread : isReadOnly m with
  | true => exact h.readProp_readOnly_eq hread
  | false =>
    cases hid : w.contains y with
    | false => rw [readProp_of_missing hid, readProp_of_missing ((h.contains_eq y).trans hid)]
    | true =>
      -- both readings search the same line
      have hline := lineage_isAncestry hfiled y
      have hid' : w'.contains y = true := (h.contains_eq y).trans hid
      rw [readProp_eq_given hfiled hline hid hread,
        readProp_eq_given (h.filed hfiled) (h.isAncestry hline) hid' hread]
      congr 1
      by_cases hm : m = name
      · subst hm
        refine findSome?_of_hidden (x := x) hline.nodup ?_ ?_
        · exact fun k hk => h.ownProp?_eq fun hallowed => hk hallowed.1
        · -- otherwise `x` would expose the property
          intro nearer farther hsplit
          by_contra hnone
          rw [hsplit] at hline
          refine hhidden ⟨rfl, nearer, farther, hline, fun k hk => ?_⟩
          by_contra hdefined
          exact hnone ⟨k, hk, hdefined⟩
      · -- another property is the same on the whole line
        exact findSome?_congr fun k _ => h.ownProp?_eq fun hallowed => hm hallowed.2

/-- **Who sees a difference**: what `x` has of the property is read by all to which `x` exposes it.
The objects before `x` have not changed, so the search comes to `x`. -/
theorem readProp_of_exposes (h : w.SameBut (fun id n => id = x ∧ n = name) w') (hfiled : w.Filed)
    (hname : isReadOnly name = false) {v : Value} (hx : w'.ownProp? name x = some v)
    (hy : w.Exposes x name y) : w'.readProp y name = .ok v := by
  obtain ⟨nearer, farther, hline, hnearer⟩ := hy
  refine ((readProp_inherits (h.filed hfiled) (h.isAncestry hline) hname).found v).2 ?_
  refine ⟨nearer, x, farther, rfl, hx, fun k hk => ?_⟩
  -- an object before `x` is not `x`, because no id comes twice
  have hne : k ≠ x := (List.nodup_append.1 hline.nodup).2.2 k hk x List.mem_cons_self
  rw [h.ownProp?_eq fun hallowed => hne hallowed.1]
  exact hnearer k hk

end SameBut

/-! ### Writing -/

variable {o : Object}

/-- Nothing changes where an object is put in its own place. So writing a read-only property, which
puts the object back, leaves the world as it is. -/
theorem put_eq_self (ho : w.object? x = some o) : w.put x o = w := by
  refine ext_object? rfl fun id => ?_
  rw [object?_put]
  split
  next heq => rw [heq, ho]
  next => rfl

/-- A write puts the object back with the new value, or as it is if the property is read-only.
Either way it succeeds. -/
theorem writeProp_eq (ho : w.object? x = some o) (name : String) (v : Value) :
    w.writeProp x name v =
      .ok (w.put x (if isReadOnly name then o else { o with props := o.props.insert name v })) := by
  unfold writeProp change
  rw [ho]
  rfl

/-- What is written is there afterwards, and nothing else has changed. This is said of the object
itself; what others inherit of it is a matter of their lines. -/
theorem written (ho : w.object? x = some o) (hname : isReadOnly name = false) (v : Value) :
    w.SameBut (fun id n => id = x ∧ n = name)
        (w.put x { o with props := o.props.insert name v }) ∧
      (w.put x { o with props := o.props.insert name v }).ownProp? name x = some v := by
  constructor
  · -- the write that a request asks for is this one
    have hsame := setProp_sameBut w x name v
    rw [serve_setProp, ho] at hsame
    simp only [hname, Bool.false_eq_true, if_false] at hsame
    exact hsame.mono fun id n hn => ⟨hn.1, hn.2.1⟩
  · unfold ownProp?
    rw [object?_put_self]
    exact Table.get?_insert_self _ _ _

end World

namespace Store

/-- **What a property write changes.** In a store that has come about, a write of a property that is
not read-only to an object that exists succeeds. Afterwards the value is what all those read to
which the object exposes the property; everything else reads as before, verbs are looked up as
before, and nothing but the property has changed. A write to an object that does not exist fails,
and one to a read-only property succeeds, and both change nothing. -/
theorem writeProp_effect {s : Store} (h : s.Reachable) (x : ObjectId) (n : String) (v : Value) :
    (s.world.contains x = true → n ≠ "_verbs" → n ≠ "_created" →
      ∃ s', s.perform (.writeProp x n v) = (s', .ok ()) ∧
        (∀ y, s.world.Exposes x n y → s'.world.readProp y n = .ok v) ∧
        (∀ y m, ¬(m = n ∧ s.world.Exposes x n y) →
          s'.world.readProp y m = s.world.readProp y m) ∧
        (∀ y verb, s'.world.findVerb y verb = s.world.findVerb y verb) ∧
        s'.world.ids = s.world.ids ∧
        s.SameBut (fun y m => y = x ∧ m = n) s') ∧
    (s.world.contains x = false →
      s.perform (.writeProp x n v) = (s, .error (.objectNotFound x))) ∧
    (s.world.contains x = true → n = "_verbs" ∨ n = "_created" →
      s.perform (.writeProp x n v) = (s, .ok ())) := by
  have hperform : s.perform (.writeProp x n v) = s.adopt (s.world.writeProp x n v) := rfl
  refine ⟨fun hx hverbs hcreated => ?_, fun hx => ?_, fun hx hreadOnly => ?_⟩
  · obtain ⟨o, ho⟩ := World.exists_object hx
    have hname : World.isReadOnly n = false := World.isReadOnly_eq_false_iff.2 ⟨hverbs, hcreated⟩
    obtain ⟨hsame, hown⟩ := World.written ho hname v
    rw [hperform, World.writeProp_eq ho, hname]
    refine ⟨_, rfl, fun y hy => ?_, fun y m hhidden => ?_, fun y verb => ?_, hsame.ids_eq,
      ⟨rfl, hsame⟩⟩
    · exact hsame.readProp_of_exposes h.filed hname hown hy
    · exact hsame.readProp_eq h.filed hhidden
    · exact hsame.findVerb_eq h.filed y verb
  · -- there is no object to be written to
    have hmissing : s.world.writeProp x n v = .error (.objectNotFound x) := by
      unfold World.writeProp World.change
      rw [World.object?_of_missing hx]
    rw [hperform, hmissing]
    rfl
  · obtain ⟨o, ho⟩ := World.exists_object hx
    have hname : World.isReadOnly n = true := decide_eq_true hreadOnly
    -- the object is put back as it is
    rw [hperform, World.writeProp_eq ho, hname, if_pos rfl, World.put_eq_self ho]
    rfl

/-- A color written on the first of the rooms is not seen from the second one, which has its own; a
size is. -/
theorem mirrors_written :
    mirrors.Reachable ∧ mirrors.world.contains ⟨1⟩ = true ∧
      (∃ s', mirrors.perform (.writeProp ⟨1⟩ "color" .null) = (s', .ok ()) ∧
        s'.world.readProp ⟨1⟩ "color" = .ok .null ∧
        s'.world.readProp ⟨2⟩ "color" = mirrors.world.readProp ⟨2⟩ "color") ∧
      ∃ s', mirrors.perform (.writeProp ⟨1⟩ "size" .null) = (s', .ok ()) ∧
        s'.world.readProp ⟨2⟩ "size" = .ok .null := by
  obtain ⟨hleft, hright⟩ := mirrors_isAncestry
  obtain ⟨s₁, hcolored, hseen, hunseen, -⟩ :=
    (writeProp_effect mirrors_reachable ⟨1⟩ "color" .null).1 rfl (by decide) (by decide)
  obtain ⟨s₂, hsized, hsize, -⟩ :=
    (writeProp_effect mirrors_reachable ⟨1⟩ "size" .null).1 rfl (by decide) (by decide)
  refine ⟨mirrors_reachable, rfl, ⟨s₁, hcolored, hseen ⟨1⟩ ⟨[], _, hleft, nofun⟩, hunseen _ _ ?_⟩,
    s₂, hsized, hsize ⟨2⟩ ⟨[⟨2⟩], [], hright, List.forall_mem_singleton.2 rfl⟩⟩
  -- on the line of the second room, the room itself comes before the first one
  rintro ⟨-, nearer, farther, hline, hnearer⟩
  have hsplit : nearer ++ ⟨1⟩ :: farther = [⟨2⟩, ⟨1⟩] := hright.eq hline
  cases nearer with
  | nil => cases hsplit
  | cons k rest =>
    obtain rfl : k = ⟨2⟩ := (List.cons.inj hsplit).1
    cases hnearer ⟨2⟩ List.mem_cons_self

end Store

end VerbScript
