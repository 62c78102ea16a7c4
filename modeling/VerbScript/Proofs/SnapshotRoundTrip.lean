import VerbScript.World.Snapshot
import VerbScript.Proofs.RecordLaws

/-!
# Snapshots restore the store

A store that is written to bytes and read back is the same store: the same objects with the same
values, bit for bit, the same aliases, and the same place in the stream of new ids. Whatever is then
done to both, they answer alike, and they give new objects the same ids.

The format bounds what can be written: lengths have four bytes, a position has eight, and the
containers around a value leave it `Value.depthLimit` levels of its own (`World.Storable`).

* `Value.read_pack`, `Object.read_pack`, `World.read_pack` — each part is read back from its bytes.
* `Store.ofBytes?_toBytes` — so is the store.
* `Store.Operation` — everything that can be done to a store, with what it answers.
* `Store.restored_agrees` — the restored store cannot be told from the one that was written.
-/

namespace VerbScript

open MessagePack

/-! ### Values -/

/-- How deep the arrays of a property may be nested: the snapshot, the world, the table of objects,
the object and the table of its properties are around them. -/
-- one level for each of the five containers that are named above
def Value.depthLimit : Nat := snapshotDepth - 5

/-- A value whose lengths can be written and whose arrays are nested at most `depth` deep. The bound
on the depth is that of the reader; the writer has none. -/
inductive Value.Storable : (depth : Nat) → Value → Prop where
  | null {depth : Nat} : Storable depth .null
  | bool {depth : Nat} (b : Bool) : Storable depth (.bool b)
  | number {depth : Nat} (n : Number) : Storable depth (.number n)
  | str {depth : Nat} {text : String} (length : (utf8 text).length < UInt32.size) :
      Storable depth (.str text)
  | array {depth : Nat} {items : List Value} (length : items.length < UInt32.size)
      (each : ∀ item ∈ items, Storable depth item) : Storable (depth + 1) (.array items)
  | object {depth : Nat} (id : ObjectId) : Storable depth (.object id)

/-- An id is written as a number, and all its bits come back. -/
theorem ObjectId.read_pack (id : ObjectId) : Reads ObjectId.read (packUInt id.raw.toNat) id := by
  have h := (readUInt_packUInt id.raw.toNat_lt).returning fun n => ObjectId.mk n.toUInt64
  have hid : ObjectId.mk id.raw.toNat.toUInt64 = id := by simp
  rw [hid] at h
  exact h

/-- The items of an array are written one after another, with nothing between them. -/
theorem Value.packItems_eq_flatMap (items : List Value) :
    Value.packItems items = items.flatMap Value.pack := by
  induction items with
  | nil => rfl
  | cons item items ih => rw [Value.packItems, ih, List.flatMap_cons]

/-- How the items of an array are read. At the last level there is an array only if it has no
items. -/
def Value.readItems : (depth : Nat) → Reader (List Value)
  | 0 => readNoItems
  | depth + 1 => readArray (Value.read depth)

/-- The depth makes a difference to the items of arrays only. -/
theorem Value.read_eq_readWith (depth : Nat) :
    Value.read depth = Value.readWith (Value.readItems depth) := by
  cases depth with
  | zero => rfl
  | succ depth => rfl

/-- **A value is read back**, a number with its bits. The induction is on the value; its cases are
the variants, with the place of their names. -/
theorem Value.read_pack {depth : Nat} {v : Value} (h : v.Storable depth) :
    Reads (Value.read depth) v.pack v := by
  rw [Value.read_eq_readWith]
  induction h with
  | null =>
    rw [Value.pack]
    exact (readVariant_packStr 0 (by decide) (by decide)).last (.pure _)
  | bool b =>
    rw [Value.pack]
    exact (readVariant_packVariant 1 (by decide) (by decide)).bind
      ((readBool_packBool b).returning Value.bool)
  | number n =>
    rw [Value.pack]
    exact (readVariant_packVariant 2 (by decide) (by decide)).bind
      ((readFloat_packFloat n).returning Value.number)
  | str hlength =>
    rw [Value.pack]
    exact (readVariant_packVariant 3 (by decide) (by decide)).bind
      ((readStr_packStr hlength).returning Value.str)
  | @array depth items hlength _ ih =>
    -- the array itself takes one level, so its items are read with one less
    have hitems : ∀ item ∈ items, Reads (Value.read depth) item.pack item := by
      intro item hitem
      rw [Value.read_eq_readWith]
      exact ih item hitem
    rw [Value.pack, Value.packItems_eq_flatMap]
    exact (readVariant_packVariant 4 (by decide) (by decide)).bind
      ((readArray_packArray hlength hitems).returning Value.array)
  | object id =>
    rw [Value.pack]
    exact (readVariant_packVariant 5 (by decide) (by decide)).bind
      ((ObjectId.read_pack id).returning Value.object)

/-! ### Objects and worlds -/

/-- An object all of whose lengths can be written: those of its tables, of the names in them, and of
what stands under the names. -/
structure Object.Storable (o : Object) : Prop where
  props : o.props.size < UInt32.size
  propNames : ∀ b ∈ o.props.toList, (utf8 b.1).length < UInt32.size
  values : ∀ b ∈ o.props.toList, b.2.Storable Value.depthLimit
  verbs : o.verbs.size < UInt32.size
  verbNames : ∀ b ∈ o.verbs.toList, (utf8 b.1).length < UInt32.size
  sources : ∀ b ∈ o.verbs.toList, (utf8 b.2).length < UInt32.size

/-- A world all of whose lengths can be written. Ids and times have a fixed number of bytes, so
nothing is asked of them. -/
structure World.Storable (w : World) : Prop where
  objects : w.objects.size < UInt32.size
  each : ∀ b ∈ w.objects.toList, b.2.Storable
  aliases : w.aliases.size < UInt32.size
  names : ∀ b ∈ w.aliases.toList, (utf8 b.1).length < UInt32.size

/-- A number of 64 bits is read back with all of them. -/
theorem readUInt64_packUInt (n : UInt64) :
    Reads (Nat.toUInt64 <$> readUInt) (packUInt n.toNat) n := by
  have h := (readUInt_packUInt n.toNat_lt).map Nat.toUInt64
  have hn : n.toNat.toUInt64 = n := by simp
  rwa [hn] at h

/-- The optional parent of an object. The head of a number is not that of nil, so a parent that is
there is never taken for a missing one. -/
theorem readOption_parent (parent : Option ObjectId) :
    Reads (readOption ObjectId.read)
      (match parent with
        | some id => packUInt id.raw.toNat
        | none => packNil) parent := by
  cases parent with
  | none => exact readOption_none
  | some id =>
    exact readOption_some (readHead_packUInt id.raw.toNat_lt) nofun List.prefix_rfl
      (ObjectId.read_pack id)

/-- **An object is read back**, its tables as tables: their listings are what is written, and the
bindings come back in that order. -/
theorem Object.read_pack {o : Object} (h : o.Storable) :
    Reads (Object.read (Value.depthLimit + 1)) o.pack o := by
  have hprops := readTable_packTable h.props (fun b hb => readStr_packStr (h.propNames b hb))
    fun b hb => Value.read_pack (h.values b hb)
  have hverbs := readTable_packTable h.verbs (fun b hb => readStr_packStr (h.verbNames b hb))
    fun b hb => readStr_packStr (h.sources b hb)
  -- the five fields come in the order in which they are written
  have hcount : 5 < UInt32.size := by decide
  refine readRecord_packRecord hcount
    (.more 0 (by decide) (by decide) ((readOnce_none (ObjectId.read_pack o.id)).returning _)
    (.more 1 (by decide) (by decide) ((readOnce_none (readOption_parent o.parent)).returning _)
    (.more 2 (by decide) (by decide) ((readOnce_none (readUInt64_packUInt o.created)).returning _)
    (.more 3 (by decide) (by decide) ((readOnce_none hprops).returning _)
    (.more 4 (by decide) (by decide) ((readOnce_none hverbs).returning _) (.done _)))))) ?_
  rfl

/-- **A world is read back.** Around each object are the world and the table of its objects, which
take two levels. -/
theorem World.read_pack {w : World} (h : w.Storable) :
    Reads (World.read (Value.depthLimit + 3)) w.pack w := by
  have hobjects : Reads (readTable ObjectId.read (Object.read (Value.depthLimit + 1)))
      (packTable (fun id => packUInt id.raw.toNat) Object.pack w.objects) w.objects :=
    readTable_packTable h.objects (fun b _ => ObjectId.read_pack b.1)
      fun b hb => Object.read_pack (h.each b hb)
  have haliases : Reads (readTable readStr ObjectId.read)
      (packTable packStr (fun id => packUInt id.raw.toNat) w.aliases) w.aliases :=
    readTable_packTable h.aliases (fun b hb => readStr_packStr (h.names b hb))
      fun b _ => ObjectId.read_pack b.2
  have hcount : 2 < UInt32.size := by decide
  refine readRecord_packRecord hcount
    (.more 0 (by decide) (by decide) ((readOnce_none hobjects).returning _)
    (.more 1 (by decide) (by decide) ((readOnce_none haliases).returning _) (.done _))) ?_
  rfl

/-! ### Stores -/

namespace Store

/-- **A store is read back** from its bytes, at whatever position its stream is. The position has
eight bytes, and nothing is written of the ids that the stream has given out. -/
theorem ofBytes?_toBytes {s : Store} (hposition : s.stream.position < UInt64.size)
    (hworld : s.world.Storable) : ofBytes? s.toBytes = some s := by
  -- only a position from `2 ^ 64` on is written as another one
  have hwritten : s.writtenPosition = s.stream.position :=
    Nat.min_eq_left (Nat.le_sub_one_of_lt hposition)
  have hcount : 3 < UInt32.size := by decide
  have hread : Reads read s.toBytes s := by
    unfold toBytes
    rw [hwritten]
    refine readRecord_packRecord hcount
      (.more 0 (by decide) (by decide)
        ((readOnce_none (readUInt64_packUInt s.stream.seed)).returning _)
      (.more 1 (by decide) (by decide) ((readOnce_none (readUInt_packUInt hposition)).returning _)
      (.more 2 (by decide) (by decide)
        ((readOnce_none (World.read_pack hworld)).returning _) (.done _)))) ?_
    rfl
  -- nothing follows the store, so reading ends with the last byte
  have hall : read s.toBytes = some (s, []) := by
    have h := hread []
    rwa [List.append_nil] at h
  unfold ofBytes?
  rw [hall]
  rfl

/-! ### What can be done to a store -/

/-- Everything that can be done to a store, by the type of what it answers. The time at which an
object is made is given. -/
inductive Operation : Type → Type where
  | seed : Operation UInt64
  | create (parent : Option ObjectId) (created : UInt64) : Operation ObjectId
  | insert (o : Object) : Operation (Option Object)
  | object (id : ObjectId) : Operation (Option Object)
  | contains (id : ObjectId) : Operation Bool
  | size : Operation Nat
  | ids : Operation (List ObjectId)
  | setParent (id : ObjectId) (parent : Option ObjectId) : Operation (Except Fault Unit)
  | setAlias (name : String) (id : ObjectId) : Operation Unit
  | alias (name : String) : Operation (Option ObjectId)
  | aliases : Operation (List (String × ObjectId))
  | readProp (id : ObjectId) (name : String) : Operation (Except Fault Value)
  | writeProp (id : ObjectId) (name : String) (value : Value) : Operation (Except Fault Unit)
  | props (id : ObjectId) : Operation (Except Fault (List (String × Value)))
  | setVerb (id : ObjectId) (name source : String) : Operation (Except Fault Unit)
  | verbSource (id : ObjectId) (name : String) : Operation (Option String)
  | verbNames (id : ObjectId) : Operation (List String)
  | findVerb (id : ObjectId) (name : String) : Operation (Except Fault String)
  | frameForCall (id : ObjectId) (args : CallArgs) : Operation (Except Failure Frame)
  | serve (request : Request) : Operation (Except Fault Reply)
  | snapshot : Operation (List UInt8)

/-- The store after a change of its world that may fail. If it fails, the store is as it was. -/
def adopt (s : Store) : Except Fault World → Store × Except Fault Unit
  | .ok world => ({ s with world }, .ok ())
  | .error fault => (s, .error fault)

/-- The store after an operation, and the answer. Operations that only ask for something give the
store back as it is. -/
def perform (s : Store) {α : Type} : Operation α → Store × α
  | .seed => (s, s.stream.seed)
  | .create parent created => ((s.create parent created).2, (s.create parent created).1)
  | .insert o => ({ s with world := (s.world.insert o).1 }, (s.world.insert o).2)
  | .object id => (s, s.world.object? id)
  | .contains id => (s, s.world.contains id)
  | .size => (s, s.world.objects.size)
  | .ids => (s, s.world.ids)
  | .setParent id parent => s.adopt (s.world.setParent id parent)
  | .setAlias name id => ({ s with world := s.world.setAlias name id }, ())
  | .alias name => (s, s.world.alias? name)
  | .aliases => (s, s.world.aliases.toList)
  | .readProp id name => (s, s.world.readProp id name)
  | .writeProp id name value => s.adopt (s.world.writeProp id name value)
  | .props id => (s, s.world.props id)
  | .setVerb id name source => s.adopt (s.world.setVerb id name source)
  | .verbSource id name => (s, s.world.verbSource? id name)
  | .verbNames id => (s, s.world.verbNames id)
  | .findVerb id name => (s, s.world.findVerb id name)
  | .frameForCall id args => (s, s.world.frameForCall id args)
  | .serve request => Host.serve s request
  | .snapshot => (s, s.toBytes)

/-- The store after a history of operations, whose answers are dropped. -/
def after (s : Store) (history : List ((α : Type) × Operation α)) : Store :=
  history.foldl (fun s op => (s.perform op.2).1) s

/-- **The restored store cannot be told from the one that was written.** Reading succeeds, the seed,
the position, every object and every alias are as they were, and after the same history any
operation has the same answer on both; an object that is created gets the same id. -/
theorem restored_agrees {s : Store} (hposition : s.stream.position < UInt64.size)
    (hworld : s.world.Storable) :
    ∃ restored, ofBytes? s.toBytes = some restored ∧
      restored.stream.seed = s.stream.seed ∧
      restored.stream.position = s.stream.position ∧
      (∀ id, restored.world.object? id = s.world.object? id) ∧
      (∀ name, restored.world.alias? name = s.world.alias? name) ∧
      ∀ (history : List ((α : Type) × Operation α)) {β : Type} (op : Operation β),
        ((restored.after history).perform op).2 = ((s.after history).perform op).2 := by
  have hread := ofBytes?_toBytes hposition hworld
  -- what is read is the very store, so whatever is done to both has the same answers
  refine ⟨s, hread, rfl, rfl, ?_, ?_, ?_⟩
  · intro id; rfl
  · intro name; rfl
  · intro history β op; rfl

/-- A hall with a NaN in a nested array, written when an odd number of words had been used. The
restored store gives the next object the same id, so the position of its generator is right. -/
theorem hall_restored :
    let hall : Object := {
      id := ⟨7⟩
      parent := some ⟨0x100⟩
      props := Table.empty.insert "exits"
        (.array [.array [.str "é"], .number ⟨0x7FF8000000000001⟩])
      verbs := Table.empty.insert "look" "say $this" }
    let s : Store := {
      world := (World.insert {} hall).1.setAlias "Hall" ⟨7⟩
      stream := { seed := 42, position := 0x200000001 } }
    s.stream.position < UInt64.size ∧ s.world.Storable ∧
      ∃ restored, ofBytes? s.toBytes = some restored ∧
        restored.world.object? ⟨7⟩ = some hall ∧
        (restored.perform (.create none 0)).2 = (s.perform (.create none 0)).2 := by
  intro hall s
  have hposition : s.stream.position < UInt64.size := by decide
  -- the exits are two arrays deep, which is far below the limit
  have hexits : Value.Storable Value.depthLimit
      (.array [.array [.str "é"], .number ⟨0x7FF8000000000001⟩]) := by
    refine .array (by decide) ?_
    refine List.forall_mem_cons.2 ⟨.array (by decide) ?_, List.forall_mem_singleton.2 (.number _)⟩
    exact List.forall_mem_singleton.2 (.str (by decide))
  have hobject : hall.Storable := by
    refine ⟨by decide, fun b hb => ?_, fun b hb => ?_, by decide, fun b hb => ?_, fun b hb => ?_⟩
    all_goals obtain rfl := List.mem_singleton.1 hb
    · decide
    · exact hexits
    · decide
    · decide
  have hworld : s.world.Storable := by
    refine ⟨by decide, fun b hb => ?_, by decide, fun b hb => ?_⟩
    all_goals obtain rfl := List.mem_singleton.1 hb
    · exact hobject
    · decide
  obtain ⟨restored, hread, _, _, hobjects, _, hanswers⟩ := restored_agrees hposition hworld
  -- the object was inserted last, so it is found under its id
  have hhall : s.world.object? ⟨7⟩ = some hall := Table.get?_insert_self _ _ _
  exact ⟨hposition, hworld, restored, hread, (hobjects ⟨7⟩).trans hhall,
    hanswers [] (.create none 0)⟩

end Store

end VerbScript
