import VerbScript.MessagePack.Record
import VerbScript.World.Store

/-!
# Snapshots

The bytes of a store: its seed, the position of its stream of ids, and its world. Objects,
properties, verbs and aliases are written in the order of their keys, so equal stores have equal
bytes. `Store.ofBytes?` reads them back, and more: see `VerbScript.MessagePack`.
-/

namespace VerbScript

open MessagePack

/-! ### Values -/

mutual

/-- The bytes of a value: its variant, and what the variant holds. Null holds nothing, so it is the
name of its variant alone. -/
def Value.pack : Value → List UInt8
  | .null => packStr "Null"
  | .bool b => packVariant "Bool" (packBool b)
  | .number n => packVariant "Number" (packFloat n)
  | .str text => packVariant "Str" (packStr text)
  | .array items => packVariant "Array" (packArray items.length ++ Value.packItems items)
  | .object id => packVariant "Object" (packUInt id.raw.toNat)

/-- The bytes of the items of an array. -/
def Value.packItems : List Value → List UInt8
  | [] => []
  | item :: rest => item.pack ++ Value.packItems rest

end

/-- An object id. -/
def ObjectId.read : Reader ObjectId := do return ⟨(← readUInt).toUInt64⟩

/-- The variants of values. -/
def Value.variantNames : List String := ["Null", "Bool", "Number", "Str", "Array", "Object"]

/-- Reads a value, given how to read the items of an array. The recursion is `Value.read`, over the
depth that is left. -/
def Value.readWith (items : Reader (List Value)) : Reader Value := do
  let (variant, content) ← readVariant variantNames
  match variant with
  | 0 => do
    readNoContent content
    return .null
  | 1 => return .bool (← readContent content readBool)
  | 2 => return .number (← readContent content readFloat)
  | 3 => return .str (← readContent content readStr)
  | 4 => return .array (← readContent content items)
  | _ => return .object (← readContent content ObjectId.read)

/-- Reads a value whose arrays are nested at most `depth` deep. No bytes are an array without a
level of its own. -/
def Value.read : (depth : Nat) → Reader Value
  | 0 => readWith readNoItems
  | depth + 1 => readWith (readArray (Value.read depth))

/-! ### Objects and worlds -/

/-- How deep the containers of a snapshot may be nested. -/
def snapshotDepth : Nat := 1023

/-- The bytes of an object. The parent is nil if there is none, and the verbs are written as their
sources. -/
def Object.pack (o : Object) : List UInt8 :=
  packRecord [
    ("id", packUInt o.id.raw.toNat),
    ("parent", match o.parent with
      | some id => packUInt id.raw.toNat
      | none => packNil),
    ("created", packUInt o.created.toNat),
    ("props", packTable packStr Value.pack o.props),
    ("verbs", packTable packStr packStr o.verbs)]

/-- The fields of an object that have been read. They may come in any order, and each at most
once. -/
structure Object.Draft where
  id : Option ObjectId := none
  parent : Option (Option ObjectId) := none
  created : Option UInt64 := none
  props : Option (Table String Value) := none
  verbs : Option (Table String String) := none

/-- Reads one field of an object, given by its place among the names. The table of the properties
takes a level of its own. -/
def Object.readField (depth : Nat) (d : Object.Draft) : Nat → Reader Object.Draft
  | 0 => return { d with id := ← readOnce d.id ObjectId.read }
  | 1 => return { d with parent := ← readOnce d.parent (readOption ObjectId.read) }
  | 2 => return { d with created := ← readOnce d.created (Nat.toUInt64 <$> readUInt) }
  | 3 => return { d with
      props := ← readOnce d.props (readTable readStr (Value.read (depth - 1))) }
  | _ => return { d with verbs := ← readOnce d.verbs (readTable readStr readStr) }

/-- The object of its fields; only the parent may be missing. It is then an object without a
parent. -/
def Object.Draft.finish (d : Object.Draft) : Option Object := do
  return {
    id := ← d.id
    parent := d.parent.getD none
    created := ← d.created
    props := ← d.props
    verbs := ← d.verbs }

/-- Reads an object whose fields are nested at most `depth` deep. The fields may come in any order,
and each of them once. -/
def Object.read (depth : Nat) : Reader Object :=
  readRecord depth ["id", "parent", "created", "props", "verbs"] (Object.readField depth) {}
    Object.Draft.finish

/-- The bytes of a world. Tables list their bindings in key order, so equal worlds have equal
bytes. -/
def World.pack (w : World) : List UInt8 :=
  packRecord [
    ("objects", packTable (fun id => packUInt id.raw.toNat) Object.pack w.objects),
    ("aliases", packTable packStr (fun id => packUInt id.raw.toNat) w.aliases)]

/-- The fields of a world that have been read. None of them has a default. -/
structure World.Draft where
  objects : Option (Table ObjectId Object) := none
  aliases : Option (Table String ObjectId) := none

/-- Reads one field of a world. The table of objects and each object in it take a level. -/
def World.readField (depth : Nat) (d : World.Draft) : Nat → Reader World.Draft
  | 0 => return { d with
      objects := ← readOnce d.objects (readTable ObjectId.read (Object.read (depth - 2))) }
  | _ => return { d with aliases := ← readOnce d.aliases (readTable readStr ObjectId.read) }

/-- The world of its fields, of which none may be missing. -/
def World.Draft.finish (d : World.Draft) : Option World := do
  return { objects := ← d.objects, aliases := ← d.aliases }

/-- Reads a world whose fields are nested at most `depth` deep. -/
def World.read (depth : Nat) : Reader World :=
  readRecord depth ["objects", "aliases"] (World.readField depth) {} World.Draft.finish

/-! ### Stores -/

namespace Store

/-- The position of the stream as it is written: no position from `2 ^ 64` on can be, and the
greatest that can stands for them. -/
def writtenPosition (s : Store) : Nat := min s.stream.position (UInt64.size - 1)

/-- The bytes of a store. Of its generator only the seed and the position are written, and it is
built again from these. -/
def toBytes (s : Store) : List UInt8 :=
  packRecord [
    ("seed", packUInt s.stream.seed.toNat),
    ("word_pos", packUInt s.writtenPosition),
    ("world", s.world.pack)]

/-- The fields of a store that have been read. A store without one of them is refused. -/
structure Draft where
  seed : Option UInt64 := none
  position : Option Nat := none
  world : Option World := none

/-- Reads one field of a store. The world takes a level, and all that is nested in it is bounded by
what is left. -/
def readField (depth : Nat) (d : Draft) : Nat → Reader Draft
  | 0 => return { d with seed := ← readOnce d.seed (Nat.toUInt64 <$> readUInt) }
  | 1 => return { d with position := ← readOnce d.position readUInt }
  | _ => return { d with world := ← readOnce d.world (World.read (depth - 1)) }

/-- The store of its fields, of which none may be missing. -/
def Draft.finish (d : Draft) : Option Store := do
  return { world := ← d.world, stream := { seed := ← d.seed, position := ← d.position } }

/-- Reads a store. Bytes behind it are not looked at here. -/
def read : Reader Store :=
  readRecord (snapshotDepth - 1) ["seed", "word_pos", "world"] (readField (snapshotDepth - 1)) {}
    Draft.finish

/-- The store of some bytes; bytes after it do not matter. The id an object carries is not compared
with the key it has in the table. -/
def ofBytes? (bytes : List UInt8) : Option Store := (read bytes).map Prod.fst

end Store

/-! ### Comparing -/

/-- Whether two lists have the same length and the same keys with values that are the same. Tables
list their keys in order, so no search is needed. -/
def sameEntries {κ α : Type} [BEq κ] (same : α → α → Bool) :
    List (κ × α) → List (κ × α) → Bool
  | [], [] => true
  | (j, a) :: as, (k, b) :: bs => j == k && same a b && sameEntries same as bs
  | _, _ => false

/-- Whether two objects are equal as scripts compare values: a NaN differs from itself. -/
def Object.same (a b : Object) : Bool :=
  a.id == b.id && a.parent == b.parent && a.created == b.created &&
    sameEntries Value.same a.props.toList b.props.toList &&
    a.verbs.toList == b.verbs.toList

/-- Whether two worlds are equal as scripts compare values. A world with a NaN in it is not equal to
itself, though its bytes are. -/
def World.same (a b : World) : Bool :=
  sameEntries Object.same a.objects.toList b.objects.toList &&
    a.aliases.toList == b.aliases.toList

/-- Whether two stores have the same snapshot. The position is compared as it is written, so the
greatest one that can be written is the same as all beyond it. -/
def Store.same (a b : Store) : Bool :=
  a.stream.seed == b.stream.seed && a.writtenPosition == b.writtenPosition &&
    a.world.same b.world

end VerbScript
