import VerbScript.MessagePack.Format
import VerbScript.Table

/-!
# Records, variants and tables in MessagePack

A record is written as a map from the names of its fields, in their order. It is read from such a
map in any order, where fields of other names are passed over and no field may come twice, or
from an array of exactly its fields. A variant without content is written as its name, and one
with content as a map of one entry from the name to the content. A table is a map from its keys.

Names of fields and variants may also be given as bytes or by their place.
-/

namespace VerbScript.MessagePack

/-! ### Records -/

/-- A record, from its written fields. All fields are written, also those that are missing in the
data. -/
def packRecord (fields : List (String × List UInt8)) : List UInt8 :=
  packMap fields.length ++ fields.flatMap fun f => packStr f.1 ++ f.2

/-- The place of a name among some names. Names are compared by their bytes, so a name that is no
text is just unknown. -/
def placeOf? (names : List String) (bytes : List UInt8) : Option Nat :=
  names.findIdx? fun name => utf8 name == bytes

/-- The place of the field whose name comes next; none is an unknown field. What stands in an
unknown field is skipped. -/
def readFieldName (names : List String) : Reader (Option Nat) := do
  match ← readHead with
  | .uint i => return if i < names.length then some i else none
  | .str n | .bin n => return placeOf? names (← readBytes n)
  | _ => failure

variable {σ α κ : Type}

/-- Reads `n` named fields into a record under construction. It is up to `field` to refuse a field
that comes twice. -/
def readNamed (depth : Nat) (names : List String) (field : σ → Nat → Reader σ) (s : σ) :
    Nat → Reader σ
  | 0 => return s
  | n + 1 => do
    match ← readFieldName names with
    | some i => readNamed depth names field (← field s i) n
    | none =>
      skip depth
      readNamed depth names field s n

/-- Reads the fields from place `i` on, in their order, without names. This is how a record is read
that comes as an array. -/
def readInOrder (field : σ → Nat → Reader σ) (s : σ) (i : Nat) : Nat → Reader σ
  | 0 => return s
  | n + 1 => do readInOrder field (← field s i) (i + 1) n

/-- Reads a record: `field` reads the field at a place into the record under construction, which
starts as `s`, and `finish` completes it. Unknown fields may be `depth` levels deep. -/
def readRecord (depth : Nat) (names : List String) (field : σ → Nat → Reader σ) (s : σ)
    (finish : σ → Option α) : Reader α := do
  let s ← match ← readHead with
    | .map n => readNamed depth names field s n
    | .array n => if n = names.length then readInOrder field s 0 n else failure
    | _ => failure
  match finish s with
  | some a => return a
  | none => failure

/-- Reads a field that has not been read before. A second one is refused without reading it. -/
def readOnce (old : Option α) (read : Reader α) : Reader (Option α) :=
  match old with
  | some _ => failure
  | none => some <$> read

/-! ### Variants -/

/-- A variant with content. -/
def packVariant (name : String) (content : List UInt8) : List UInt8 :=
  packMap 1 ++ packStr name ++ content

/-- The place of the variant whose name comes next. Unlike a field, an unknown variant is
refused. -/
def variantOf (names : List String) (head : Head) : Reader Nat := do
  match head with
  | .uint i => if i < names.length then return i else failure
  | .str n | .bin n =>
    match placeOf? names (← readBytes n) with
    | some i => return i
    | none => failure
  | _ => failure

/-- The place of the next variant, and whether content follows. A map with more entries than one is
no variant. -/
def readVariant (names : List String) : Reader (Nat × Bool) := do
  match ← readHead with
  | .map 1 => return (← variantOf names (← readHead), true)
  | head => return (← variantOf names head, false)

/-- The content of a variant that has none of its own. If the variant comes as a map, nil stands
there. -/
def readNoContent (content : Bool) : Reader Unit := do
  if content then
    match ← readHead with
    | .nil => return
    | _ => failure

/-- The content of a variant that has to have some. -/
def readContent (content : Bool) (read : Reader α) : Reader α := if content then read else failure

/-! ### Tables -/

/-- A table, in key order. Equal tables have equal bytes, because the order is that of the keys and
not of the insertions. -/
def packTable [Ord κ] (key : κ → List UInt8) (value : α → List UInt8) (t : Table κ α) :
    List UInt8 :=
  packMap t.size ++ t.toList.flatMap fun b => key b.1 ++ value b.2

/-- Reads a table; of two entries for one key the later wins. The entries may come in any order. -/
def readTable [Ord κ] [Std.TransOrd κ] [Std.LawfulEqOrd κ] (key : Reader κ) (value : Reader α) :
    Reader (Table κ α) := do
  match ← readHead with
  | .map n => return Table.ofList (← readTimes (do return (← key, ← value)) n)
  | _ => failure

end VerbScript.MessagePack
