import VerbScript.Number.Rounding

/-!
# MessagePack

Items of the MessagePack format, as bytes. An item begins with a `Head`: a scalar is all head,
and the head of a string or container says how much follows. Writing always takes the shortest
head (`packUInt`, `packStr`, `packArray`, `packMap`); reading (`readHead`) takes any.

A `Reader` goes through bytes from left to right and fails where they do not fit or end.
-/

namespace VerbScript.MessagePack

/-- The beginning of an item. Heads of different bytes may be equal: there are several ways to write
a small number or a short string. -/
inductive Head where
  | nil
  | bool (b : Bool)
  /-- An integer in an unsigned form. -/
  | uint (n : Nat)
  /-- An integer in a signed form. -/
  | int (n : Int)
  | float (x : Number)
  | str (length : Nat)
  | bin (length : Nat)
  | array (length : Nat)
  | map (length : Nat)
  /-- An extension with this many bytes after its type. -/
  | ext (length : Nat)
deriving DecidableEq

/-! ### Writing -/

/-- The lowest `width` bytes of a number, the highest first. What does not fit is dropped at the
front. -/
def bigEndian : (width : Nat) → Nat → List UInt8
  | 0, _ => []
  | width + 1, n => (n / Nat.pow 256 width).toUInt8 :: bigEndian width n

/-- What is missing. -/
def packNil : List UInt8 := [0xC0]

/-- A truth value. -/
def packBool (b : Bool) : List UInt8 := [if b then 0xC3 else 0xC2]

/-- A number below `2 ^ 64`, in the shortest of five forms. The form is chosen by the number alone,
so a number has one spelling. -/
def packUInt (n : Nat) : List UInt8 :=
  if n < 0x80 then [n.toUInt8]
  else if n < UInt8.size then 0xCC :: bigEndian 1 n
  else if n < UInt16.size then 0xCD :: bigEndian 2 n
  else if n < UInt32.size then 0xCE :: bigEndian 4 n
  else 0xCF :: bigEndian 8 n

/-- A number, by its eight bytes. -/
def packFloat (x : Number) : List UInt8 := 0xCB :: bigEndian 8 x.bits.toNat

/-- The UTF-8 bytes of a text. -/
def utf8 (text : String) : List UInt8 := text.toUTF8.data.toList

/-- The head of a string of the given length. The length counts bytes, and up to 31 it is part of
the first byte. -/
def packStrHead (length : Nat) : List UInt8 :=
  if length < 0x20 then [(0xA0 + length).toUInt8]
  else if length < UInt8.size then 0xD9 :: bigEndian 1 length
  else if length < UInt16.size then 0xDA :: bigEndian 2 length
  else 0xDB :: bigEndian 4 length

/-- A text: its length in bytes, and the bytes. The bytes are those of UTF-8. -/
def packStr (text : String) : List UInt8 :=
  let bytes := utf8 text
  packStrHead bytes.length ++ bytes

/-- The head of an array of the given length. The items follow, each with a head of its own. -/
def packArray (length : Nat) : List UInt8 :=
  if length < 0x10 then [(0x90 + length).toUInt8]
  else if length < UInt16.size then 0xDC :: bigEndian 2 length
  else 0xDD :: bigEndian 4 length

/-- The head of a map with the given number of entries. A key and a value follow for each of
them. -/
def packMap (length : Nat) : List UInt8 :=
  if length < 0x10 then [(0x80 + length).toUInt8]
  else if length < UInt16.size then 0xDE :: bigEndian 2 length
  else 0xDF :: bigEndian 4 length

/-! ### Reading -/

/-- Goes through bytes from left to right. It results in what was read and the bytes behind it, or
in nothing; what went wrong is not told. -/
abbrev Reader := StateT (List UInt8) Option

/-- The next byte. At the end of the input there is none, and the reader refuses. -/
def readByte : Reader UInt8 := fun bytes =>
  match bytes with
  | [] => none
  | b :: rest => some (b, rest)

/-- The next `n` bytes, if there are so many. With fewer of them none is taken. -/
def readBytes (n : Nat) : Reader (List UInt8) := fun bytes =>
  let (taken, rest) := bytes.splitAt n
  if taken.length = n then some (taken, rest) else none

/-- The number with the given bytes, the highest first. -/
def bigEndianValue (bytes : List UInt8) : Nat := bytes.foldl (fun n b => 256 * n + b.toNat) 0

/-- The next `width` bytes as a number. -/
def readUnsigned (width : Nat) : Reader Nat := do return bigEndianValue (← readBytes width)

/-- The next `width` bytes as a number in two's complement. The upper half of the range stands for
the negative numbers. -/
def readSigned (width : Nat) : Reader Int := do
  let n ← readUnsigned width
  return if 2 * n < Nat.pow 256 width then (n : Int) else (n : Int) - (Nat.pow 256 width : Nat)

/-- The number with the given binary32 bits; every one has a binary64 form. A NaN becomes a quiet
one, and keeps the rest of its bits. -/
def widen (bits : Nat) : Number :=
  let negative := 0x80000000 ≤ bits
  let biased := bits / 0x800000 % 0x100
  let fraction := bits % 0x800000
  if biased = 0xFF then
    let quiet : Nat := if fraction = 0 then 0 else 0x8000000000000
    .signed negative (Number.infiniteMagnitude ||| (fraction <<< 29 ||| quiet).toUInt64)
  else if biased = 0 then .ofRatio negative fraction (1 <<< 149)
  else .ofRatio negative ((0x800000 + fraction) <<< biased) (1 <<< 150)

/-- The head of the next item. One byte, `0xC1`, begins no item. -/
def readHead : Reader Head := do
  let b := (← readByte).toNat
  if b < 0x80 then return .uint b
  else if b < 0x90 then return .map (b - 0x80)
  else if b < 0xA0 then return .array (b - 0x90)
  else if b < 0xC0 then return .str (b - 0xA0)
  else if 0xE0 ≤ b then return .int ((b : Int) - 0x100)
  else
    match b with
    | 0xC0 => return .nil
    | 0xC2 => return .bool false
    | 0xC3 => return .bool true
    | 0xC4 => return .bin (← readUnsigned 1)
    | 0xC5 => return .bin (← readUnsigned 2)
    | 0xC6 => return .bin (← readUnsigned 4)
    | 0xC7 => return .ext (← readUnsigned 1)
    | 0xC8 => return .ext (← readUnsigned 2)
    | 0xC9 => return .ext (← readUnsigned 4)
    | 0xCA => return .float (widen (← readUnsigned 4))
    | 0xCB => return .float ⟨(← readUnsigned 8).toUInt64⟩
    | 0xCC => return .uint (← readUnsigned 1)
    | 0xCD => return .uint (← readUnsigned 2)
    | 0xCE => return .uint (← readUnsigned 4)
    | 0xCF => return .uint (← readUnsigned 8)
    | 0xD0 => return .int (← readSigned 1)
    | 0xD1 => return .int (← readSigned 2)
    | 0xD2 => return .int (← readSigned 4)
    | 0xD3 => return .int (← readSigned 8)
    | 0xD4 => return .ext 1
    | 0xD5 => return .ext 2
    | 0xD6 => return .ext 4
    | 0xD7 => return .ext 8
    | 0xD8 => return .ext 16
    | 0xD9 => return .str (← readUnsigned 1)
    | 0xDA => return .str (← readUnsigned 2)
    | 0xDB => return .str (← readUnsigned 4)
    | 0xDC => return .array (← readUnsigned 2)
    | 0xDD => return .array (← readUnsigned 4)
    | 0xDE => return .map (← readUnsigned 2)
    | 0xDF => return .map (← readUnsigned 4)
    | _ => failure

/-- Reads `n` times. A count that is greater than what follows fails when the bytes end, so it need
not be checked beforehand. -/
def readTimes {α : Type} (read : Reader α) : Nat → Reader (List α)
  | 0 => return []
  | n + 1 => do return (← read) :: (← readTimes read n)

/-- Passes over what follows the head of an item that is no container. A text need not be valid
here. -/
def skipPlain : Head → Reader Unit
  | .nil | .bool _ | .uint _ | .int _ | .float _ => return
  | .str n | .bin n => do let _ ← readBytes n
  | .ext _ | .array _ | .map _ => failure

/-- Passes over an item whose containers are nested at most `depth` deep. An empty container and
an extension count as one level. -/
def skip : (depth : Nat) → Reader Unit
  | 0 => do skipPlain (← readHead)
  | depth + 1 => do
    match ← readHead with
    | .ext n => do let _ ← readBytes (n + 1)
    | .array n => do let _ ← readTimes (skip depth) n
    | .map n => do let _ ← readTimes (skip depth) (2 * n)
    | head => skipPlain head

/-- A truth value. No other item is taken for one, neither a number nor nil. -/
def readBool : Reader Bool := do
  match ← readHead with
  | .bool b => return b
  | _ => failure

/-- A number that is not negative, in a form of at most 64 bits. The form may be a signed one. -/
def readUInt : Reader Nat := do
  match ← readHead with
  | .uint n => return n
  | .int (.ofNat n) => return n
  | _ => failure

/-- A number in floating-point or integer form. An integer is rounded if it has to be. -/
def readFloat : Reader Number := do
  match ← readHead with
  | .float x => return x
  | .uint n => return .ofNat n
  | .int n => return .ofInt n
  | _ => failure

/-- The text with the given UTF-8 bytes. -/
def textOf? (bytes : List UInt8) : Option String := String.fromUTF8? ⟨bytes.toArray⟩

/-- A text, as a string or as bytes. Either has to be valid UTF-8. -/
def readStr : Reader String := do
  match ← readHead with
  | .str n | .bin n => do
    match textOf? (← readBytes n) with
    | some text => return text
    | none => failure
  | _ => failure

/-- The empty array, as no bytes. Whoever writes bytes where an array is read may write an empty one
in this way. -/
def readNoItems {α : Type} : Reader (List α) := do
  match ← readHead with
  | .bin 0 => return []
  | _ => failure

/-- Reads an array of items; the empty one may also be given as no bytes. The head says how many
items are read. -/
def readArray {α : Type} (read : Reader α) : Reader (List α) := do
  match ← readHead with
  | .array n => readTimes read n
  | .bin 0 => return []
  | _ => failure

/-- Reads nil as none and anything else as some. The byte is looked at without reading the item. -/
def readOption {α : Type} (read : Reader α) : Reader (Option α) := fun bytes =>
  match bytes with
  | 0xC0 :: rest => some (none, rest)
  | bytes => (some <$> read) bytes

end VerbScript.MessagePack
