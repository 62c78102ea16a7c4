/-!
# Object identifiers

An object of the world is named by a 64-bit id, written `#` and its lower-case hex digits.
-/

namespace VerbScript

/-- The identity of an object in the world. That there is an id does not mean that there is an
object. -/
structure ObjectId where
  raw : UInt64
deriving DecidableEq, Inhabited

namespace ObjectId

instance : Ord ObjectId := ⟨fun a b => compare a.raw b.raw⟩

instance : Std.TransOrd ObjectId where
  eq_swap {a b} := @Std.OrientedCmp.eq_swap UInt64 compare _ a.raw b.raw
  isLE_trans {a b c} := @Std.TransCmp.isLE_trans UInt64 compare _ a.raw b.raw c.raw

instance : Std.LawfulEqOrd ObjectId where
  eq_of_compare h := congrArg ObjectId.mk (Std.LawfulEqOrd.eq_of_compare h)
  compare_self {a} := @Std.ReflCmp.compare_self UInt64 compare _ a.raw

/-- The most hex digits a written id has. -/
def maxDigits : Nat := 16

/-- The value of a hex digit of either case. Any other character has none, and makes a text that has
it no id. -/
def hexDigit? (c : Char) : Option Nat :=
  if '0' ≤ c ∧ c ≤ '9' then some (c.toNat - '0'.toNat)
  else if 'a' ≤ c ∧ c ≤ 'f' then some (c.toNat - 'a'.toNat + 10)
  else if 'A' ≤ c ∧ c ≤ 'F' then some (c.toNat - 'A'.toNat + 10)
  else none

/-- The natural with the given hex digits; none if some character is no hex digit. Of no digits it
is zero. -/
def hexValue? (cs : List Char) : Option Nat :=
  cs.foldl (fun n c => n.bind fun n => (hexDigit? c).map (16 * n + ·)) (some 0)

/-- Reads the digits of an id: one to sixteen hex digits of either case. Leading zeros count as
digits. -/
def ofHex? (cs : List Char) : Option ObjectId :=
  if cs.isEmpty || maxDigits < cs.length then none
  else (hexValue? cs).map fun n => ⟨n.toUInt64⟩

/-- The hex digits of an id, without leading zeros. -/
def digits (id : ObjectId) : List Char := Nat.toDigits 16 id.raw.toNat

/-- The written form, `#1f`. It is read back as the same id. -/
def display (id : ObjectId) : String := String.ofList ('#' :: id.digits)

/-- The form in the outline of a script, `ObjectId(#1f)`. -/
def outline (id : ObjectId) : String := "ObjectId(" ++ id.display ++ ")"

end ObjectId

end VerbScript
