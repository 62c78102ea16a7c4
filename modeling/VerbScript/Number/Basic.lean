/-!
# Numbers

The one numeric type of the language: IEEE-754 binary64, held as its bits. Two numbers are
equal as data exactly when their bits are, which tells `0` from `-0` and one NaN from
another; the comparison that scripts see is `Number.same`, and the order that scripts see is
`Number.order?`. Both are decided on the bits, so no statement about them has to look
inside floating-point hardware.

A finite number is `± significand · 2 ^ exponent` (`Number.significand`, `Number.exponent`).
-/

namespace VerbScript

/-- A binary64 floating-point number, given by its bits. All `2 ^ 64` values of the bits are
numbers. -/
structure Number where
  /-- Sign, eleven exponent bits, fifty-two fraction bits. -/
  bits : UInt64
deriving DecidableEq, Inhabited

namespace Number

/-- The bits without the sign. -/
def magnitude (x : Number) : UInt64 := x.bits &&& 0x7FFFFFFFFFFFFFFF

/-- Whether the sign bit is set. -/
def negative (x : Number) : Bool := x.bits ≥ 0x8000000000000000

/-- The magnitude of an infinity; a greater one is a NaN. -/
def infiniteMagnitude : UInt64 := 0x7FF0000000000000

/-- Whether this is one of the values that are no number; there are many, told apart by their
bits. -/
def isNaN (x : Number) : Bool := x.magnitude > infiniteMagnitude

/-- Whether this is neither infinite nor a NaN. -/
def isFinite (x : Number) : Bool := x.magnitude < infiniteMagnitude

/-- Zero of either sign. -/
def isZero (x : Number) : Bool := x.magnitude = 0

/-- Positive zero, the number whose bits are all zero. -/
def zero : Number := ⟨0⟩

/-- The number with the given sign and magnitude bits. -/
def signed (negative : Bool) (magnitude : UInt64) : Number :=
  ⟨if negative then magnitude ||| 0x8000000000000000 else magnitude⟩

/-- The exponent field, which is zero for the numbers next to zero and greatest for infinities and
NaNs. -/
def biased (x : Number) : Nat := (x.magnitude >>> 52).toNat

/-- The bit `2 ^ 52`, which the significand of a normal number has and does not store. -/
def hiddenBit : Nat := 0x10000000000000

/-- The whole factor of a finite number: `± significand · 2 ^ exponent`. A normal number has a
hidden bit above its fraction, a subnormal one has none. -/
def significand (x : Number) : Nat :=
  let fraction := (x.magnitude &&& 0xFFFFFFFFFFFFF).toNat
  if x.biased = 0 then fraction else fraction + hiddenBit

/-- The power of two of a finite number, at least `-1074`. -/
def exponent (x : Number) : Int := (max x.biased 1 : Int) - 1075

/-- A finite number without a fractional part. Below an exponent of zero, the bits that lie behind
the point have to be zero. -/
def isWhole (x : Number) : Bool :=
  x.isFinite &&
    match x.exponent with
    | .ofNat _ => true
    | .negSucc k => x.significand == (x.significand >>> (k + 1)) <<< (k + 1)

/-- The size of a finite number, its fractional part dropped. It is rounded towards zero, whatever
the sign. -/
def wholePart (x : Number) : Nat :=
  match x.exponent with
  | .ofNat k => x.significand <<< k
  | .negSucc k => x.significand >>> (k + 1)

/-- Equality as scripts see it: the zeros are equal and a NaN equals nothing, not even itself. -/
def same (x y : Number) : Bool :=
  !x.isNaN && !y.isNaN && (x.bits == y.bits || (x.isZero && y.isZero))

/-- Whether `x` comes before `y`, for numbers that are not NaN. Of two negative numbers the one of
greater magnitude comes first. -/
def before (x y : Number) : Bool :=
  match x.negative, y.negative with
  | false, false => x.magnitude < y.magnitude
  | true, true => y.magnitude < x.magnitude
  | true, false => !(x.isZero && y.isZero)
  | false, true => false

/-- The order of two numbers as scripts see it; a NaN has none. The two zeros are equal in this
order. -/
def order? (x y : Number) : Option Ordering :=
  if x.isNaN || y.isNaN then none
  else if x.before y then some .lt
  else if y.before x then some .gt
  else some .eq

end Number

end VerbScript
