import VerbScript.Number.Basic

/-!
# The number nearest to a ratio

`Number.ofRatio` rounds a ratio of naturals to the nearest binary64 number, a tie to the
even significand. Decimal literals, whole numbers and counters all become numbers this way,
so each is rounded once and correctly.
-/

namespace VerbScript.Number

/-- `num / den` rounded to the nearest natural, a half to the even one. The comparison is made on
the doubled rest, so nothing is rounded twice. -/
def roundHalfEven (num den : Nat) : Nat :=
  let quotient := num / den
  let rest := 2 * (num % den)
  if rest < den then quotient
  else if den < rest then quotient + 1
  else quotient + quotient % 2

/-- The greatest `k` with `2 ^ k ≤ num / den`, for positive `num` and `den`. The logarithms give it
or one more. -/
def binaryOrder (num den : Nat) : Int :=
  let guess : Int := (num.log2 : Int) - (den.log2 : Int)
  let reached : Bool :=
    match guess with
    | .ofNat k => den <<< k ≤ num
    | .negSucc k => den ≤ num <<< (k + 1)
  if reached then guess else guess - 1

/-- The magnitude bits of the number nearest to `num / den`, for a positive `den`. What lies halfway
goes to the even neighbour, and what is too large is infinite. -/
def nearestMagnitude (num den : Nat) : UInt64 :=
  if num = 0 then 0
  else
    let shift : Int := max (binaryOrder num den - 52) (-1074)
    let significand :=
      match shift with
      | .ofNat k => roundHalfEven num (den <<< k)
      | .negSucc k => roundHalfEven (num <<< (k + 1)) den
    -- adding also carries a significand of `2 ^ 53` into the exponent
    let encoded := (shift + 1074).toNat * hiddenBit + significand
    if encoded < infiniteMagnitude.toNat then encoded.toUInt64 else infiniteMagnitude

/-- The number nearest to `± num / den`, for a positive `den`; too large a ratio is infinite. -/
def ofRatio (negative : Bool) (num den : Nat) : Number :=
  signed negative (nearestMagnitude num den)

/-- The number nearest to a natural, which is the natural itself up to `2 ^ 53`. -/
def ofNat (n : Nat) : Number := ofRatio false n 1

/-- The number nearest to an integer; the integer zero is positive zero. -/
def ofInt (n : Int) : Number := ofRatio (n < 0) n.natAbs 1

end VerbScript.Number
