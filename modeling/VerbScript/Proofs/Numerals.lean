import Mathlib.Algebra.Group.Nat.Defs
import VerbScript.Number.Decimal
import VerbScript.ObjectId

/-!
# Numerals

The texts of short integers and of object ids are read back as what they were written for.

An integer below `10 ^ 15` in size has fewer than 53 binary digits, so the number nearest to it is
the integer itself. The bits of that number are found again from the sign and the whole part: the
significand is the whole part moved up to the hidden bit, and how far it was moved is the exponent.

* `Number.ShortInteger` — the numbers that are written as plain integers.
* `Number.ofInt_toInt` — such a number is the one nearest to the integer it is.
* `Number.ofLiteral?_display` — its text is a literal of the number.
* `ObjectId.ofHex?_digits` — the digits of an id are read as the id.
-/

namespace VerbScript

namespace Number

/-- **A short integer**: a whole number below `10 ^ 15` in size, other than negative zero. It is
shown as its digits, and is read back from them. -/
structure ShortInteger (x : Number) : Prop where
  whole : x.isWhole = true
  small : x.wholePart < displayLimit
  notNegativeZero : x ≠ ⟨0x8000000000000000⟩

/-- The integer that is left of a finite number without its fractional part, with the sign of the
number. -/
def toInt (x : Number) : Int := if x.negative then -(x.wholePart : Int) else x.wholePart

variable {x : Number}

/-! ### The fields of a number -/

/-- The magnitude is all bits but the first one. -/
theorem toNat_magnitude (x : Number) : x.magnitude.toNat = x.bits.toNat % 2 ^ 63 := by
  have hmask : (0x7FFFFFFFFFFFFFFF : UInt64).toNat = 2 ^ 63 - 1 := rfl
  rw [magnitude, UInt64.toNat_and, hmask, Nat.and_two_pow_sub_one_eq_mod]

/-- The first bit is the sign. -/
theorem negative_iff (x : Number) : x.negative = true ↔ 2 ^ 63 ≤ x.bits.toNat := by
  rw [negative, decide_eq_true_iff, ge_iff_le, UInt64.le_iff_toNat_le]
  rfl

/-- A number is its sign and its magnitude. All bits but the highest one are the magnitude, and both
together are all bits, so this holds of a NaN too. -/
theorem signed_negative_magnitude (x : Number) : signed x.negative x.magnitude = x := by
  have hmagnitude := toNat_magnitude x
  have hbits : x.bits.toNat < 2 ^ 64 := x.bits.toNat_lt
  obtain ⟨bits⟩ := x
  refine congrArg Number.mk (UInt64.toNat_inj.1 ?_)
  cases hsign : negative ⟨bits⟩ with
  -- the sign is the highest bit, and the magnitude has none there, so nothing overlaps
  | true =>
    have hlow := (negative_iff _).1 hsign
    have htop : (0x8000000000000000 : UInt64).toNat = 2 ^ 63 * 1 := rfl
    rw [if_pos rfl, UInt64.toNat_or, htop, Nat.or_comm,
      ← Nat.two_pow_add_eq_or_of_lt (by omega) 1]
    dsimp only at hlow hbits hmagnitude
    omega
  | false =>
    have hhigh : ¬ 2 ^ 63 ≤ bits.toNat := fun h => by
      rw [(negative_iff ⟨bits⟩).2 h] at hsign
      cases hsign
    rw [if_neg Bool.false_ne_true, hmagnitude]
    exact Nat.mod_eq_of_lt (Nat.lt_of_not_le hhigh)

/-- The exponent field is what is above the 52 bits of the fraction. -/
theorem biased_eq (x : Number) : x.biased = x.magnitude.toNat / 2 ^ 52 := by
  rw [biased, UInt64.toNat_shiftRight, Nat.shiftRight_eq_div_pow]
  rfl

/-- The fraction is the 52 bits at the end. Masking them out is the same as a remainder, with which
arithmetic can go on. -/
theorem fraction_eq (x : Number) :
    (x.magnitude &&& 0xFFFFFFFFFFFFF).toNat = x.magnitude.toNat % 2 ^ 52 := by
  have hmask : (0xFFFFFFFFFFFFF : UInt64).toNat = 2 ^ 52 - 1 := rfl
  rw [UInt64.toNat_and, hmask, Nat.and_two_pow_sub_one_eq_mod]

/-- The hidden bit is what the exponent field of a normal number adds to its significand. A
subnormal number has none, and its exponent field counts like that of the smallest normal ones. -/
theorem magnitude_eq (x : Number) :
    x.magnitude.toNat = (max x.biased 1 - 1) * hiddenBit + x.significand := by
  have hsplit := Nat.div_add_mod x.magnitude.toNat (2 ^ 52)
  rw [significand, fraction_eq]
  have hbiased := biased_eq x
  dsimp only [hiddenBit]
  split
  · omega
  · omega

/-- A significand has at most 53 binary digits, the hidden bit included. This bounds how far a
number can be moved before digits are lost. -/
theorem significand_lt (x : Number) : x.significand < 2 * hiddenBit := by
  have hfraction := Nat.mod_lt x.magnitude.toNat (Nat.two_pow_pos 52)
  rw [significand, fraction_eq]
  dsimp only [hiddenBit]
  split <;> omega

/-- The number of a normal exponent field has the hidden bit. -/
theorem hiddenBit_le_significand (h : x.biased ≠ 0) : hiddenBit ≤ x.significand := by
  rw [significand, if_neg h]
  exact Nat.le_add_left _ _

/-! ### Whole numbers -/

/-- A subnormal number is a fraction, unless it is zero. It has an exponent so small that all bits
of the significand are behind the point. -/
theorem biased_ne_zero_of_whole (hwhole : x.isWhole = true) (hzero : x.magnitude ≠ 0) :
    x.biased ≠ 0 := by
  intro hbiased
  -- with an exponent field of zero, the significand is moved down by 1074 places
  have hexponent : x.exponent = .negSucc 1073 := by
    rw [exponent, hbiased]
    rfl
  rw [isWhole, Bool.and_eq_true, hexponent] at hwhole
  have hmoved := eq_of_beq hwhole.2
  -- so many places take all of the significand away
  have hpart : x.significand >>> (1073 + 1) = 0 := by
    rw [show 1073 + 1 = 1074 from rfl, Nat.shiftRight_eq_div_pow]
    refine Nat.div_eq_of_lt (Nat.lt_of_lt_of_le (significand_lt x) ?_)
    calc 2 * hiddenBit = 2 ^ 53 := rfl
      _ ≤ 2 ^ 1074 := Nat.pow_le_pow_right (by decide) (by decide)
  rw [hpart, Nat.zero_shiftLeft] at hmoved
  -- nothing is left, so the number was zero
  have hmagnitude := magnitude_eq x
  rw [hmoved, hbiased] at hmagnitude
  exact hzero (UInt64.toNat_inj.1 hmagnitude)

/-- Below the hidden bit a whole number other than zero has a negative exponent, and its
significand is the whole part moved up. -/
theorem scaled_of_whole (hwhole : x.isWhole = true) (hsmall : x.wholePart < hiddenBit)
    (hzero : x.magnitude ≠ 0) :
    ∃ k, k < 1074 ∧ x.biased + (k + 1) = 1075 ∧ x.significand = x.wholePart * 2 ^ (k + 1) := by
  have hnormal := biased_ne_zero_of_whole hwhole hzero
  -- the significand has the hidden bit, which the whole part is too small for
  have hbit := hiddenBit_le_significand hnormal
  rw [isWhole, Bool.and_eq_true] at hwhole
  obtain ⟨-, hscaled⟩ := hwhole
  rw [wholePart] at hsmall ⊢
  cases hexponent : x.exponent with
  | ofNat k =>
    -- a significand that is not moved down is too large already
    rw [hexponent] at hsmall
    dsimp only at hsmall
    rw [Nat.shiftLeft_eq] at hsmall
    have hgrown := Nat.le_mul_of_pos_right x.significand (Nat.two_pow_pos k)
    omega
  | negSucc k =>
    rw [hexponent] at hscaled
    dsimp only at hscaled ⊢
    have hmoved := eq_of_beq hscaled
    rw [Nat.shiftLeft_eq] at hmoved
    rw [exponent] at hexponent
    exact ⟨k, by omega, by omega, hmoved⟩

/-- Rounding to a whole denominator of one changes nothing. -/
theorem roundHalfEven_one (n : Nat) : roundHalfEven n 1 = n := by
  rw [roundHalfEven, Nat.div_one, Nat.mod_one]
  rfl

/-- The binary order of a natural number is that of its leading digit. The first guess, which
compares leading digits, is right here, as the denominator is one. -/
theorem binaryOrder_one {n : Nat} (h : n ≠ 0) : binaryOrder n 1 = n.log2 := by
  have hguess : ((n.log2 : Nat) : Int) - ((Nat.log2 1 : Nat) : Int) = .ofNat n.log2 := by
    rw [show Nat.log2 1 = 0 from rfl]
    exact Int.sub_zero _
  have hreached : 1 <<< n.log2 ≤ n := by
    rw [Nat.shiftLeft_eq, Nat.one_mul]
    exact Nat.log2_self_le h
  rw [binaryOrder, hguess]
  dsimp only
  rw [if_pos (decide_eq_true hreached)]
  rfl

/-- Moving a number up by some places moves its leading digit. No other digit has a part in its
order. -/
theorem log2_mul_two_pow {n : Nat} (h : n ≠ 0) (k : Nat) : (n * 2 ^ k).log2 = n.log2 + k := by
  refine (Nat.log2_eq_iff (Nat.mul_ne_zero h (Nat.ne_of_gt (Nat.two_pow_pos k)))).2 ⟨?_, ?_⟩
  · rw [Nat.pow_add]
    exact Nat.mul_le_mul_right _ (Nat.log2_self_le h)
  · rw [Nat.add_right_comm, Nat.pow_add]
    exact Nat.mul_lt_mul_of_pos_right Nat.lt_log2_self (Nat.two_pow_pos k)

/-- A whole part that is moved up to the hidden bit is its own nearest number. There is room for all
its bits, so that nothing has to be rounded, and this is the reason why integers are read back
exactly. -/
theorem nearestMagnitude_of_scaled {n k : Nat} (hlow : hiddenBit ≤ n * 2 ^ (k + 1))
    (hhigh : n * 2 ^ (k + 1) < 2 * hiddenBit) (hk : k < 1074) :
    nearestMagnitude n 1 = ((1074 - (k + 1)) * hiddenBit + n * 2 ^ (k + 1)).toUInt64 := by
  have hn : n ≠ 0 := by
    rintro rfl
    rw [Nat.zero_mul] at hlow
    exact absurd hlow (by decide)
  -- the hidden bit is the leading one of the whole part, `k + 1` places further up
  have horder : n.log2 + (k + 1) = 52 := by
    rw [← log2_mul_two_pow hn]
    exact (Nat.log2_eq_iff (Nat.mul_ne_zero hn (Nat.ne_of_gt (Nat.two_pow_pos _)))).2 ⟨hlow, hhigh⟩
  -- so the nearest number has the same exponent, and rounding has nothing to cut off
  have hshift : max (binaryOrder n 1 - 52) (-1074) = .negSucc k := by
    rw [binaryOrder_one hn]
    omega
  have hplaces : (Int.negSucc k + 1074).toNat = 1074 - (k + 1) := by omega
  -- this is far from the largest exponent, so the number is finite
  have hfits : (1074 - (k + 1)) * hiddenBit + n * 2 ^ (k + 1) < infiniteMagnitude.toNat := by
    have hlimit : infiniteMagnitude.toNat = 2047 * hiddenBit := rfl
    have hmost : (1074 - (k + 1)) * hiddenBit ≤ 1074 * hiddenBit :=
      Nat.mul_le_mul_right _ (by omega)
    omega
  rw [nearestMagnitude, if_neg hn]
  dsimp only
  rw [hshift]
  dsimp only
  simp only [roundHalfEven_one, Nat.shiftLeft_eq, hplaces]
  exact if_pos hfits

/-- Of the two zeros the positive one is a short integer. The negative one is shown as the same
digit, so it would not be read back. -/
theorem ShortInteger.eq_zero (h : x.ShortInteger) (hzero : x.magnitude = 0) : x = zero := by
  have hx := signed_negative_magnitude x
  rw [hzero] at hx
  cases hsign : x.negative with
  | true =>
    rw [hsign] at hx
    exact absurd hx.symm h.notNegativeZero
  | false =>
    rw [hsign] at hx
    exact hx.symm

/-- A whole number is finite. -/
theorem ShortInteger.isFinite (h : x.ShortInteger) : x.isFinite = true :=
  ((Bool.and_eq_true _ _).mp h.whole).1

/-- **A short integer is the number nearest to the integer it is.** It is small enough for all its
binary digits to fit, so that nothing is rounded. -/
theorem ofInt_toInt (h : x.ShortInteger) : ofInt x.toInt = x := by
  have hlimit : displayLimit ≤ hiddenBit := by decide
  by_cases hzero : x.magnitude = 0
  · rw [h.eq_zero hzero]
    decide
  · obtain ⟨k, hk, hbiased, hscaled⟩ :=
      scaled_of_whole h.whole (Nat.lt_of_lt_of_le h.small hlimit) hzero
    -- the significand is the whole part moved up to the hidden bit
    have hlow : hiddenBit ≤ x.significand := hiddenBit_le_significand (by omega)
    have hhigh := significand_lt x
    rw [hscaled] at hlow hhigh
    -- the nearest number has the same significand at the same place
    have hnearest : nearestMagnitude x.wholePart 1 = x.magnitude := by
      rw [nearestMagnitude_of_scaled hlow hhigh hk, ← hscaled]
      have hplaces : 1074 - (k + 1) = max x.biased 1 - 1 := by omega
      rw [hplaces, ← magnitude_eq]
      exact UInt64.ofNat_toNat
    have hpos : 0 < x.wholePart := by
      refine Nat.pos_of_ne_zero fun h0 => ?_
      rw [h0, Nat.zero_mul] at hlow
      exact absurd hlow (by decide)
    -- zero has been settled, so the sign of the number is that of the integer
    have hsign : decide (x.toInt < 0) = x.negative := by
      rw [toInt]
      cases x.negative with
      | true => exact decide_eq_true (show -(x.wholePart : Int) < 0 by omega)
      | false => exact decide_eq_false (show ¬ (x.wholePart : Int) < 0 by omega)
    have habs : x.toInt.natAbs = x.wholePart := by
      rw [toInt]
      split <;> omega
    calc ofInt x.toInt = signed x.negative (nearestMagnitude x.wholePart 1) := by
          rw [ofInt, ofRatio, hsign, habs]
      _ = x := by rw [hnearest, signed_negative_magnitude]

/-! ### The text of an integer -/

/-- The value of the decimal digits of a number is the number. -/
theorem digitsValue_toDigits (n : Nat) : digitsValue (Nat.toDigits 10 n) = n :=
  Nat.ofDigitChars_toDigits (by decide) (by decide)

/-- These digits are characters that the lexer takes for digits. -/
theorem isDigit_of_mem_toDigits {n : Nat} {c : Char} (h : c ∈ Nat.toDigits 10 n) :
    c.isDigit = true := Nat.isDigit_of_mem_toDigits (by decide) (by decide) h

/-- **The text of a short integer** is its decimal digits after its sign, without any of the other
signs that texts of numbers can have. -/
theorem ShortInteger.display_eq (h : x.ShortInteger) :
    x.display = x.withSign (Nat.toDigits 10 x.wholePart) := by
  have hfinite := h.isFinite
  -- a finite number is neither infinite nor a NaN, and both are shown in other ways
  have hnan : x.isNaN = false := by
    rw [Number.isFinite, decide_eq_true_iff, UInt64.lt_iff_toNat_lt] at hfinite
    rw [isNaN, decide_eq_false_iff_not, gt_iff_lt, UInt64.lt_iff_toNat_lt]
    omega
  rw [display, hnan, if_neg Bool.false_ne_true, hfinite, if_neg (by decide)]
  split
  · -- zero has a text of its own, which is its only digit
    next hzero =>
    rw [h.eq_zero (of_decide_eq_true hzero)]
    decide
  · rw [h.whole, decide_eq_true h.small]
    rfl

/-- A literal of digits after a sign is an integer. Neither a point nor an exponent follows, so the
whole text is its digits. -/
theorem ofLiteral?_digits {digits : List Char} (hne : digits ≠ [])
    (hall : ∀ c ∈ digits, c.isDigit = true) (negative : Bool) :
    ofLiteral? (if negative then '-' :: digits else digits) =
      (some (ofInt (if negative then -(digitsValue digits : Int) else digitsValue digits))).filter
        isFinite := by
  obtain ⟨first, rest, rfl⟩ := List.exists_cons_of_ne_nil hne
  have hfirst : first.isDigit = true := hall first List.mem_cons_self
  -- a digit is no sign and no point, so the text is read as digits from its beginning
  have hminus : first ≠ '-' := by
    rintro rfl
    exact absurd hfirst (by decide)
  have hpoint : first ≠ '.' := by
    rintro rfl
    exact absurd hfirst (by decide)
  have hdigits : (first :: rest).all Char.isDigit = true := List.all_eq_true.2 hall
  cases negative with
  | true => simp [ofLiteral?, hpoint, hfirst, hdigits]
  | false => simp [ofLiteral?, hminus, hpoint, hfirst, hdigits]

/-- **A short integer is read back** from its text: the digits are read as the integer, and the
number nearest to this is the one it was. -/
theorem ofLiteral?_display (h : x.ShortInteger) : ofLiteral? x.display.toList = some x := by
  rw [h.display_eq, withSign, String.toList_ofList,
    ofLiteral?_digits Nat.toDigits_ne_nil (fun _ => isDigit_of_mem_toDigits), digitsValue_toDigits]
  show (some (ofInt x.toInt)).filter isFinite = some x
  rw [ofInt_toInt h]
  exact Option.filter_some_pos h.isFinite

end Number

/-! ### The digits of an id -/

/-- The characters of a numeral are digits below the base. The induction is on the number without
its last digit. -/
theorem exists_digitChar_of_mem {base n : Nat} (hbase : 1 < base) {c : Char}
    (h : c ∈ Nat.toDigits base n) : ∃ d < base, c = d.digitChar := by
  induction n using Nat.strongRecOn with
  | _ n ih =>
    rw [Nat.toDigits_eq_if hbase] at h
    split at h
    · next hlast => exact ⟨n, hlast, List.mem_singleton.1 h⟩
    · next hmore =>
      rcases List.mem_append.1 h with h | h
      · exact ih (n / base) (Nat.div_lt_self (by omega) hbase) h
      · exact ⟨n % base, Nat.mod_lt n (by omega), List.mem_singleton.1 h⟩

namespace ObjectId

/-- A hexadecimal digit is read as its value. -/
theorem hexDigit?_digitChar {d : Nat} (h : d < 16) : hexDigit? d.digitChar = some d := by
  revert h d
  decide

/-- A further digit makes sixteen times the value, and its own. Ids are read from their first digit
on, so the last one is added at the end. -/
theorem hexValue?_concat (cs : List Char) (c : Char) :
    hexValue? (cs ++ [c]) = (hexValue? cs).bind fun n => (hexDigit? c).map (16 * n + ·) := by
  rw [hexValue?, List.foldl_append]
  rfl

/-- The hexadecimal digits of a number have it as their value. The induction is on the number
without its last digit. -/
theorem hexValue?_toDigits (n : Nat) : hexValue? (Nat.toDigits 16 n) = some n := by
  induction n using Nat.strongRecOn with
  | _ n ih =>
    rw [Nat.toDigits_eq_if (by decide)]
    split
    · next hlast =>
      have hvalue := hexValue?_concat [] n.digitChar
      rw [hexDigit?_digitChar hlast] at hvalue
      exact hvalue.trans (congrArg some (Nat.zero_add n))
    · next hmore =>
      have hbelow : n / 16 < n := Nat.div_lt_self (by omega) (by decide)
      rw [hexValue?_concat, ih _ hbelow, hexDigit?_digitChar (Nat.mod_lt n (by decide))]
      exact congrArg some (Nat.div_add_mod n 16)

/-- **The digits of an id are read as the id.** Small and large letters are read alike; small ones
are written. -/
theorem ofHex?_digits (id : ObjectId) : ofHex? id.digits = some id := by
  have hempty : id.digits.isEmpty = false := List.isEmpty_eq_false_iff.2 Nat.toDigits_ne_nil
  -- an id has 64 bits, so it has no more digits than an id may have
  have hlength : id.digits.length ≤ maxDigits :=
    (Nat.length_toDigits_le_iff (by decide) (by decide)).2 id.raw.toNat_lt
  have hshort : ¬ (id.digits.isEmpty || decide (maxDigits < id.digits.length)) = true := by
    rw [hempty, Bool.false_or, decide_eq_true_iff]
    exact Nat.not_lt_of_le hlength
  rw [ofHex?, if_neg hshort, digits, hexValue?_toDigits]
  exact congrArg (fun raw => some (ObjectId.mk raw)) UInt64.ofNat_toNat

end ObjectId

end VerbScript
