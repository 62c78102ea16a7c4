import VerbScript.Number.Rounding

/-!
# Decimal text of numbers

Reading: `Number.ofLiteral?` reads the decimal literals of the language, `4`, `-2.5`, `.5`,
`1e3`, rounding correctly.

Writing: `Number.shortest` finds the fewest decimal digits that read back as the number, and
of those the nearest to it. `Number.display` is the text scripts see: a whole number below
`10 ^ 15` in size is written without a fraction or the sign of a zero, and no number is ever
written with an exponent. `Number.outline` is the text of a number in the outline of a script.
-/

namespace VerbScript.Number

/-! ### Reading -/

/-- Splits off the leading decimal digits. -/
def spanDigits (cs : List Char) : List Char × List Char := cs.span Char.isDigit

/-- The natural with the given decimal digits, zero if there are none. -/
def digitsValue (cs : List Char) : Nat :=
  cs.foldl (fun n c => 10 * n + (c.toNat - '0'.toNat)) 0

/-- A power of ten, exactly. -/
def pow10 (k : Nat) : Nat := Nat.pow 10 k

/-- The exponent part of a literal: nothing, or `e`, an optional sign and digits. Nothing may stand
behind it. -/
def readExponent? : List Char → Option Int
  | [] => some 0
  | e :: rest =>
    if e = 'e' ∨ e = 'E' then
      let (negative, digits) : Bool × List Char :=
        match rest with
        | '-' :: digits => (true, digits)
        | '+' :: digits => (false, digits)
        | digits => (false, digits)
      if digits.isEmpty || !digits.all Char.isDigit then none
      else if negative then some (-(digitsValue digits : Int))
      else some (digitsValue digits : Int)
    else none

/-- The number nearest to `± mantissa · 10 ^ scale`, where the mantissa has at most `digits`
digits. A scale beyond every number is not raised to a power first. -/
def ofScaled (negative : Bool) (mantissa digits : Nat) (scale : Int) : Number :=
  if mantissa = 0 then signed negative 0
  else if 400 < scale then signed negative infiniteMagnitude
  else if scale + digits < -400 then signed negative 0
  else
    match scale with
    | .ofNat k => ofRatio negative (mantissa * pow10 k) 1
    | .negSucc k => ofRatio negative mantissa (pow10 (k + 1))

/-- Reads an unsigned decimal with optional fraction and exponent, and gives it the sign. One of
whole part and fraction may be empty. -/
def readDecimal? (negative : Bool) (cs : List Char) : Option Number :=
  let (whole, rest) := spanDigits cs
  let (fraction, rest) : List Char × List Char :=
    match rest with
    | '.' :: rest => spanDigits rest
    | rest => ([], rest)
  if whole.isEmpty && fraction.isEmpty then none
  else
    (readExponent? rest).map fun exponent =>
      let digits := whole ++ fraction
      ofScaled negative (digitsValue digits) digits.length (exponent - fraction.length)

/-- Reads a number literal: an optional `-`, then a decimal that starts with a digit or with
a point and a digit. A literal too large for a finite number is none, and a literal of digits
only is an integer, so `-0` is positive zero. -/
def ofLiteral? (cs : List Char) : Option Number :=
  let (negative, unsigned) : Bool × List Char :=
    match cs with
    | '-' :: rest => (true, rest)
    | rest => (false, rest)
  let start :=
    match unsigned with
    | '.' :: rest => rest
    | rest => rest
  if !(start.head?.any Char.isDigit) then none
  else
    let number :=
      if unsigned.all Char.isDigit then
        some (ofInt (if negative then -(digitsValue unsigned : Int) else digitsValue unsigned))
      else readDecimal? negative unsigned
    number.filter isFinite

/-! ### Writing -/

/-- Decimal digits and a power of ten: `digits · 10 ^ scale`. The same ratio can be written in many
ways. -/
structure Decimal where
  digits : Nat
  scale : Int
deriving DecidableEq

/-- A positive ratio between the two ends of the interval of ratios that round to a number. All
three have one denominator, so that they are compared as naturals. -/
structure Neighbourhood where
  /-- The common denominator. -/
  den : Nat
  /-- The number itself. -/
  value : Nat
  /-- The lower end. -/
  lower : Nat
  /-- The upper end. -/
  upper : Nat
  /-- Whether the ends themselves round to the number. -/
  closed : Bool

/-- The ratios that round to the magnitude of a finite nonzero number. -/
def neighbourhood (x : Number) : Neighbourhood :=
  let m := x.significand
  let value := 4 * m
  -- at a power of two the next lower number is only half as far away
  let lower := if m = hiddenBit ∧ 1 < x.biased then value - 1 else value - 2
  let closed := m % 2 = 0
  match x.exponent - 2 with
  | .ofNat k => ⟨1, value <<< k, lower <<< k, (value + 2) <<< k, closed⟩
  | .negSucc k => ⟨1 <<< (k + 1), value, lower, value + 2, closed⟩

namespace Neighbourhood

/-- Compares `digits · 10 ^ scale` with `num / den`. Both sides are multiplied out instead of
divided. -/
def compareWith (d : Decimal) (num den : Nat) : Ordering :=
  match d.scale with
  | .ofNat k => compare (d.digits * pow10 k * den) num
  | .negSucc k => compare (d.digits * den) (num * pow10 (k + 1))

/-- Whether the decimal rounds to the number. A decimal halfway between two numbers rounds to the
even one, so it counts for one of them. -/
def contains (n : Neighbourhood) (d : Decimal) : Bool :=
  (match compareWith d n.lower n.den with
    | .gt => true
    | .eq => n.closed
    | .lt => false) &&
  (match compareWith d n.upper n.den with
    | .lt => true
    | .eq => n.closed
    | .gt => false)

/-- The multiple of `10 ^ scale` at or just below the number. It is the first candidate for the
digits of a number at this scale. -/
def below (n : Neighbourhood) (scale : Int) : Decimal :=
  match scale with
  | .ofNat k => ⟨n.value / (n.den * pow10 k), scale⟩
  | .negSucc k => ⟨n.value * pow10 (k + 1) / n.den, scale⟩

/-- Whether the number is nearer to `d` than to the next multiple above `d`. -/
def nearerBelow (n : Neighbourhood) (d : Decimal) : Bool :=
  match d.scale with
  | .ofNat k => 2 * n.value < (2 * d.digits + 1) * (n.den * pow10 k)
  | .negSucc k => 2 * (n.value * pow10 (k + 1)) < (2 * d.digits + 1) * n.den

/-- The multiple of `10 ^ scale` that rounds to the number and is nearest to it, if there is
one; halfway the greater is taken. -/
def onGrid? (n : Neighbourhood) (scale : Int) : Option Decimal :=
  let low := n.below scale
  let high : Decimal := ⟨low.digits + 1, scale⟩
  match n.contains low, n.contains high with
  | true, true => some (if n.nearerBelow low then low else high)
  | true, false => some low
  | false, true => some high
  | false, false => none

/-- The least `k` with `value / den < 10 ^ k`. The guess from the binary order is at most two too
low. -/
def decimalOrder (n : Neighbourhood) : Int :=
  let guess : Int := ((binaryOrder n.value n.den) * 30103).fdiv 100000
  let exceeds (k : Int) : Bool := compareWith ⟨1, k⟩ n.value n.den == .gt
  if exceeds guess then guess
  else if exceeds (guess + 1) then guess + 1
  else guess + 2

end Neighbourhood

/-- Drops a final zero digit: the next multiple above `9 · 10 ^ scale` is a power of ten. -/
def Decimal.trimmed (d : Decimal) : Decimal :=
  if d.digits % 10 = 0 then ⟨d.digits / 10, d.scale + 1⟩ else d

/-- The fewest digits that read back as the magnitude of a finite nonzero number, and of
those the nearest: the grids of one digit, two digits and so on are tried in turn, and
seventeen digits always suffice. -/
def shortest (x : Number) : Decimal :=
  let n := x.neighbourhood
  let order := n.decimalOrder
  let found := (List.range 17).findSome? fun (i : Nat) => n.onGrid? (order - (i + 1))
  (found.getD (n.below (order - 17))).trimmed

/-- Writes `digits · 10 ^ scale` in positional form, the point only before a fraction. Zeros fill
the places that the digits leave. -/
def positional (d : Decimal) : List Char :=
  let digits := Nat.toDigits 10 d.digits
  match d.scale with
  | .ofNat k => digits ++ List.replicate k '0'
  | .negSucc k =>
    let places := k + 1
    if places < digits.length then
      digits.take (digits.length - places) ++ '.' :: digits.drop (digits.length - places)
    else '0' :: '.' :: (List.replicate (places - digits.length) '0' ++ digits)

/-- Writes `digits · 10 ^ scale` with one digit before the point and an exponent. Without a second
digit there is no point. -/
def scientific (d : Decimal) : List Char :=
  let digits := Nat.toDigits 10 d.digits
  let exponent := d.scale + (digits.length - 1 : Nat)
  let mantissa :=
    match digits with
    | first :: next :: rest => first :: '.' :: next :: rest
    | short => short
  let sign := if exponent < 0 then ['-'] else []
  mantissa ++ 'e' :: (sign ++ Nat.toDigits 10 exponent.natAbs)

/-- Puts a minus sign before the text of a negative number, a negative zero included. -/
def withSign (x : Number) (text : List Char) : String :=
  String.ofList (if x.negative then '-' :: text else text)

/-- The size from which numbers are no longer written as plain integers. -/
def displayLimit : Nat := pow10 15

/-- The text of a number that scripts see. A whole number of moderate size is shown without a point,
and zero without its sign. -/
def display (x : Number) : String :=
  if x.isNaN then "NaN"
  else if !x.isFinite then x.withSign "inf".toList
  else if x.isZero then "0"
  else if x.isWhole && x.wholePart < displayLimit then
    x.withSign (Nat.toDigits 10 x.wholePart)
  else x.withSign (positional x.shortest)

/-- Whether `10 ^ low ≤ d < 10 ^ high`. -/
def Decimal.within (d : Decimal) (low high : Int) : Bool :=
  let top := d.scale + (Nat.toDigits 10 d.digits).length
  low < top && top ≤ high

/-- The text of a number in the outline of a script: positional from `10 ^ -4` up to
`10 ^ 16`, always with a fraction, and with an exponent outside. -/
def outline (x : Number) : String :=
  if x.isNaN then "NaN"
  else if !x.isFinite then x.withSign "inf".toList
  else if x.isZero then x.withSign "0.0".toList
  else
    let d := x.shortest
    if d.within (-4) 16 then
      let text := positional d
      x.withSign (if text.contains '.' then text else text ++ ['.', '0'])
    else x.withSign (scientific d)

end VerbScript.Number
