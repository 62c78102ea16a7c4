import VerbScript.Number.Basic

/-!
# Arithmetic on numbers

The four operations of IEEE-754 with round-to-nearest. A NaN operand is handed on, made
quiet, the left one first; an operation that has no answer of its own (`∞ - ∞`, `0 · ∞`)
gives `Number.undefined`.
-/

namespace VerbScript.Number

/-- The NaN of an operation without an answer. -/
def undefined : Number := ⟨0xFFF8000000000000⟩

/-- Marks a NaN as quiet. Its other bits stay. -/
def quiet (x : Number) : Number := ⟨x.bits ||| 0x0008000000000000⟩

/-- Reads the bits as a hardware number. -/
def toFloat (x : Number) : Float := Float.ofBits x.bits

/-- Applies a hardware operation, with the rules for NaN made explicit, since hardware differs in
which NaN it gives. -/
def lift (op : Float → Float → Float) (x y : Number) : Number :=
  if x.isNaN then x.quiet
  else if y.isNaN then y.quiet
  else
    let result : Number := ⟨(op x.toFloat y.toFloat).toBits⟩
    if result.isNaN then undefined else result

/-- The sum. -/
def add : Number → Number → Number := lift (· + ·)

/-- The difference. -/
def sub : Number → Number → Number := lift (· - ·)

/-- The product. -/
def mul : Number → Number → Number := lift (· * ·)

/-- The quotient. That scripts cannot divide by zero is up to the operator. -/
def div : Number → Number → Number := lift (· / ·)

instance : Add Number := ⟨add⟩

instance : Sub Number := ⟨sub⟩

instance : Mul Number := ⟨mul⟩

instance : Div Number := ⟨div⟩

end VerbScript.Number
