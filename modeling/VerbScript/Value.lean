import VerbScript.Number.Decimal
import VerbScript.ObjectId

/-!
# Values

What scripts compute with. Equality as scripts see it is `Value.same`, which compares numbers
by `Number.same`; `Value.display` is the text a value contributes to a string.
-/

namespace VerbScript

/-- The dynamic type of a value, by which operators and indices decide what they take. -/
inductive Kind where
  | null
  | bool
  | number
  | string
  | array
  | object
deriving DecidableEq, Inhabited

/-- The name of a kind in messages. -/
def Kind.name : Kind → String
  | .null => "null"
  | .bool => "bool"
  | .number => "number"
  | .string => "string"
  | .array => "array"
  | .object => "object"

/-- A value of the language. Arrays hold values of any kinds, and nothing in a value can be changed
in place. -/
inductive Value where
  | null
  | bool (b : Bool)
  | number (n : Number)
  | str (text : String)
  | array (items : List Value)
  | object (id : ObjectId)
deriving Inhabited

namespace Value

/-- The dynamic type of a value. Arrays have one type, whatever their items are. -/
def kind : Value → Kind
  | null => .null
  | bool _ => .bool
  | number _ => .number
  | str _ => .string
  | array _ => .array
  | object _ => .object

/-- Whether the value is null, which is also what a variable has that was never set. -/
def isNull : Value → Bool
  | null => true
  | _ => false

/-- Whether a condition with this value holds: `null`, `false`, zero, NaN and the empty string
do not; every array and every object does. -/
def truthy : Value → Bool
  | null => false
  | bool b => b
  | number n => !n.isZero && !n.isNaN
  | str text => !text.isEmpty
  | array _ => true
  | object _ => true

/-- The greatest index that can be asked for; a larger number counts as this one, which is beyond
every array all the same. -/
def maxIndex : Nat := UInt64.size - 1

/-- The value as an array index: a whole number that is not negative. Negative zero counts as zero,
and what is larger than any index is taken for the largest. -/
def asIndex? : Value → Option Nat
  | number n =>
    if n.isWhole && (!n.negative || n.isZero) then some (min n.wholePart maxIndex) else none
  | _ => none

mutual

/-- Equality as scripts see it. Values of different kinds are never equal, and an array with a NaN
in it does not equal itself. -/
def same : Value → Value → Bool
  | null, null => true
  | bool a, bool b => a == b
  | number a, number b => a.same b
  | str a, str b => a == b
  | array a, array b => sameItems a b
  | object a, object b => a == b
  | _, _ => false

/-- Arrays are equal when they have the same length and equal items. An item that is a NaN makes
them different, even from themselves. -/
def sameItems : List Value → List Value → Bool
  | [], [] => true
  | a :: as, b :: bs => same a b && sameItems as bs
  | _, _ => false

end

mutual

/-- Whether two values are the same data. Unlike `same`, this goes by the bits of a number: a NaN
equals itself, and the two zeros differ. -/
def beq : Value → Value → Bool
  | null, null => true
  | bool a, bool b => a == b
  | number a, number b => a == b
  | str a, str b => a == b
  | array a, array b => beqItems a b
  | object a, object b => a == b
  | _, _ => false

/-- Whether two arrays have the same items. -/
def beqItems : List Value → List Value → Bool
  | [], [] => true
  | a :: as, b :: bs => beq a b && beqItems as bs
  | _, _ => false

end

mutual

/-- The comparison decides equality. The proof follows the recursion of `beq`, with `beqItems_iff`
for the lists. -/
theorem beq_iff : (a b : Value) → (beq a b = true ↔ a = b)
  | null, b | bool _, b | number _, b | str _, b | object _, b => by cases b <;> simp [beq]
  | array as, b => by cases b <;> simp [beq, beqItems_iff as]

/-- The comparison of items decides equality of lists. -/
theorem beqItems_iff : (as bs : List Value) → (beqItems as bs = true ↔ as = bs)
  | [], bs => by cases bs <;> simp [beqItems]
  | a :: as, bs => by cases bs <;> simp [beqItems, beq_iff a, beqItems_iff as]

end

instance : DecidableEq Value := fun a b => decidable_of_iff (beq a b = true) (beq_iff a b)

mutual

/-- The text of a value: a string is its own text, an array lists its items in brackets. The text
does not tell the string `1` from the number. -/
def display : Value → String
  | null => "null"
  | bool true => "true"
  | bool false => "false"
  | number n => n.display
  | str text => text
  | array items => "[" ++ ", ".intercalate (displayItems items) ++ "]"
  | object id => id.display

/-- The texts of the items of an array. -/
def displayItems : List Value → List String
  | [] => []
  | item :: rest => display item :: displayItems rest

end

/-- The text of a value shown to a user: strings are quoted, to tell them from words. -/
def shown : Value → String
  | str text => "'" ++ text ++ "'"
  | other => other.display

end Value

end VerbScript
