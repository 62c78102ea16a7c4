import VerbScript.ObjectId

/-!
# The stream of new object ids

New ids are drawn from a pseudo-random stream that the seed of a world determines: the key
stream of the ChaCha cipher with eight rounds, read as 32-bit words. `IdStream.word` is the word
at any position, so a stream is given by its seed and its position alone, and a stream that is
put back to a position repeats what it gave from there on.
-/

namespace VerbScript

/-- The lanes of one row of the cipher's four by four state. -/
structure Row where
  (a b c d : UInt32)
deriving DecidableEq

namespace Row

def zip (f : UInt32 → UInt32 → UInt32) (x y : Row) : Row :=
  ⟨f x.a y.a, f x.b y.b, f x.c y.c, f x.d y.d⟩

def map (f : UInt32 → UInt32) (x : Row) : Row := ⟨f x.a, f x.b, f x.c, f x.d⟩

/-- Moves each lane one place to the left. -/
def shift (x : Row) : Row := ⟨x.b, x.c, x.d, x.a⟩

/-- The lane at a place below four. A place behind them is not asked for. -/
def lane (x : Row) : Nat → UInt32
  | 0 => x.a
  | 1 => x.b
  | 2 => x.c
  | _ => x.d

end Row

/-- The state of the cipher: constants, two rows of key, counter and stream number. -/
structure Block where
  (constants keyLow keyHigh counter : Row)
deriving DecidableEq

namespace Block

/-- Rotates the bits of a word to the left. -/
def rotateLeft (x : UInt32) (n : UInt32) : UInt32 := (x <<< n) ||| (x >>> (32 - n))

/-- Four quarter rounds side by side, one per column. Each line takes the four lanes of a row at
once. -/
def columnRound (x : Block) : Block :=
  let a := x.constants.zip (· + ·) x.keyLow
  let d := (x.counter.zip (· ^^^ ·) a).map (rotateLeft · 16)
  let c := x.keyHigh.zip (· + ·) d
  let b := (x.keyLow.zip (· ^^^ ·) c).map (rotateLeft · 12)
  let a := a.zip (· + ·) b
  let d := (d.zip (· ^^^ ·) a).map (rotateLeft · 8)
  let c := c.zip (· + ·) d
  let b := (b.zip (· ^^^ ·) c).map (rotateLeft · 7)
  ⟨a, b, c, d⟩

/-- Turns the diagonals into columns. -/
def diagonals (x : Block) : Block :=
  ⟨x.constants, x.keyLow.shift, x.keyHigh.shift.shift, x.counter.shift.shift.shift⟩

/-- Turns the columns back into diagonals. -/
def columns (x : Block) : Block :=
  ⟨x.constants, x.keyLow.shift.shift.shift, x.keyHigh.shift.shift, x.counter.shift⟩

/-- A round on the columns and a round on the diagonals. -/
def doubleRound (x : Block) : Block := x.columnRound.diagonals.columnRound.columns

/-- The output block: eight rounds, and the input added to their result. -/
def output (x : Block) : Block :=
  let y := x.doubleRound.doubleRound.doubleRound.doubleRound
  ⟨y.constants.zip (· + ·) x.constants, y.keyLow.zip (· + ·) x.keyLow,
    y.keyHigh.zip (· + ·) x.keyHigh, y.counter.zip (· + ·) x.counter⟩

/-- The word at a place below sixteen. The words of a block are drawn row by row. -/
def word (x : Block) (i : Nat) : UInt32 :=
  match i / 4 with
  | 0 => x.constants.lane (i % 4)
  | 1 => x.keyLow.lane (i % 4)
  | 2 => x.keyHigh.lane (i % 4)
  | _ => x.counter.lane (i % 4)

end Block

/-- One step of the generator that expands a seed to a key. -/
def seedStep (state : UInt64) : UInt64 := state * 6364136223846793005 + 11634580027462260723

/-- The key word of a generator state: its high bits, rotated by the topmost ones. The state itself
goes on without regard to this. -/
def seedWord (state : UInt64) : UInt32 :=
  let x := (((state >>> 18) ^^^ state) >>> 27).toUInt32
  let n := (state >>> 59).toUInt32
  (x >>> n) ||| (x <<< ((32 - n) % 32))

/-- The state of the generator after `n` steps. The key has eight words, so only the first eight
steps matter. -/
def seedAfter (seed : UInt64) : Nat → UInt64
  | 0 => seed
  | n + 1 => seedStep (seedAfter seed n)

/-- A position in the stream of a seed. The words are not stored, so this is all that has to be
saved. -/
structure IdStream where
  seed : UInt64
  /-- How many words have been used. -/
  position : Nat := 0
deriving DecidableEq, Inhabited

namespace IdStream

/-- The cipher's input block with the given number. All blocks of one seed have the same key and
differ in the counter. -/
def input (seed : UInt64) (number : UInt64) : Block :=
  let key (i : Nat) := seedWord (seedAfter seed (i + 1))
  { constants := ⟨0x61707865, 0x3320646E, 0x79622D32, 0x6B206574⟩
    keyLow := ⟨key 0, key 1, key 2, key 3⟩
    keyHigh := ⟨key 4, key 5, key 6, key 7⟩
    counter := ⟨number.toUInt32, (number >>> 32).toUInt32, 0, 0⟩ }

/-- The word at a position of the stream of a seed. -/
def word (seed : UInt64) (position : Nat) : UInt32 :=
  (input seed (position / 16).toUInt64).output.word (position % 16)

/-- The next two words as one number, the first word the low half, and the stream after them. Every
draw uses two words, whether an id comes of it or not. -/
def draw (s : IdStream) : UInt64 × IdStream :=
  let low := (word s.seed s.position).toUInt64
  let high := (word s.seed (s.position + 1)).toUInt64
  ((high <<< 32) ||| low, { s with position := s.position + 2 })

/-- The greatest id that is given to a new object. -/
def maxId : Nat := 0xFFFFFFFF

/-- The id a drawn number stands for: its share of the range, or none for the few numbers that
would favour some ids. -/
def idOf? (drawn : UInt64) : Option ObjectId :=
  let product := drawn.toNat * maxId
  if product % UInt64.size < maxId * UInt32.size then
    some ⟨(1 + product / UInt64.size).toUInt64⟩
  else none

/-- Makes an attempt from state to state until one gives something. There is no bound on the
attempts: from a state from which none ever gives anything, the loop does not end, and then nothing
is known of what it stands for. -/
def retry {σ α : Type} [Nonempty σ] [Nonempty α] (attempt : σ → Option α × σ) : σ → α × σ :=
  WellFounded.partialExtrinsicFix (fun next s => attempt s = (none, next)) fun s again =>
    match h : attempt s with
    | (some a, next) => (a, next)
    | (none, next) => again next h

/-- A loop that comes to an end goes round as it is written. Of a loop that goes on for ever nothing
is said. -/
theorem retry_eq {σ α : Type} [Nonempty σ] [Nonempty α] {attempt : σ → Option α × σ} {s : σ}
    (hends : Acc (fun next s => attempt s = (none, next)) s) :
    retry attempt s =
      match attempt s with
      | (some a, next) => (a, next)
      | (none, next) => retry attempt next := by
  unfold retry
  rw [WellFounded.partialExtrinsicFix_eq_apply_of_acc hends]
  split
  next a next h => simp only [h]
  next next h => simp only [h]

/-- Draws one number, which need not stand for an id that is accepted. The stream goes on in either
case. -/
def attempt (accept : ObjectId → Bool) (s : IdStream) : Option ObjectId × IdStream :=
  let (drawn, s) := s.draw
  ((idOf? drawn).filter accept, s)

/-- Draws until an id is accepted. Whether that ever happens depends on the words of the stream. -/
def next (accept : ObjectId → Bool) (s : IdStream) : ObjectId × IdStream :=
  retry (attempt accept) s

end IdStream

end VerbScript
