import VerbScript.MessagePack.Format
import Mathlib.Tactic.Ring

/-!
# Reading back what was written

A reader *reads* bytes as a result if, whatever follows them, it takes exactly these bytes and gives
this result (`Reads`). Because nothing is asked of what follows, readers that are run one after
another read the bytes one after another: `Reads.bind` is the one rule by which everything larger
than a byte is put together.

* `readHead_packUInt`, `readHead_packStrHead`, … — a head is read back from the shortest form that
  was chosen for it, at every width.
* `readUInt_packUInt`, `readStr_packStr`, … — so is a scalar.
* `readArray_packArray`, `readOption_none`, `readOption_some` — and what is made of other items.

Lengths are below `UInt32.size` and numbers below `UInt64.size`, because no wider form exists.
-/

namespace VerbScript.MessagePack

variable {α β : Type}

/-- The reader takes exactly these bytes, whatever follows them, and gives this result. That nothing
is asked of what follows is what lets readers be put one behind the other. -/
def Reads (read : Reader α) (bytes : List UInt8) (a : α) : Prop :=
  ∀ rest, read (bytes ++ rest) = some (a, rest)

namespace Reads

variable {read : Reader α} {next : α → Reader β} {bytes more : List UInt8} {a : α} {b : β}

/-- What reads nothing leaves all bytes where they are. -/
protected theorem pure (a : α) : Reads (pure a) [] a := fun _ => rfl

/-- **One after another.** The second reader may depend on what the first has given. All larger
readers are put together by this rule, and none of their proofs looks at bytes that are not
theirs. -/
protected theorem bind (h : Reads read bytes a) (h' : Reads (next a) more b) :
    Reads (read >>= next) (bytes ++ more) b := by
  intro rest
  calc (read >>= next) (bytes ++ more ++ rest)
      = (read (bytes ++ (more ++ rest))).bind fun p => next p.1 p.2 := by
        -- the bytes of the second are the first of what follows the bytes of the first
        rw [List.append_assoc]; rfl
    _ = next a (more ++ rest) := by rw [h]; rfl
    _ = some (b, rest) := h' rest

/-- What comes next takes no more bytes. A head that stands for itself is read in this way. -/
theorem last (h : Reads read bytes a) (h' : Reads (next a) [] b) :
    Reads (read >>= next) bytes b := by
  have hall := h.bind h'
  rwa [List.append_nil] at hall

/-- The result is returned in another form. -/
theorem returning (h : Reads read bytes a) (f : α → β) :
    Reads (read >>= fun a => pure (f a)) bytes (f a) := h.last (.pure (f a))

protected theorem map (h : Reads read bytes a) (f : α → β) : Reads (f <$> read) bytes (f a) := by
  intro rest
  calc (f <$> read) (bytes ++ rest)
      = (read (bytes ++ rest)).bind fun p => some (f p.1, p.2) := rfl
    _ = some (f a, rest) := by rw [h]; rfl

end Reads

/-! ### Bytes and integers -/

/-- The one reader that looks at a byte; every other one is made of it. -/
theorem readByte_singleton (b : UInt8) : Reads readByte [b] b := fun _ => rfl

/-- Bytes whose number is known beforehand are taken as they are. The number comes from a head in
front of them. -/
theorem readBytes_length (bytes : List UInt8) : Reads (readBytes bytes.length) bytes bytes := by
  intro rest
  unfold readBytes
  rw [List.splitAt_eq, List.take_left, List.drop_left]
  exact if_pos rfl

/-- The width of a number does not depend on the number, so a reader knows how many bytes to
take. -/
@[simp] theorem length_bigEndian (width n : Nat) : (bigEndian width n).length = width := by
  induction width with
  | zero => rfl
  | succ width ih => simp only [bigEndian, List.length_cons, ih]

/-- The bytes of a number put it below whatever came before them, as far as they reach. The
induction is on the width: the first byte is the highest one, and `above` takes it in before the
rest is read. -/
theorem foldl_bigEndian (width n above : Nat) :
    (bigEndian width n).foldl (fun n b => 256 * n + b.toNat) above =
      above * 256 ^ width + n % 256 ^ width := by
  induction width generalizing above with
  | zero => simp [bigEndian, Nat.mod_one]
  | succ width ih =>
    have hbyte : (n / Nat.pow 256 width).toUInt8.toNat = n / 256 ^ width % 256 := by simp
    -- the highest byte and what is below it, as one number again
    have hmod : n % 256 ^ (width + 1) = n % 256 ^ width + 256 ^ width * (n / 256 ^ width % 256) :=
      Nat.mod_pow_succ
    calc (bigEndian (width + 1) n).foldl (fun n b => 256 * n + b.toNat) above
        = (256 * above + n / 256 ^ width % 256) * 256 ^ width + n % 256 ^ width := by
          rw [bigEndian, List.foldl_cons, hbyte, ih]
      _ = above * 256 ^ (width + 1) + n % 256 ^ (width + 1) := by
          rw [hmod, Nat.pow_succ]; ring

/-- A number is the value of its bytes, if there are enough of them. With fewer bytes the upper
digits would be lost. -/
theorem bigEndianValue_bigEndian {width n : Nat} (h : n < 256 ^ width) :
    bigEndianValue (bigEndian width n) = n := by
  calc bigEndianValue (bigEndian width n)
      -- nothing is above the first byte
      = 0 * 256 ^ width + n % 256 ^ width := foldl_bigEndian width n 0
    _ = n := by rw [Nat.zero_mul, Nat.zero_add, Nat.mod_eq_of_lt h]

/-- A number that fits its width is read back from it. The width is said by the first byte, so the
bytes alone do not say it. -/
theorem readUnsigned_bigEndian {width n : Nat} (h : n < 256 ^ width) :
    Reads (readUnsigned width) (bigEndian width n) n := by
  have hbytes : Reads (readBytes width) (bigEndian width n) (bigEndian width n) := by
    have := readBytes_length (bigEndian width n)
    rwa [length_bigEndian] at this
  have hvalue := hbytes.returning bigEndianValue
  rwa [bigEndianValue_bigEndian h] at hvalue

/-! ### Heads -/

/-- The byte of a head that is all one byte. -/
theorem toNat_toUInt8 {n : Nat} (h : n < 256) : n.toUInt8.toNat = n := by
  simpa using h

/-- Each of the two has a byte of its own. -/
theorem readHead_packBool (b : Bool) : Reads readHead (packBool b) (.bool b) := by
  cases b with
  | false => exact (readByte_singleton 0xC2).last (.pure _)
  | true => exact (readByte_singleton 0xC3).last (.pure _)

/-- A number has five forms, of which the shortest is written. The bound of each form is also what
its width needs to be read back, so every case uses the condition that has chosen it. -/
theorem readHead_packUInt {n : Nat} (hn : n < UInt64.size) :
    Reads readHead (packUInt n) (.uint n) := by
  unfold packUInt
  -- a small number is its own head; the others have a byte that tells their width
  split
  next h =>
    have hb : n.toUInt8.toNat = n := toNat_toUInt8 (by omega)
    refine (readByte_singleton _).last ?_
    dsimp only
    -- such a byte is below the heads of all other kinds
    rw [hb, if_pos h]
    exact .pure _
  split
  next h => exact (readByte_singleton 0xCC).bind ((readUnsigned_bigEndian h).returning Head.uint)
  split
  next h => exact (readByte_singleton 0xCD).bind ((readUnsigned_bigEndian h).returning Head.uint)
  split
  next h => exact (readByte_singleton 0xCE).bind ((readUnsigned_bigEndian h).returning Head.uint)
  -- the widest form has no condition but that the number is one of sixty-four bits
  next => exact (readByte_singleton 0xCF).bind ((readUnsigned_bigEndian hn).returning Head.uint)

/-- A number is read back with its bits, also if it is a NaN. So a NaN keeps what it carries,
through any number of snapshots. -/
theorem readHead_packFloat (x : Number) : Reads readHead (packFloat x) (.float x) := by
  have hbits : x.bits.toNat < 256 ^ 8 := x.bits.toNat_lt
  have hnumber := (readUnsigned_bigEndian hbits).returning fun n => Head.float ⟨n.toUInt64⟩
  have hx : (⟨x.bits.toNat.toUInt64⟩ : Number) = x := by simp
  rw [hx] at hnumber
  -- nothing is computed from the bits on the way
  exact (readByte_singleton 0xCB).bind hnumber

/-- The length of a text stands in its head, in the first of four forms that is wide enough. Each
form has a first byte of its own, so a reader can tell them apart. -/
theorem readHead_packStrHead {length : Nat} (hlength : length < UInt32.size) :
    Reads readHead (packStrHead length) (.str length) := by
  unfold packStrHead
  -- a short length is part of the first byte
  split
  next h =>
    have hb : (0xA0 + length).toUInt8.toNat = 0xA0 + length := toNat_toUInt8 (by omega)
    refine (readByte_singleton _).last ?_
    dsimp only
    -- the byte lies behind those of numbers, maps and arrays, whose ranges a reader tries first
    rw [hb, if_neg (by omega), if_neg (by omega), if_neg (by omega), if_pos (by omega),
      Nat.add_sub_cancel_left]
    exact .pure _
  split
  next h => exact (readByte_singleton 0xD9).bind ((readUnsigned_bigEndian h).returning Head.str)
  split
  next h => exact (readByte_singleton 0xDA).bind ((readUnsigned_bigEndian h).returning Head.str)
  next => exact (readByte_singleton 0xDB).bind ((readUnsigned_bigEndian hlength).returning Head.str)

/-- The same of the number of items of an array, which has three forms. There is none with a number
of one byte. -/
theorem readHead_packArray {length : Nat} (hlength : length < UInt32.size) :
    Reads readHead (packArray length) (.array length) := by
  unfold packArray
  -- up to fifteen items, the number is part of the first byte
  split
  next h =>
    have hb : (0x90 + length).toUInt8.toNat = 0x90 + length := toNat_toUInt8 (by omega)
    refine (readByte_singleton _).last ?_
    dsimp only
    -- a reader asks for numbers and maps before arrays
    rw [hb, if_neg (by omega), if_neg (by omega), if_pos (by omega), Nat.add_sub_cancel_left]
    exact .pure _
  split
  next h => exact (readByte_singleton 0xDC).bind ((readUnsigned_bigEndian h).returning Head.array)
  next =>
    exact (readByte_singleton 0xDD).bind ((readUnsigned_bigEndian hlength).returning Head.array)

/-- The same of the number of entries of a map. The three forms are those of an array, with other
first bytes. -/
theorem readHead_packMap {length : Nat} (hlength : length < UInt32.size) :
    Reads readHead (packMap length) (.map length) := by
  unfold packMap
  -- up to fifteen entries, the number is part of the first byte
  split
  next h =>
    have hb : (0x80 + length).toUInt8.toNat = 0x80 + length := toNat_toUInt8 (by omega)
    refine (readByte_singleton _).last ?_
    dsimp only
    rw [hb, if_neg (by omega), if_pos (by omega), Nat.add_sub_cancel_left]
    exact .pure _
  split
  next h => exact (readByte_singleton 0xDE).bind ((readUnsigned_bigEndian h).returning Head.map)
  next => exact (readByte_singleton 0xDF).bind ((readUnsigned_bigEndian hlength).returning Head.map)

/-! ### Scalars -/

/-- A truth value is its head. -/
theorem readBool_packBool (b : Bool) : Reads readBool (packBool b) b :=
  (readHead_packBool b).last (.pure b)

/-- So is a number. -/
theorem readUInt_packUInt {n : Nat} (hn : n < UInt64.size) : Reads readUInt (packUInt n) n :=
  (readHead_packUInt hn).last (.pure n)

/-- A floating-point number is its head, too, and comes back with its bits. -/
theorem readFloat_packFloat (x : Number) : Reads readFloat (packFloat x) x :=
  (readHead_packFloat x).last (.pure x)

/-- The bytes of a text are well formed, so they are read as the text they were made from. -/
theorem textOf?_utf8 (text : String) : textOf? (utf8 text) = some text :=
  dif_pos text.isValidUTF8

/-- A text is its head and its bytes. The length in the head counts bytes, not characters. -/
theorem readStr_packStr {text : String} (h : (utf8 text).length < UInt32.size) :
    Reads readStr (packStr text) text := by
  -- the head says how many bytes are taken, and these are all of them
  refine (readHead_packStrHead h).bind ((readBytes_length _).last ?_)
  rw [textOf?_utf8]
  exact .pure text

/-! ### Lists and options -/

variable {read : Reader α}

/-- Items that are read one by one are read as a list. Each item needs a reader only for its own
bytes. -/
theorem readTimes_flatMap {pack : α → List UInt8} {items : List α}
    (h : ∀ item ∈ items, Reads read (pack item) item) :
    Reads (readTimes read items.length) (items.flatMap pack) items := by
  induction items with
  | nil => exact .pure []
  | cons item items ih =>
    have hitem : Reads read (pack item) item := h item List.mem_cons_self
    have hitems := ih fun i hi => h i (List.mem_cons_of_mem item hi)
    rw [List.flatMap_cons]
    exact hitem.bind (hitems.returning (item :: ·))

/-- **A list** is read back if its items are and its head can hold their number. So the bound on the
number is that of the format, and not of the reader. -/
theorem readArray_packArray {pack : α → List UInt8} {items : List α}
    (hlength : items.length < UInt32.size) (h : ∀ item ∈ items, Reads read (pack item) item) :
    Reads (readArray read) (packArray items.length ++ items.flatMap pack) items :=
  (readHead_packArray hlength).bind (readTimes_flatMap h)

/-- Nil is the one byte that stands for no value at all. -/
theorem readOption_none : Reads (readOption read) packNil none := fun _ => rfl

/-- Nothing that begins with another head is taken for nil. What the head is does not matter, so the
lemma serves texts, lists and records alike. -/
theorem readOption_some {head : Head} {first bytes : List UInt8} {a : α}
    (hhead : Reads readHead first head) (hne : head ≠ .nil) (hfirst : first <+: bytes)
    (h : Reads read bytes a) : Reads (readOption read) bytes (some a) := by
  intro rest
  unfold readOption
  -- the option reader looks for nil first
  split
  next more heq =>
    -- the head of nil would be the head that was written
    obtain ⟨others, rfl⟩ := hfirst
    have hnil := hhead (others ++ rest)
    rw [← List.append_assoc, heq] at hnil
    have : head = .nil := by injection hnil with hnil; injection hnil with hnil; exact hnil.symm
    exact absurd this hne
  next => exact h.map some rest

end VerbScript.MessagePack
