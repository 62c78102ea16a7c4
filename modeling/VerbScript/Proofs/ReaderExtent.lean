import VerbScript.MessagePack.Record
import VerbScript.Proofs.RecordLaws

/-!
# How far readers go

Readers go through bytes from left to right, so what follows the bytes that a reader takes makes no
difference to it: a reader that succeeds, succeeds with the same result if there are more bytes, and
leaves these as they are (`Steady`). The one way in which the end of the bytes shows is that a
reader fails there.

Beside it stands `Exhausts`: a reader that accepts these bytes takes all of them. Bytes that are
read back are exhausted, but so are bytes that are refused whatever follows them, such as those of
an array that is nested too deep.

Together they decide what happens to bytes that are cut short (`Exhausts.refuses`): a steady reader
that exhausts some bytes accepts no proper part from their beginning.
-/

namespace VerbScript.MessagePack

variable {α β σ κ : Type}

/-! ### Steady readers -/

/-- What is read stays read if more bytes follow, and these are left. Nothing is said about bytes
that are refused, since more of them may be accepted. -/
def Steady (read : Reader α) : Prop :=
  ∀ ⦃bytes a rest⦄, read bytes = some (a, rest) →
    ∀ more, read (bytes ++ more) = some (a, rest ++ more)

namespace Steady

variable {read : Reader α} {next : α → Reader β}

/-- A reader that takes nothing leaves whatever follows. What follows may also be longer then. -/
protected theorem pure (a : α) : Steady (pure a : Reader α) := by
  intro bytes a' rest h more
  cases h
  rfl

/-- A reader that accepts nothing is steady, for want of a result. -/
protected theorem failure : Steady (failure : Reader α) := by
  intro bytes a rest h
  cases h

/-- Nothing comes after a failure. -/
theorem failure_bind (next : α → Reader β) : Steady (failure >>= next) := by
  intro bytes b rest h
  cases h

/-- **One after another.** What the first reader leaves, with the further bytes behind it, is what
the second one gets. -/
protected theorem bind (h : Steady read) (h' : ∀ a, Steady (next a)) : Steady (read >>= next) := by
  intro bytes b rest hall more
  obtain ⟨⟨a, left⟩, hread, hnext⟩ := Option.bind_eq_some_iff.1 hall
  -- the bytes that are left are longer, and the next reader does not mind
  calc (read >>= next) (bytes ++ more)
      = (read (bytes ++ more)).bind fun p => next p.1 p.2 := rfl
    _ = next a (left ++ more) := by rw [h hread more]; rfl
    _ = some (b, rest ++ more) := h' a hnext more

/-- The result is returned in another form. -/
theorem returning (h : Steady read) (f : α → β) : Steady (read >>= fun a => pure (f a)) :=
  h.bind fun a => .pure (f a)

/-- A result that is changed afterwards takes no more bytes. -/
protected theorem map (h : Steady read) (f : α → β) : Steady (f <$> read) := h.returning f

/-- One or the other. The choice is made before any byte is read. -/
protected theorem ite {c : Prop} [Decidable c] {read' : Reader α} (h : Steady read)
    (h' : Steady read') : Steady (if c then read else read') := by
  split
  · exact h
  · exact h'

end Steady

/-- One byte stays the first one. If there is none, more bytes may well give the reader one, but it
has refused by then. -/
theorem readByte_steady : Steady readByte := by
  intro bytes b rest h more
  cases bytes with
  | nil => cases h
  | cons b' bytes => cases h; rfl

/-- A run of bytes that is long enough stays so. More bytes behind those that are there do not
change which ones are taken. -/
theorem readBytes_steady (n : Nat) : Steady (readBytes n) := by
  intro bytes taken rest h more
  unfold readBytes at h ⊢
  rw [List.splitAt_eq] at h ⊢
  dsimp only at h ⊢
  split at h
  next hlength =>
    -- there were enough bytes already, so they are taken from those
    have hn : n ≤ bytes.length := by
      rw [List.length_take] at hlength
      omega
    cases h
    rw [List.take_append_of_le_length hn, List.drop_append_of_le_length hn, if_pos hlength]
  next => cases h

/-- A number of some width is a run of bytes. -/
theorem readUnsigned_steady (width : Nat) : Steady (readUnsigned width) :=
  (readBytes_steady width).returning bigEndianValue

/-- So is a number with a sign. -/
theorem readSigned_steady (width : Nat) : Steady (readSigned width) :=
  (readUnsigned_steady width).returning _

/-- A head is one byte, or that byte and a number whose width it says. Nothing behind it is looked
at to find out which head it is. -/
theorem readHead_steady : Steady readHead := by
  refine readByte_steady.bind fun b => ?_
  -- the first byte says it all, in five ranges
  refine .ite (.pure _) (.ite (.pure _) (.ite (.pure _) (.ite (.pure _) (.ite (.pure _) ?_))))
  -- or it is one of those that a number of some width may follow
  split
  all_goals first
    | exact .pure _
    | exact .failure
    | refine Steady.bind ?_ fun _ => .pure _
  all_goals first
    | exact readUnsigned_steady _
    | exact readSigned_steady _

/-- A steady reader stays so when it reads several items, one after another. The number of items is
read before them. -/
theorem readTimes_steady {read : Reader α} (h : Steady read) (n : Nat) :
    Steady (readTimes read n) := by
  induction n with
  | zero => exact .pure []
  | succ n ih => exact h.bind fun a => ih.returning (a :: ·)

/-- What has no items inside is skipped by its length. Containers are not among these; here they are
refused. -/
theorem skipPlain_steady (head : Head) : Steady (skipPlain head) := by
  unfold skipPlain
  split
  all_goals first
    | exact .pure _
    | exact .failure
    | exact (readBytes_steady _).returning _

/-- A value is skipped with everything in it. The induction is on the levels that are left; a value
that is nested deeper is refused, whatever follows. -/
theorem skip_steady (depth : Nat) : Steady (skip depth) := by
  induction depth with
  | zero => exact .bind readHead_steady skipPlain_steady
  | succ depth ih =>
    refine .bind readHead_steady fun head => ?_
    -- the bytes of an extension, the items of an array, and the keys and values of a map
    split
    · exact (readBytes_steady _).returning _
    · exact (readTimes_steady ih _).returning _
    · exact (readTimes_steady ih _).returning _
    · exact skipPlain_steady _

/-- A truth value is a head. -/
theorem readBool_steady : Steady readBool := by
  refine .bind readHead_steady fun head => ?_
  split
  · exact .pure _
  · exact .failure

/-- So is a number without a sign. -/
theorem readUInt_steady : Steady readUInt := by
  refine .bind readHead_steady fun head => ?_
  split
  · exact .pure _
  · exact .pure _
  · exact .failure

/-- A number is a head, whichever of its forms it has. An integer is taken for a number too. -/
theorem readFloat_steady : Steady readFloat := by
  refine .bind readHead_steady fun head => ?_
  split
  · exact .pure _
  · exact .pure _
  · exact .pure _
  · exact .failure

/-- A text is a head and a run of bytes, which may be refused for what they are. They may be no text
in UTF-8, and more bytes do not change that. -/
theorem readStr_steady : Steady readStr := by
  refine .bind readHead_steady fun head => ?_
  split
  · refine (readBytes_steady _).bind fun bytes => ?_
    split
    · exact .pure _
    · exact .failure
  · refine (readBytes_steady _).bind fun bytes => ?_
    split
    · exact .pure _
    · exact .failure
  · exact .failure

/-- An array without items is a head. -/
theorem readNoItems_steady : Steady (readNoItems : Reader (List α)) := by
  refine .bind readHead_steady fun head => ?_
  split
  · exact .pure _
  · exact .failure

/-- **An array is read steadily** if its items are. Its head says how many there are, so more bytes
cannot make it longer. -/
theorem readArray_steady {read : Reader α} (h : Steady read) : Steady (readArray read) := by
  refine .bind readHead_steady fun head => ?_
  split
  · exact readTimes_steady h _
  · exact .pure _
  · exact .failure

/-- Anything that does not begin with nil is read as an item. The reader looks at this byte and does
not take it. -/
theorem readOption_cons {read : Reader α} {b : UInt8} (hb : b ≠ 0xC0) (bytes : List UInt8) :
    readOption read (b :: bytes) = (some <$> read) (b :: bytes) := by
  unfold readOption
  split
  next heq =>
    injection heq with hfirst
    exact absurd hfirst hb
  next => rfl

/-- A reader that needs bytes cannot mistake what follows the end of them for nil. This is the one
place where the end of the bytes could make a difference. -/
theorem readOption_steady {read : Reader α} (h : Steady read) (hempty : read [] = none) :
    Steady (readOption read) := by
  intro bytes a rest hread more
  cases bytes with
  | nil =>
    -- without bytes nothing is read, so there is no result to be kept
    have hnone : readOption read [] = none := by
      change (read []).bind _ = none
      rw [hempty]
      rfl
    rw [hnone] at hread
    cases hread
  | cons b bytes =>
    -- the first byte is there already, and it decides whether the value is missing
    by_cases hb : b = 0xC0
    · subst hb
      cases hread
      rfl
    · rw [readOption_cons hb] at hread
      rw [List.cons_append, readOption_cons hb, ← List.cons_append]
      exact h.map some hread more

/-! ### Steady records, variants and tables -/

section Records

variable {names : List String} {field : σ → Nat → Reader σ}

/-- The name of a field comes as a number or as a run of bytes. The names that a record knows do not
matter for where the reader stops. -/
theorem readFieldName_steady (names : List String) : Steady (readFieldName names) := by
  refine .bind readHead_steady fun head => ?_
  split
  · exact .pure _
  · exact (readBytes_steady _).returning _
  · exact (readBytes_steady _).returning _
  · exact .failure

/-- Fields with names are read or, if they are not known, skipped. The induction is on how many are
left, whatever the draft is. -/
theorem readNamed_steady {depth : Nat} (h : ∀ s i, Steady (field s i)) (s : σ) (n : Nat) :
    Steady (readNamed depth names field s n) := by
  induction n generalizing s with
  | zero => exact .pure s
  | succ n ih =>
    refine (readFieldName_steady names).bind fun place => ?_
    split
    · exact (h s _).bind ih
    · exact (skip_steady depth).bind fun _ => ih s

/-- Fields without names are read in their order. The induction is on the number of fields that are
left, with a draft that each of them extends. -/
theorem readInOrder_steady (h : ∀ s i, Steady (field s i)) (s : σ) (i n : Nat) :
    Steady (readInOrder field s i n) := by
  induction n generalizing s i with
  | zero => exact .pure s
  | succ n ih => exact (h s i).bind fun s' => ih s' (i + 1)

/-- **A record is read steadily** if its fields are. Names that it does not know are skipped, and
this is done steadily too. -/
theorem readRecord_steady {depth : Nat} {s : σ} {finish : σ → Option α}
    (h : ∀ s i, Steady (field s i)) : Steady (readRecord depth names field s finish) := by
  refine .bind readHead_steady fun head => ?_
  dsimp only
  -- the fields come by name or in order, and are then finished, which takes no bytes
  split
  · refine (readNamed_steady h s _).bind fun last => ?_
    split
    · exact .pure _
    · exact .failure
  · split
    · refine (readInOrder_steady h s 0 _).bind fun last => ?_
      split
      · exact .pure _
      · exact .failure
    · exact .failure_bind _
  · exact .failure_bind _

/-- A field that has been read before is refused, and otherwise read as it is. It is refused before
any of its bytes is looked at. -/
theorem readOnce_steady {read : Reader α} (h : Steady read) (old : Option α) :
    Steady (readOnce old read) := by
  cases old with
  | none => exact h.map some
  | some _ => exact .failure

/-- The variant is a number or a name. Both are accepted by the format, though only names are
written. -/
theorem variantOf_steady (names : List String) (head : Head) : Steady (variantOf names head) := by
  unfold variantOf
  split
  · split
    · exact .pure _
    · exact .failure
  · refine (readBytes_steady _).bind fun bytes => ?_
    split
    · exact .pure _
    · exact .failure
  · refine (readBytes_steady _).bind fun bytes => ?_
    split
    · exact .pure _
    · exact .failure
  · exact .failure

/-- A variant stands alone, or in a map of one binding with its content. -/
theorem readVariant_steady (names : List String) : Steady (readVariant names) := by
  refine .bind readHead_steady fun head => ?_
  split
  · exact .bind readHead_steady fun inner => (variantOf_steady names inner).returning _
  · exact (variantOf_steady names _).returning _

/-- The content of a variant that has none is nil. If the variant stands alone, there is nothing to
be read. -/
theorem readNoContent_steady (content : Bool) : Steady (readNoContent content) := by
  unfold readNoContent
  split
  · refine .bind readHead_steady fun head => ?_
    split
    · exact .pure _
    · exact .failure
  · exact .pure _

/-- The content of a variant is read steadily if its reader is steady; without content nothing is
read. -/
theorem readContent_steady {read : Reader α} (h : Steady read) (content : Bool) :
    Steady (readContent content read) := by
  unfold readContent
  split
  · exact h
  · exact .failure

/-- **A table is read steadily** if its keys and values are. Its head says how many bindings there
are, and each of them is a key with the value behind it. -/
theorem readTable_steady [Ord κ] [Std.TransOrd κ] [Std.LawfulEqOrd κ] {key : Reader κ}
    {value : Reader α} (hkey : Steady key) (hvalue : Steady value) :
    Steady (readTable key value) := by
  -- a binding is a key and the value behind it
  have hbinding : Steady (do return (← key, ← value)) :=
    hkey.bind fun k => hvalue.returning (k, ·)
  refine .bind readHead_steady fun head => ?_
  split
  · exact (readTimes_steady hbinding _).returning _
  · exact .failure

end Records

/-! ### Exhausted bytes -/

/-- A reader that accepts these bytes, with whatever follows them, takes them and no more. It may
refuse them, and what it makes of them is left open. -/
def Exhausts (read : Reader α) (bytes : List UInt8) : Prop :=
  ∀ ⦃rest a left⦄, read (bytes ++ rest) = some (a, left) → left = rest

/-- What is read back is exhausted: it is accepted with exactly what follows left over. The other
direction fails, as a reader may refuse what it would exhaust. -/
theorem Reads.exhausts {read : Reader α} {bytes : List UInt8} {a : α} (h : Reads read bytes a) :
    Exhausts read bytes := by
  intro rest a' left hread
  rw [h rest] at hread
  cases hread
  rfl

namespace Exhausts

variable {read : Reader α} {next : α → Reader β} {bytes more : List UInt8} {a : α}

/-- Bytes that are refused are exhausted, since nothing is ever left of them. -/
protected theorem failure : Exhausts (failure : Reader α) bytes := by
  intro rest a left h
  cases h

/-- **One after another**, whatever the first result is. It may be another than the one that was
written: what counts is where the first reader stops. -/
protected theorem bind (h : Exhausts read bytes) (h' : ∀ a, Exhausts (next a) more) :
    Exhausts (read >>= next) (bytes ++ more) := by
  intro rest b left hall
  rw [List.append_assoc] at hall
  obtain ⟨⟨a, between⟩, hread, hnext⟩ := Option.bind_eq_some_iff.1 hall
  -- all that the first reader leaves is what follows its own bytes
  obtain rfl : between = more ++ rest := h hread
  exact h' a hnext

/-- The first result is known, so only the reader that comes behind it has to exhaust the rest. This
is the law for lengths, which say how many items follow. -/
theorem after_reads (h : Reads read bytes a) (h' : Exhausts (next a) more) :
    Exhausts (read >>= next) (bytes ++ more) := by
  intro rest b left hall
  rw [List.append_assoc] at hall
  obtain ⟨⟨a', between⟩, hread, hnext⟩ := Option.bind_eq_some_iff.1 hall
  rw [h (more ++ rest)] at hread
  cases hread
  exact h' hnext

/-- What comes next takes no more bytes. It may still refuse what has been read. -/
theorem last (h : Exhausts read bytes) (h' : ∀ a, Exhausts (next a) []) :
    Exhausts (read >>= next) bytes := by
  have hall := h.bind h'
  rwa [List.append_nil] at hall

/-- Returning the result in another form takes no more bytes. -/
theorem returning (h : Exhausts read bytes) (f : α → β) :
    Exhausts (read >>= fun a => pure (f a)) bytes :=
  h.last fun a => (Reads.pure (f a)).exhausts

/-- **Bytes that are cut short are refused** by a steady reader that would have taken them all. If
it accepted the part, then with the missing bytes it would have to leave these over. -/
theorem refuses (hsteady : Steady read) (h : Exhausts read bytes) {part : List UInt8}
    (hpart : part <+: bytes) (hne : part ≠ bytes) : read part = none := by
  obtain ⟨missing, rfl⟩ := hpart
  cases hread : read part with
  | none => rfl
  | some result =>
    -- the missing bytes would be left over
    have hmore : read (part ++ missing) = some (result.1, result.2 ++ missing) :=
      hsteady hread missing
    rw [← List.append_nil (part ++ missing)] at hmore
    have hleft : result.2 ++ missing = [] := h hmore
    have hmissing : missing = [] := (List.append_eq_nil_iff.1 hleft).2
    rw [hmissing, List.append_nil] at hne
    exact absurd rfl hne

end Exhausts

/-- Items that are exhausted one by one are exhausted as a list. What is read of an item plays no
part, so it may differ from what was written. -/
theorem readTimes_exhausts {read : Reader α} {pack : β → List UInt8} {items : List β}
    (h : ∀ item ∈ items, Exhausts read (pack item)) :
    Exhausts (readTimes read items.length) (items.flatMap pack) := by
  induction items with
  | nil => exact (Reads.pure []).exhausts
  | cons item items ih =>
    have hitem : Exhausts read (pack item) := h item List.mem_cons_self
    have hitems := ih fun i hi => h i (List.mem_cons_of_mem item hi)
    rw [List.flatMap_cons]
    exact hitem.bind fun a => hitems.returning (a :: ·)

/-- **An array is exhausted** if its items are. Its head is read back, so as many items are read as
were written. -/
theorem readArray_exhausts {read : Reader α} {pack : β → List UInt8} {items : List β}
    (hlength : items.length < UInt32.size) (h : ∀ item ∈ items, Exhausts read (pack item)) :
    Exhausts (readArray read) (packArray items.length ++ items.flatMap pack) :=
  .after_reads (readHead_packArray hlength) (readTimes_exhausts h)

/-- A field is exhausted whether it comes for the first time or not. If it does not, the reader
refuses, and there is nothing to be shown. -/
theorem readOnce_exhausts {read : Reader α} {bytes : List UInt8} (h : Exhausts read bytes)
    (old : Option α) : Exhausts (readOnce old read) bytes := by
  cases old with
  | none => exact h.returning some
  | some _ => exact .failure

/-- Fields that are exhausted one by one, at whatever draft each is read, are exhausted together.
The names are read back, so each field is read at its own place. -/
theorem readNamed_exhausts {names : List String} {field : σ → Nat → Reader σ} {depth : Nat}
    {fields : List (String × List UInt8)}
    (h : ∀ f ∈ fields, (utf8 f.1).length < UInt32.size ∧
      ∃ i, placeOf? names (utf8 f.1) = some i ∧ ∀ s, Exhausts (field s i) f.2) (s : σ) :
    Exhausts (readNamed depth names field s fields.length)
      (fields.flatMap fun f => packStr f.1 ++ f.2) := by
  induction fields generalizing s with
  | nil => exact (Reads.pure s).exhausts
  | cons f fields ih =>
    obtain ⟨hlength, i, hplace, hfield⟩ := h f List.mem_cons_self
    -- the name is read back, so the field is read at its place
    have hname : Reads (readFieldName names) (packStr f.1) (some i) := by
      rw [← hplace]
      exact readFieldName_packStr hlength
    have hrest := ih fun f' hf' => h f' (List.mem_cons_of_mem f hf')
    rw [List.flatMap_cons, List.append_assoc]
    exact .after_reads hname ((hfield s).bind hrest)

/-- **A record is exhausted** if its fields are. All its names are known to the reader, so nothing
has to be skipped. -/
theorem readRecord_exhausts {names : List String} {field : σ → Nat → Reader σ} {depth : Nat}
    {fields : List (String × List UInt8)} {s : σ} {finish : σ → Option α}
    (hcount : fields.length < UInt32.size)
    (h : ∀ f ∈ fields, (utf8 f.1).length < UInt32.size ∧
      ∃ i, placeOf? names (utf8 f.1) = some i ∧ ∀ s, Exhausts (field s i) f.2) :
    Exhausts (readRecord depth names field s finish) (packRecord fields) := by
  refine .after_reads (readHead_packMap hcount) ((readNamed_exhausts h s).last fun last => ?_)
  beta_reduce
  -- whether the draft can be finished is decided without reading
  split
  · exact (Reads.pure _).exhausts
  · exact .failure

/-- **A table is exhausted** if its keys and values are, in the order in which they are listed. The
number of its bindings is read first, and it is read back. -/
theorem readTable_exhausts [Ord κ] [Std.TransOrd κ] [Std.LawfulEqOrd κ] {readKey : Reader κ}
    {readValue : Reader α} {key : κ → List UInt8} {value : α → List UInt8} {t : Table κ α}
    (hsize : t.size < UInt32.size) (hkeys : ∀ b ∈ t.toList, Exhausts readKey (key b.1))
    (hvalues : ∀ b ∈ t.toList, Exhausts readValue (value b.2)) :
    Exhausts (readTable readKey readValue) (packTable key value t) := by
  -- a binding is a key and the value behind it
  have hbindings : ∀ b ∈ t.toList, Exhausts (do return (← readKey, ← readValue))
      (key b.1 ++ value b.2) := by
    intro b hb
    exact (hkeys b hb).bind fun k => (hvalues b hb).returning (k, ·)
  exact .after_reads (readHead_packMap hsize) ((readTimes_exhausts hbindings).returning _)

end VerbScript.MessagePack
