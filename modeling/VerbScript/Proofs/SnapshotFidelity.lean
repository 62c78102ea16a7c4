import VerbScript.Proofs.Truncation

/-!
# Snapshots are not misread

A store whose values are nested too deep cannot be read back from its bytes. This module shows that
it is refused then and not taken for another store: whatever a reader accepts of written bytes is
what was written (`Faithful`). So a store that is loaded from the bytes of another one has the same
world (`Store.eq_of_ofBytes?_toBytes`), and only its position is another one if no position so large
can be written.

Bytes that are read back are read faithfully, and so are bytes that are refused. The rules by which
faithful readers are put together are those of `Reads`.
-/

namespace VerbScript

namespace MessagePack

variable {α β σ κ : Type}

/-- A reader that accepts these bytes, with whatever follows them, takes exactly these and gives
this result. It may refuse them as well, which is what distinguishes it from one that reads them. -/
def Faithful (read : Reader α) (bytes : List UInt8) (a : α) : Prop :=
  ∀ ⦃rest b left⦄, read (bytes ++ rest) = some (b, left) → b = a ∧ left = rest

/-- What is read back is read faithfully. -/
theorem Reads.faithful {read : Reader α} {bytes : List UInt8} {a : α} (h : Reads read bytes a) :
    Faithful read bytes a := by
  intro rest b left hread
  -- there is one result, and it is the one that was written
  rw [h rest] at hread
  cases hread
  exact ⟨rfl, rfl⟩

namespace Faithful

variable {read : Reader α} {next : α → Reader β} {bytes more : List UInt8} {a : α} {b : β}

/-- A reader that refuses everything misreads nothing. -/
protected theorem failure : Faithful (failure : Reader α) bytes a := by
  intro rest b left h
  cases h

/-- **One after another.** If the first reader accepts, it has read what was written, so the second
one need be faithful behind this result only. -/
protected theorem bind (h : Faithful read bytes a) (h' : Faithful (next a) more b) :
    Faithful (read >>= next) (bytes ++ more) b := by
  intro rest c left hall
  rw [List.append_assoc] at hall
  -- both readers have accepted, the first one with some result in between
  obtain ⟨⟨a', between⟩, hread, hnext⟩ := Option.bind_eq_some_iff.1 hall
  obtain ⟨rfl, rfl⟩ := h hread
  exact h' hnext

/-- What comes next takes no more bytes. -/
theorem last (h : Faithful read bytes a) (h' : Faithful (next a) [] b) :
    Faithful (read >>= next) bytes b := by
  have hall := h.bind h'
  rwa [List.append_nil] at hall

/-- The result is returned in another form. -/
theorem returning (h : Faithful read bytes a) (f : α → β) :
    Faithful (read >>= fun a => pure (f a)) bytes (f a) := h.last (Reads.pure (f a)).faithful

end Faithful

/-- Items that are read faithfully one by one are so as a list. The number of items is given; it has
been read from the head before. -/
theorem readTimes_faithful {read : Reader α} {pack : α → List UInt8} {items : List α}
    (h : ∀ item ∈ items, Faithful read (pack item) item) :
    Faithful (readTimes read items.length) (items.flatMap pack) items := by
  induction items with
  | nil => exact (Reads.pure []).faithful
  | cons item items ih =>
    have hitem : Faithful read (pack item) item := h item List.mem_cons_self
    have hitems := ih fun i hi => h i (List.mem_cons_of_mem item hi)
    rw [List.flatMap_cons]
    exact hitem.bind (hitems.returning (item :: ·))

/-- The number of items is read back, so a list is read faithfully if its items are. -/
theorem readArray_faithful {read : Reader α} {pack : α → List UInt8} {items : List α}
    (hlength : items.length < UInt32.size) (h : ∀ item ∈ items, Faithful read (pack item) item) :
    Faithful (readArray read) (packArray items.length ++ items.flatMap pack) items :=
  (readHead_packArray hlength).faithful.bind (readTimes_faithful h)

/-- A field that has not come yet is read by its own reader. -/
theorem readOnce_faithful {read : Reader α} {bytes : List UInt8} {a : α}
    (h : Faithful read bytes a) : Faithful (readOnce none read) bytes (some a) := h.returning some

/-- A table is read faithfully if its keys and values are. The order of the bindings in the bytes is
the one in which the table lists them. -/
theorem readTable_faithful [Ord κ] [Std.TransOrd κ] [Std.LawfulEqOrd κ] {readKey : Reader κ}
    {readValue : Reader α} {key : κ → List UInt8} {value : α → List UInt8} {t : Table κ α}
    (hsize : t.size < UInt32.size) (hkeys : ∀ b ∈ t.toList, Faithful readKey (key b.1) b.1)
    (hvalues : ∀ b ∈ t.toList, Faithful readValue (value b.2) b.2) :
    Faithful (readTable readKey readValue) (packTable key value t) t := by
  have hbindings : ∀ b ∈ t.toList, Faithful (do return (← readKey, ← readValue))
      (key b.1 ++ value b.2) b := fun b hb =>
    (hkeys b hb).bind ((hvalues b hb).returning (b.1, ·))
  have hlisting : Faithful (readTimes (do return (← readKey, ← readValue)) t.size)
      (t.toList.flatMap fun b => key b.1 ++ value b.2) t.toList := readTimes_faithful hbindings
  -- the listing of a table is in order, and from it comes the same table again
  have htable := hlisting.returning Table.ofList
  rw [Table.ofList_toList] at htable
  exact (readHead_packMap hsize).faithful.bind htable

/-! ### Records -/

/-- Where these fields are accepted one after another, they take the draft `s` to another. It is
`Builds` for readers that may refuse a field. -/
inductive Gathers (names : List String) (field : σ → Nat → Reader σ) :
    σ → List (String × List UInt8) → σ → Prop where
  | done (s : σ) : Gathers names field s [] s
  | more {s next last : σ} (i : Nat) {name : String} {bytes : List UInt8}
      {fields : List (String × List UInt8)} (length : (utf8 name).length < UInt32.size)
      (place : placeOf? names (utf8 name) = some i) (faithful : Faithful (field s i) bytes next)
      (rest : Gathers names field next fields last) :
      Gathers names field s ((name, bytes) :: fields) last

variable {names : List String} {field : σ → Nat → Reader σ} {s last : σ}
  {fields : List (String × List UInt8)}

/-- Fields that are accepted in their order have built the draft that was written. Any of them may
be refused; then so is the record, and nothing is said. -/
theorem readNamed_faithful {depth : Nat} (h : Gathers names field s fields last) :
    Faithful (readNamed depth names field s fields.length)
      (fields.flatMap fun f => packStr f.1 ++ f.2) last := by
  induction h with
  | done s => exact (Reads.pure s).faithful
  | @more s next last i name bytes fields hlength hplace hfield _ ih =>
    -- the name of a field is never refused
    have hname : Reads (readFieldName names) (packStr name) (some i) := by
      rw [← hplace]
      exact readFieldName_packStr hlength
    rw [List.flatMap_cons, List.append_assoc]
    exact hname.faithful.bind (hfield.bind ih)

/-- **A record is read faithfully** if its fields are. Each field that is accepted is the one that
was written, and the draft is finished with all of them. -/
theorem readRecord_faithful {depth : Nat} {finish : σ → Option α} {a : α}
    (hcount : fields.length < UInt32.size) (h : Gathers names field s fields last)
    (hfinish : finish last = some a) :
    Faithful (readRecord depth names field s finish) (packRecord fields) a := by
  refine (readHead_packMap hcount).faithful.bind ((readNamed_faithful h).last ?_)
  beta_reduce
  rw [hfinish]
  exact (Reads.pure a).faithful

end MessagePack

open MessagePack

/-! ### Stores -/

/-- **A value is read faithfully at every depth**: where it is nested too deep, it is refused. It is
never taken for another value. -/
theorem Value.read_faithful {enough : Nat} {v : Value} (h : v.Storable enough) (depth : Nat) :
    Faithful (Value.read depth) v.pack v := by
  -- the depth matters to arrays only, so every other value is read back
  induction h generalizing depth with
  | null => exact (Value.read_pack .null).faithful
  | bool b => exact (Value.read_pack (.bool b)).faithful
  | number n => exact (Value.read_pack (.number n)).faithful
  | str hlength => exact (Value.read_pack (.str hlength)).faithful
  | object id => exact (Value.read_pack (.object id)).faithful
  | @array enough items hlength _ ih =>
    have hvariant : Reads (readVariant Value.variantNames) (packMap 1 ++ packStr "Array")
        (4, true) := readVariant_packVariant 4 (by decide) (by decide)
    rw [Value.read_eq_readWith, Value.pack, Value.packItems_eq_flatMap]
    refine hvariant.faithful.bind (Faithful.returning ?_ Value.array)
    -- an array is refused at the last level, and read item by item above it
    cases depth with
    | zero => exact (readHead_packArray hlength).faithful.bind .failure
    | succ depth => exact readArray_faithful hlength fun item hitem => ih item hitem depth

/-- What can be restored can be measured. -/
theorem World.Storable.measured {w : World} (h : w.Storable) : w.Measured where
  objects := h.objects
  each b hb := by
    obtain ⟨hprops, hpropNames, hvalues, hverbs, hverbNames, hsources⟩ := h.each b hb
    exact ⟨hprops, hpropNames, fun v hv => ⟨_, hvalues v hv⟩, hverbs, hverbNames, hsources⟩
  aliases := h.aliases
  names := h.names

/-- An object is read faithfully: of its fields only the properties may be refused. A value may be
nested deeper than a reader follows it. -/
theorem Object.read_faithful {o : Object} (h : o.Measured) (depth : Nat) :
    Faithful (Object.read depth) o.pack o := by
  have hprops : Faithful (readTable readStr (Value.read (depth - 1)))
      (packTable packStr Value.pack o.props) o.props := by
    refine readTable_faithful h.props (fun b hb => (readStr_packStr (h.propNames b hb)).faithful) ?_
    intro b hb
    obtain ⟨enough, hvalue⟩ := h.values b hb
    exact Value.read_faithful hvalue _
  have hverbs := readTable_packTable h.verbs (fun b hb => readStr_packStr (h.verbNames b hb))
    fun b hb => readStr_packStr (h.sources b hb)
  have hcount : 5 < UInt32.size := by decide
  refine readRecord_faithful hcount
    (.more 0 (by decide) (by decide)
      ((readOnce_none (ObjectId.read_pack o.id)).faithful.returning _)
    (.more 1 (by decide) (by decide)
      ((readOnce_none (readOption_parent o.parent)).faithful.returning _)
    (.more 2 (by decide) (by decide)
      ((readOnce_none (readUInt64_packUInt o.created)).faithful.returning _)
    (.more 3 (by decide) (by decide) ((readOnce_faithful hprops).returning _)
    (.more 4 (by decide) (by decide)
      ((readOnce_none hverbs).faithful.returning _) (.done _)))))) ?_
  rfl

/-- A world is read faithfully; here it is the objects that may be refused. The aliases are always
read back. -/
theorem World.read_faithful {w : World} (h : w.Measured) (depth : Nat) :
    Faithful (World.read depth) w.pack w := by
  have hobjects : Faithful (readTable ObjectId.read (Object.read (depth - 2)))
      (packTable (fun id => packUInt id.raw.toNat) Object.pack w.objects) w.objects :=
    readTable_faithful h.objects (fun b _ => (ObjectId.read_pack b.1).faithful)
      fun b hb => Object.read_faithful (h.each b hb) _
  have haliases : Reads (readTable readStr ObjectId.read)
      (packTable packStr (fun id => packUInt id.raw.toNat) w.aliases) w.aliases :=
    readTable_packTable h.aliases (fun b hb => readStr_packStr (h.names b hb))
      fun b _ => ObjectId.read_pack b.2
  have hcount : 2 < UInt32.size := by decide
  refine readRecord_faithful hcount
    (.more 0 (by decide) (by decide) ((readOnce_faithful hobjects).returning _)
    (.more 1 (by decide) (by decide)
      ((readOnce_none haliases).faithful.returning _) (.done _))) ?_
  rfl

namespace Store

/-- **A snapshot is not misread**: if it is accepted, the store is the one that was written, at the
position that was written. -/
theorem eq_of_ofBytes?_toBytes {s s' : Store} (h : s.world.Measured)
    (hread : ofBytes? s.toBytes = some s') :
    s' = { s with stream := { s.stream with position := s.writtenPosition } } := by
  have hposition : s.writtenPosition < UInt64.size :=
    (Nat.min_le_right _ _).trans_lt (by decide)
  have hcount : 3 < UInt32.size := by decide
  have hfaithful : Faithful read s.toBytes
      { s with stream := { s.stream with position := s.writtenPosition } } := by
    unfold toBytes
    refine readRecord_faithful hcount
      (.more 0 (by decide) (by decide)
        ((readOnce_none (readUInt64_packUInt s.stream.seed)).faithful.returning _)
      (.more 1 (by decide) (by decide)
        ((readOnce_none (readUInt_packUInt hposition)).faithful.returning _)
      (.more 2 (by decide) (by decide)
        ((readOnce_faithful (World.read_faithful h _)).returning _) (.done _)))) ?_
    rfl
  obtain ⟨⟨found, left⟩, hfound, rfl⟩ := Option.map_eq_some_iff.1 hread
  -- nothing follows the snapshot
  rw [← List.append_nil s.toBytes] at hfound
  exact (hfaithful hfound).1

end Store

end VerbScript
