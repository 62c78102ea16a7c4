import VerbScript.MessagePack.Record
import VerbScript.Proofs.ReaderLaws
import VerbScript.Proofs.TableLaws

/-!
# Reading back records, variants and tables

What `VerbScript.MessagePack.Record` writes is read back by its readers.

A record is read into a draft, one field after another. `Builds` says that reading some written
fields takes one draft to another, and has one constructor per field, so what a record needs is a
chain of its fields; `readRecord_packRecord` does the rest.

* `readVariant_packStr`, `readVariant_packVariant` — variants without and with content.
* `readTable_packTable` — a table, whose listing is its order of writing.
-/

namespace VerbScript.MessagePack

variable {σ α κ : Type}

/-! ### Records -/

/-- Reading these fields one after another takes the draft `s` to another. Each field comes with
what its reader needs: a name that is short enough and known, and bytes that are read into the
draft. -/
inductive Builds (names : List String) (field : σ → Nat → Reader σ) :
    σ → List (String × List UInt8) → σ → Prop where
  | done (s : σ) : Builds names field s [] s
  | more {s next last : σ} (i : Nat) {name : String} {bytes : List UInt8}
      {fields : List (String × List UInt8)} (length : (utf8 name).length < UInt32.size)
      (place : placeOf? names (utf8 name) = some i) (reads : Reads (field s i) bytes next)
      (rest : Builds names field next fields last) :
      Builds names field s ((name, bytes) :: fields) last

/-- The name of a field is read as its place among the names. It is compared as bytes, and not as
text. -/
theorem readFieldName_packStr {names : List String} {name : String}
    (hlength : (utf8 name).length < UInt32.size) :
    Reads (readFieldName names) (packStr name) (placeOf? names (utf8 name)) :=
  (readHead_packStrHead hlength).bind ((readBytes_length _).returning (placeOf? names))

variable {names : List String} {field : σ → Nat → Reader σ} {s last : σ}
  {fields : List (String × List UInt8)}

/-- The fields of a record are read in the order in which they were written. The induction is on the
chain of drafts. -/
theorem readNamed_flatMap {depth : Nat} (h : Builds names field s fields last) :
    Reads (readNamed depth names field s fields.length)
      (fields.flatMap fun f => packStr f.1 ++ f.2) last := by
  induction h with
  | done s => exact .pure s
  | @more s next last i name bytes fields hlength hplace hreads _ ih =>
    -- the name comes first, then the field, and the rest builds on the draft it leaves
    have hname : Reads (readFieldName names) (packStr name) (some i) := by
      rw [← hplace]
      exact readFieldName_packStr hlength
    rw [List.flatMap_cons, List.append_assoc]
    exact hname.bind (hreads.bind ih)

/-- **A record is read back** from its named fields, if the draft they build can be finished. The
fields may come in any order that builds the draft; it is written in one of them. -/
theorem readRecord_packRecord {depth : Nat} {finish : σ → Option α} {a : α}
    (hcount : fields.length < UInt32.size) (h : Builds names field s fields last)
    (hfinish : finish last = some a) :
    Reads (readRecord depth names field s finish) (packRecord fields) a := by
  refine (readHead_packMap hcount).bind ((readNamed_flatMap h).last ?_)
  beta_reduce
  -- the draft is complete, so reading ends with the record
  rw [hfinish]
  exact .pure a

/-- A field that has not come yet may come. A second time it would be refused. -/
theorem readOnce_none {read : Reader α} {bytes : List UInt8} {a : α} (h : Reads read bytes a) :
    Reads (readOnce none read) bytes (some a) := h.map some

/-! ### Variants -/

/-- A variant is recognized by its name. -/
theorem variantOf_utf8 {name : String} {i : Nat} (hplace : placeOf? names (utf8 name) = some i) :
    Reads (variantOf names (.str (utf8 name).length)) (utf8 name) i := by
  refine (readBytes_length _).last ?_
  rw [hplace]
  exact .pure i

/-- A variant without content is its name. -/
theorem readVariant_packStr {name : String} (i : Nat) (hlength : (utf8 name).length < UInt32.size)
    (hplace : placeOf? names (utf8 name) = some i) :
    Reads (readVariant names) (packStr name) (i, false) :=
  (readHead_packStrHead hlength).bind ((variantOf_utf8 hplace).returning (·, false))

/-- A variant with content is a map of one entry, whose key is the name; the content comes next. -/
theorem readVariant_packVariant {name : String} (i : Nat)
    (hlength : (utf8 name).length < UInt32.size) (hplace : placeOf? names (utf8 name) = some i) :
    Reads (readVariant names) (packMap 1 ++ packStr name) (i, true) :=
  (readHead_packMap (by decide)).bind
    ((readHead_packStrHead hlength).bind ((variantOf_utf8 hplace).returning (·, true)))

/-! ### Tables -/

/-- **A table is read back** from its listing. The bindings are inserted one after another, and
since the listing is in order the result is the table itself, down to its representation. -/
theorem readTable_packTable [Ord κ] [Std.TransOrd κ] [Std.LawfulEqOrd κ] {readKey : Reader κ}
    {readValue : Reader α} {key : κ → List UInt8} {value : α → List UInt8} {t : Table κ α}
    (hsize : t.size < UInt32.size) (hkeys : ∀ b ∈ t.toList, Reads readKey (key b.1) b.1)
    (hvalues : ∀ b ∈ t.toList, Reads readValue (value b.2) b.2) :
    Reads (readTable readKey readValue) (packTable key value t) t := by
  have hbindings : ∀ b ∈ t.toList, Reads (do return (← readKey, ← readValue))
      (key b.1 ++ value b.2) b := fun b hb =>
    (hkeys b hb).bind ((hvalues b hb).returning (b.1, ·))
  have hlisting : Reads (readTimes (do return (← readKey, ← readValue)) t.size)
      (t.toList.flatMap fun b => key b.1 ++ value b.2) t.toList := readTimes_flatMap hbindings
  -- what has been listed is listed again
  have htable := hlisting.returning Table.ofList
  rw [Table.ofList_toList] at htable
  exact (readHead_packMap hsize).bind htable

end VerbScript.MessagePack
