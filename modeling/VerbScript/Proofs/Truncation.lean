import VerbScript.Console.Basic
import VerbScript.Proofs.ReaderExtent
import VerbScript.Proofs.SnapshotRoundTrip

/-!
# Loads are all or nothing

A snapshot that was cut short, wherever the cut is, is refused, so that no part of a world is ever
taken for the whole. And a load that fails, because the file cannot be read or because its content
is refused, leaves everything as it was.

For the first half, the reader of snapshots is steady (`Store.read_steady`), and it exhausts the
bytes of every store whose lengths can be written (`Store.read_exhausts`). The depth of values makes
no difference here: a store that is nested too deep is refused as a whole, and so is every part of
it.

* `Store.ofBytes_of_isPrefix` — a snapshot that was cut short is refused.
* `Console.load_all_or_nothing` — this, and what a failed load leaves behind.
-/

namespace VerbScript

open MessagePack

/-! ### Snapshots are read steadily -/

/-- An id is a number. That it is read steadily follows from this, and so on up to whole stores:
each reader is made of steady ones. -/
theorem ObjectId.read_steady : Steady ObjectId.read := readUInt_steady.returning _

/-- A value is read steadily if the items of arrays are. Its variant decides which reader goes
on. -/
theorem Value.readWith_steady {items : Reader (List Value)} (h : Steady items) :
    Steady (Value.readWith items) := by
  refine (readVariant_steady Value.variantNames).bind fun p => ?_
  obtain ⟨variant, content⟩ := p
  dsimp only
  -- one reader for each of the six variants
  split
  · exact (readNoContent_steady content).bind fun _ => .pure _
  · exact (readContent_steady readBool_steady content).returning _
  · exact (readContent_steady readFloat_steady content).returning _
  · exact (readContent_steady readStr_steady content).returning _
  · exact (readContent_steady h content).returning _
  · exact (readContent_steady ObjectId.read_steady content).returning _

/-- The readers of values are nested, and the induction is on their depth. -/
theorem Value.read_steady (depth : Nat) : Steady (Value.read depth) := by
  induction depth with
  | zero => exact Value.readWith_steady readNoItems_steady
  | succ depth ih => exact Value.readWith_steady (readArray_steady ih)

/-- Each field of an object has a steady reader, whatever has been read before. A field that is
there twice is refused, and so it is with more bytes behind it. -/
theorem Object.readField_steady (depth : Nat) (d : Object.Draft) (i : Nat) :
    Steady (Object.readField depth d i) := by
  unfold Object.readField
  split
  · exact (readOnce_steady ObjectId.read_steady _).returning _
  · exact (readOnce_steady (readOption_steady ObjectId.read_steady rfl) _).returning _
  · exact (readOnce_steady (readUInt_steady.map _) _).returning _
  · exact (readOnce_steady (readTable_steady readStr_steady (Value.read_steady _)) _).returning _
  · exact (readOnce_steady (readTable_steady readStr_steady readStr_steady) _).returning _

theorem Object.read_steady (depth : Nat) : Steady (Object.read depth) :=
  readRecord_steady (Object.readField_steady depth)

theorem World.read_steady (depth : Nat) : Steady (World.read depth) := by
  refine readRecord_steady fun d i => ?_
  unfold World.readField
  -- the objects and the aliases
  split
  · have hobjects := readTable_steady ObjectId.read_steady (Object.read_steady (depth - 2))
    exact (readOnce_steady hobjects _).returning _
  · exact (readOnce_steady (readTable_steady readStr_steady ObjectId.read_steady) _).returning _

/-- **A snapshot is read steadily**: what follows it makes no difference. It is put together from
steady readers, in the order in which its parts are written. -/
theorem Store.read_steady : Steady Store.read := by
  refine readRecord_steady fun d i => ?_
  unfold Store.readField
  split
  · exact (readOnce_steady (readUInt_steady.map _) _).returning _
  · exact (readOnce_steady readUInt_steady _).returning _
  · exact (readOnce_steady (World.read_steady _) _).returning _

/-! ### Snapshots are exhausted -/

/-- An object all of whose lengths can be written, however deep its values are nested. The format
has no wider heads, so a greater length could not even be written down. -/
structure Object.Measured (o : Object) : Prop where
  props : o.props.size < UInt32.size
  propNames : ∀ b ∈ o.props.toList, (utf8 b.1).length < UInt32.size
  values : ∀ b ∈ o.props.toList, ∃ depth, b.2.Storable depth
  verbs : o.verbs.size < UInt32.size
  verbNames : ∀ b ∈ o.verbs.toList, (utf8 b.1).length < UInt32.size
  sources : ∀ b ∈ o.verbs.toList, (utf8 b.2).length < UInt32.size

/-- A world all of whose lengths can be written, however deep its values are nested. Such a world
may still be refused when it is read. -/
structure World.Measured (w : World) : Prop where
  objects : w.objects.size < UInt32.size
  each : ∀ b ∈ w.objects.toList, b.2.Measured
  aliases : w.aliases.size < UInt32.size
  names : ∀ b ∈ w.aliases.toList, (utf8 b.1).length < UInt32.size

/-- **A value is exhausted at every depth**: where it is nested too deep, it is refused. The
induction is on the value, for all depths at once. -/
theorem Value.read_exhausts {enough : Nat} {v : Value} (h : v.Storable enough) (depth : Nat) :
    Exhausts (Value.read depth) v.pack := by
  -- the depth matters to arrays only, so every other value is read back
  induction h generalizing depth with
  | null => exact (Value.read_pack .null).exhausts
  | bool b => exact (Value.read_pack (.bool b)).exhausts
  | number n => exact (Value.read_pack (.number n)).exhausts
  | str hlength => exact (Value.read_pack (.str hlength)).exhausts
  | object id => exact (Value.read_pack (.object id)).exhausts
  | @array enough items hlength _ ih =>
    have hvariant : Reads (readVariant Value.variantNames) (packMap 1 ++ packStr "Array")
        (4, true) := readVariant_packVariant 4 (by decide) (by decide)
    rw [Value.read_eq_readWith, Value.pack, Value.packItems_eq_flatMap]
    refine .after_reads hvariant (Exhausts.returning ?_ Value.array)
    -- an array at the last level is refused by its head already; one above it has its items read
    cases depth with
    | zero => exact .after_reads (readHead_packArray hlength) .failure
    | succ depth => exact readArray_exhausts hlength fun item hitem => ih item hitem depth

/-- An object is exhausted if its values are. Every field may be the one in which the bytes break
off. -/
theorem Object.read_exhausts {o : Object} (h : o.Measured) (depth : Nat) :
    Exhausts (Object.read depth) o.pack := by
  have hprops : Exhausts (readTable readStr (Value.read (depth - 1)))
      (packTable packStr Value.pack o.props) := by
    refine readTable_exhausts h.props (fun b hb => (readStr_packStr (h.propNames b hb)).exhausts) ?_
    intro b hb
    obtain ⟨enough, hvalue⟩ := h.values b hb
    exact Value.read_exhausts hvalue _
  -- verbs have no depth, so they are read back
  have hverbs := readTable_packTable h.verbs (fun b hb => readStr_packStr (h.verbNames b hb))
    fun b hb => readStr_packStr (h.sources b hb)
  refine readRecord_exhausts (by decide : 5 < UInt32.size) ?_
  simp only [List.forall_mem_cons]
  -- the five fields, by their names and places
  refine ⟨⟨by decide, 0, by decide, fun d => ?_⟩, ⟨by decide, 1, by decide, fun d => ?_⟩,
    ⟨by decide, 2, by decide, fun d => ?_⟩, ⟨by decide, 3, by decide, fun d => ?_⟩,
    ⟨by decide, 4, by decide, fun d => ?_⟩, nofun⟩
  · exact (readOnce_exhausts (ObjectId.read_pack o.id).exhausts _).returning _
  · exact (readOnce_exhausts (readOption_parent o.parent).exhausts _).returning _
  · exact (readOnce_exhausts (readUInt64_packUInt o.created).exhausts _).returning _
  · exact (readOnce_exhausts hprops _).returning _
  · exact (readOnce_exhausts hverbs.exhausts _).returning _

/-- So is a world, field by field. Its objects may be nested deeper than a reader follows, but no
reader gets to their end with fewer bytes. -/
theorem World.read_exhausts {w : World} (h : w.Measured) (depth : Nat) :
    Exhausts (World.read depth) w.pack := by
  have hobjects : Exhausts (readTable ObjectId.read (Object.read (depth - 2)))
      (packTable (fun id => packUInt id.raw.toNat) Object.pack w.objects) :=
    readTable_exhausts h.objects (fun b _ => (ObjectId.read_pack b.1).exhausts)
      fun b hb => Object.read_exhausts (h.each b hb) _
  have haliases : Reads (readTable readStr ObjectId.read)
      (packTable packStr (fun id => packUInt id.raw.toNat) w.aliases) w.aliases :=
    readTable_packTable h.aliases (fun b hb => readStr_packStr (h.names b hb))
      fun b _ => ObjectId.read_pack b.2
  refine readRecord_exhausts (by decide : 2 < UInt32.size) ?_
  simp only [List.forall_mem_cons]
  refine ⟨⟨by decide, 0, by decide, fun d => ?_⟩, ⟨by decide, 1, by decide, fun d => ?_⟩, nofun⟩
  · exact (readOnce_exhausts hobjects _).returning _
  · exact (readOnce_exhausts haliases.exhausts _).returning _

namespace Store

/-- **A snapshot is exhausted** by its reader, which takes all of it or refuses it. Nothing is said
here of what is read. -/
theorem read_exhausts {s : Store} (h : s.world.Measured) : Exhausts read s.toBytes := by
  -- the position is written as far as it fits, so its number has a form
  have hposition : s.writtenPosition < UInt64.size :=
    (Nat.min_le_right _ _).trans_lt (by decide)
  refine readRecord_exhausts (by decide : 3 < UInt32.size) ?_
  simp only [List.forall_mem_cons]
  refine ⟨⟨by decide, 0, by decide, fun d => ?_⟩, ⟨by decide, 1, by decide, fun d => ?_⟩,
    ⟨by decide, 2, by decide, fun d => ?_⟩, nofun⟩
  · exact (readOnce_exhausts (readUInt64_packUInt s.stream.seed).exhausts _).returning _
  · exact (readOnce_exhausts (readUInt_packUInt hposition).exhausts _).returning _
  · exact (readOnce_exhausts (World.read_exhausts h _) _).returning _

/-- **A snapshot that was cut short is refused.** Of bytes that a reader exhausts it accepts no
proper beginning, if it is steady. -/
theorem ofBytes_of_isPrefix {s : Store} (h : s.world.Measured) {part : List UInt8}
    (hpart : part <+: s.toBytes) (hne : part ≠ s.toBytes) :
    ofBytes part = .error (.serialization "invalid snapshot") := by
  have hnone : read part = none := (read_exhausts h).refuses read_steady hpart hne
  unfold ofBytes ofBytes?
  rw [hnone]
  rfl

/-! ### Failed loads -/

/-- A file that no store can be loaded from: it cannot be read, or its content is refused. The
failure is the one that is reported. -/
inductive Unloadable (disk : Disk) (path : String) : Failure → Prop where
  | unreadable {refusal : Disk.Refusal} (read : disk.read path = .error refusal) :
      Unloadable disk path (.io (loadRefused path refusal))
  | refused {bytes : List UInt8} {failure : Failure} (read : disk.read path = .ok bytes)
      (refused : ofBytes bytes = .error failure) : Unloadable disk path failure

/-- Nothing is loaded from such a file. -/
theorem Unloadable.load_eq {disk : Disk} {path : String} {failure : Failure}
    (h : Unloadable disk path failure) : load disk path = .error failure := by
  unfold load
  cases h with
  | unreadable hread => rw [hread]
  | refused hread hrefused => rw [hread]; exact hrefused

end Store

/-- A session takes a world over only after it has been read as a whole. -/
theorem Session.load_of_unloadable (s : Session) {disk : Disk} {path : String} {failure : Failure}
    (h : Store.Unloadable disk path failure) : s.load disk path = .error failure := by
  unfold Session.load
  rw [h.load_eq]
  rfl

namespace Console

/-- **Loads are all or nothing.** A snapshot that was cut short is refused. From a file that cannot
be read or whose content is refused, a session loads nothing, and a console that is told to load it
reports the failure and keeps its session and its buffer. -/
theorem load_all_or_nothing :
    (∀ (s : Store) (part : List UInt8), s.world.Measured → part <+: s.toBytes → part ≠ s.toBytes →
      ∃ detail, Store.ofBytes part = .error (.serialization detail)) ∧
    (∀ (session : Session) (disk : Disk) (path : String) (failure : Failure),
      Store.Unloadable disk path failure → session.load disk path = .error failure) ∧
    (∀ (c : Console) (line path : String) (failure : Failure),
      Command.ofLine? line.toList = some (.load path) → Store.Unloadable c.disk path failure →
      c.handle line = (c, .error failure)) := by
  refine ⟨?_, ?_, ?_⟩
  · intro s part hmeasured hpart hne
    exact ⟨_, Store.ofBytes_of_isPrefix hmeasured hpart hne⟩
  · intro session disk path failure hunloadable
    exact session.load_of_unloadable hunloadable
  · intro c line path failure hline hunloadable
    -- the command asks the session first, and has nothing to undo
    have hload := c.session.load_of_unloadable hunloadable
    unfold handle
    rw [hline]
    dsimp only [command]
    rw [hload]

/-- A world that was cut off inside the text of a property, next to a file that does not exist.
Neither of them is loaded, and the line that waits in the console is still there. -/
theorem cut_hall_not_loaded :
    let hall : Object := {
      id := ⟨7⟩
      props := Table.empty.insert "exits" (.array [.str "North"]) }
    let s : Store := { world := (World.insert {} hall).1, stream := { seed := 42, position := 1 } }
    let part := s.toBytes.take 86
    let c : Console := {
      session := .start {}
      buffer := ["say hello"]
      disk := { files := Table.empty.insert ["hall"] part } }
    s.toBytes.drop 86 =
        utf8 "th" ++ packStr "verbs" ++ packMap 0 ++ packStr "aliases" ++ packMap 0 ∧
      (∃ detail, c.session.load c.disk "hall" = .error (.serialization detail) ∧
        c.handle ".load hall" = (c, .error (.serialization detail))) ∧
      c.handle ".load attic" = (c, .error (.io
        "failed to open file 'attic': No such file or directory (os error 2)")) := by
  intro hall s part c
  have hvalue : Value.Storable 1 (.array [.str "North"]) :=
    .array (by decide) (List.forall_mem_singleton.2 (.str (by decide)))
  have hobject : hall.Measured := by
    refine ⟨by decide, fun b hb => ?_, fun b hb => ?_, by decide, nofun, nofun⟩
    all_goals obtain rfl := List.mem_singleton.1 hb
    · decide
    · exact ⟨1, hvalue⟩
  have hmeasured : s.world.Measured := by
    refine ⟨by decide, fun b hb => ?_, by decide, nofun⟩
    obtain rfl := List.mem_singleton.1 hb
    exact hobject
  have hrest : s.toBytes.drop 86 =
      utf8 "th" ++ packStr "verbs" ++ packMap 0 ++ packStr "aliases" ++ packMap 0 := by decide
  have hlength : part.length ≠ s.toBytes.length := by decide
  have hread : c.disk.read "hall" = .ok part := rfl
  have hmissing : c.disk.read "attic" = .error .notFound := rfl
  obtain ⟨hcut, hsession, hkept⟩ := load_all_or_nothing
  obtain ⟨detail, hrefused⟩ := hcut s part hmeasured (List.take_prefix _ _) fun heq =>
    hlength (congrArg List.length heq)
  have hhall : Store.Unloadable c.disk "hall" (.serialization detail) :=
    .refused hread hrefused
  refine ⟨hrest, ⟨detail, ?_, ?_⟩, ?_⟩
  · exact hsession c.session c.disk "hall" _ hhall
  · exact hkept c ".load hall" "hall" _ (by decide) hhall
  · exact hkept c ".load attic" "attic" _ (by decide) (.unreadable hmissing)

end Console

end VerbScript
