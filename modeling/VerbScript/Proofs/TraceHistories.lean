import Mathlib.Data.List.DropRight
import VerbScript.Trace.Tracer

/-!
# Histories of a tracer

A tracer records events while recording is on, and between two events recording is turned on or
off, the tick is set, or all records are dropped. This module says what is in its buffer after any
history of these operations.

The buffer drops old records from time to time only. Seen through `TraceBuffer.records` it drops
them at once, and nothing else of it is looked at here (`TraceBuffer.records_push`).

* `Tracer.Operation`, `Tracer.after` — histories.
* `Tracer.kept`, `Tracer.keptRecords`, `Tracer.keptSinceClear` — what a history keeps, read off
  the operations: whether recording was on and which tick was set is looked up in the operations
  before an event, and no state is carried along.
* `Tracer.Remembers` — the invariant, kept by each operation (`Tracer.Remembers.perform`).
* `Tracer.Chronicles` — what the buffer tells of a history, and `Tracer.after_chronicles`, the
  theorem.
-/

namespace VerbScript

/-- Of the last `n` elements and one behind them, the last `n` are those of the whole list: what has
been dropped before could not come back. -/
theorem rtake_rtake_concat {α : Type} (l : List α) (x : α) (n : Nat) :
    (l.rtake n ++ [x]).rtake n = (l ++ [x]).rtake n := by
  cases n with
  | zero => rw [List.rtake_zero, List.rtake_zero]
  | succ n =>
    simp only [List.rtake_eq_reverse_take_reverse, List.reverse_concat, List.reverse_reverse,
      List.take_succ_cons, List.take_take, Nat.min_eq_left (Nat.le_succ n)]

/-- More elements than there are cannot be taken. -/
theorem rtake_min_length {α : Type} (l : List α) (n : Nat) :
    l.rtake (min n l.length) = l.rtake n := by
  unfold List.rtake
  congr 1
  omega

/-! ### Buffers -/

namespace TraceBuffer

variable (b : TraceBuffer) (tick : Nat) (event : TraceEvent)

/-- Room is given once and for all. -/
@[simp] theorem push_capacity : (b.push tick event).capacity = b.capacity := by
  unfold push
  dsimp only
  split <;> rfl

/-- Every record takes the next number, also when old records are dropped. -/
@[simp] theorem push_nextId : (b.push tick event).nextId = b.nextId + 1 := by
  unfold push
  dsimp only
  split <;> rfl

/-- What is held are the last of all records that the buffer still has, in order. -/
theorem records_eq : b.records = b.newest.reverse.rtake b.capacity := by
  rw [List.rtake_eq_reverse_take_reverse, List.reverse_reverse]
  rfl

/-- Whether old records are dropped now or later does not show. The list may grow beyond the
capacity before it is cut, but no more records than the capacity are ever looked at. -/
theorem newest_push : (b.push tick event).newest.take b.capacity
    = (⟨b.nextId, tick, event⟩ :: b.newest).take b.capacity := by
  unfold push
  dsimp only
  split
  · rfl
  · -- here the buffer has grown too long, and is cut to what is held
    rw [List.take_take, Nat.min_self]

/-- **A record is added behind the others**, and the oldest one is dropped if there are too many.
The buffer itself may keep it for a while; of this nothing is to be seen. -/
theorem records_push : (b.push tick event).records
    = (b.records ++ [(⟨b.nextId, tick, event⟩ : TraceRecord)]).rtake b.capacity := by
  have hdropped : (b.push tick event).records
      = (b.newest.reverse ++ [(⟨b.nextId, tick, event⟩ : TraceRecord)]).rtake b.capacity := by
    rw [records, push_capacity, newest_push, List.rtake_eq_reverse_take_reverse,
      List.reverse_concat, List.reverse_reverse]
  rw [hdropped, records_eq, rtake_rtake_concat]

/-- Nothing is left behind a clear. -/
@[simp] theorem records_clear : b.clear.records = [] := by
  rw [records, clear, List.take_nil, List.reverse_nil]

/-- The newest record is the last one. -/
theorem last?_eq : b.last? = b.records.getLast? := by
  rw [records, List.getLast?_reverse, List.head?_take]
  rfl

/-- The newest records are the end of what is held. -/
theorem recent_isSuffix (count : Nat) : b.recent count <:+ b.records := List.drop_suffix _ _

/-- As many of the newest records are shown as are asked for, if there are so many. -/
theorem length_recent (count : Nat) : (b.recent count).length = min count b.size := by
  rw [recent, List.length_drop, size]
  omega

end TraceBuffer

namespace Tracer

/-! ### Recording -/

/-- A filter admits the types that it names, and all types if it is empty. This is said of the
events, where the tracer compares the names of their types. -/
def Admits (filter : List String) (event : TraceEvent) : Prop :=
  filter = [] ∨ event.type.name ∈ filter

instance (filter : List String) (event : TraceEvent) : Decidable (Admits filter event) :=
  inferInstanceAs (Decidable (_ ∨ _))

variable (t : Tracer) (event : TraceEvent)

/-- The test of the tracer is the property. -/
theorem admits_iff : t.admits event = true ↔ Admits t.filter event := by
  rw [admits, Bool.or_eq_true, List.isEmpty_iff, List.contains_iff_mem, Admits]

/-- Recording an event changes none of the settings, whether or not it is kept. -/
@[simp] theorem record_enabled : (t.record event).enabled = t.enabled := by
  unfold record
  split <;> rfl

@[simp] theorem record_filter : (t.record event).filter = t.filter := by
  unfold record
  split <;> rfl

@[simp] theorem record_tick : (t.record event).tick = t.tick := by
  unfold record
  split <;> rfl

/-- An event goes to the buffer if recording is on and the filter admits it. It is stamped with the
tick of the tracer. -/
theorem record_buffer : (t.record event).buffer =
    if t.enabled = true ∧ Admits t.filter event then t.buffer.push t.tick event else t.buffer := by
  unfold record
  simp only [Bool.and_eq_true, admits_iff]
  split <;> rfl

/-! ### Histories -/

/-- What can be done with a tracer between its creation and a look at its buffer. Looks are no
operations, since they change nothing. -/
inductive Operation where
  | record (event : TraceEvent)
  | setEnabled (enabled : Bool)
  | setTick (tick : Nat)
  | clear

namespace Operation

/-- Whether recording is on behind the operation, if this is what it sets. All other operations
leave it as it is. -/
def enabled? : Operation → Option Bool
  | setEnabled enabled => some enabled
  | _ => none

/-- The tick that the operation sets. All other operations leave the tick as it is. -/
def tick? : Operation → Option Nat
  | setTick tick => some tick
  | _ => none

def isClear : Operation → Bool
  | clear => true
  | _ => false

end Operation

def perform (t : Tracer) : Operation → Tracer
  | .record event => t.record event
  | .setEnabled enabled => t.setEnabled enabled
  | .setTick tick => t.setTick tick
  | .clear => t.clear

/-- The tracer after a history, which is a list of operations, the first one first. -/
def after (t : Tracer) (history : List Operation) : Tracer := history.foldl perform t

theorem after_concat (history : List Operation) (op : Operation) :
    t.after (history ++ [op]) = (t.after history).perform op := List.foldl_concat _ _ _ _

/-- Whether recording is on after a history: as it was set last, or as it was at the beginning. It
is read off the history alone, and not off any tracer. -/
def enabledAfter (initially : Bool) (history : List Operation) : Bool :=
  (history.reverse.findSome? Operation.enabled?).getD initially

/-- The tick after a history: the one set last, or zero. This too is read off the history. -/
def tickAfter (history : List Operation) : Nat :=
  (history.reverse.findSome? Operation.tick?).getD 0

section Kept

variable (initially : Bool) (filter : List String)

/-- The event that an operation keeps, given the operations before it: one that is recorded while
recording is on and whose type the filter admits. It goes with the tick set last. Nothing but the
earlier operations is consulted, so this says what a tracer should keep without having one. -/
def keptBy (before : List Operation) : Operation → Option (Nat × TraceEvent)
  | .record event =>
    if enabledAfter initially before = true ∧ Admits filter event then
      some (tickAfter before, event)
    else none
  | _ => none

/-- **The events that a history keeps**, in order, each with its tick. Whether an event is kept is
decided when it is recorded, and nothing that comes later changes it. -/
def kept (history : List Operation) : List (Nat × TraceEvent) :=
  (List.range history.length).filterMap fun i =>
    history[i]?.bind (keptBy initially filter (history.take i))

/-- The records of these events. They are numbered from zero, whatever has been dropped since. -/
def keptRecords (history : List Operation) : List TraceRecord :=
  (kept initially filter history).mapIdx fun id (tick, event) => ⟨id, tick, event⟩

/-- The records of the events kept behind the last operation that has dropped all. Their numbers go
on from those before it, which are counted to find where they begin. -/
def keptSinceClear (history : List Operation) : List TraceRecord :=
  (keptRecords initially filter history).drop
    (kept initially filter (history.rdropWhile fun op => !op.isClear)).length

end Kept

/-! ### One more operation -/

/-- The last operation decides whether recording is on, if it sets this at all. Most operations do
not. -/
theorem enabledAfter_concat (initially : Bool) (history : List Operation) (op : Operation) :
    enabledAfter initially (history ++ [op])
      = op.enabled?.getD (enabledAfter initially history) := by
  unfold enabledAfter
  rw [List.reverse_concat, List.findSome?_cons]
  cases op.enabled? <;> rfl

/-- So it does with the tick. -/
theorem tickAfter_concat (history : List Operation) (op : Operation) :
    tickAfter (history ++ [op]) = op.tick?.getD (tickAfter history) := by
  unfold tickAfter
  rw [List.reverse_concat, List.findSome?_cons]
  cases op.tick? <;> rfl

variable {initially : Bool} {filter : List String} {history : List Operation} {op : Operation}

/-- One more operation keeps its event behind the others, or nothing. So the events that are kept
grow with the history, and none of them changes later. -/
theorem kept_concat : kept initially filter (history ++ [op])
    = kept initially filter history ++ (keptBy initially filter history op).toList := by
  unfold kept
  rw [List.length_append, List.length_singleton, List.range_succ, List.filterMap_append]
  congr 1
  · -- what an operation keeps depends on those before it only
    refine List.filterMap_congr fun i hi => ?_
    have hi : i < history.length := List.mem_range.1 hi
    rw [List.getElem?_append_left hi, List.take_append_of_le_length (Nat.le_of_lt hi)]
  · -- the last operation has the whole history before it
    rw [List.filterMap_cons, List.getElem?_concat_length, List.take_left, Option.bind_some]
    cases keptBy initially filter history op <;> rfl

/-- What has been kept is kept for good; later events come behind it. This is said of the history
and not of the buffer, which drops old records. -/
theorem kept_isPrefix (history later : List Operation) :
    kept initially filter history <+: kept initially filter (history ++ later) := by
  induction later using List.reverseRecOn with
  | nil => simp only [List.append_nil, List.prefix_rfl]
  | append_singleton later op ih =>
    rw [← List.append_assoc, kept_concat]
    exact ih.trans (List.prefix_append _ _)

/-- There is one record for each event that is kept. -/
@[simp] theorem length_keptRecords : (keptRecords initially filter history).length
    = (kept initially filter history).length := List.length_mapIdx

/-- The numbers of the records are their places. They go on over a clear, so that no number is given
twice. -/
theorem map_id_keptRecords : (keptRecords initially filter history).map (·.id)
    = List.range (kept initially filter history).length := by
  refine List.ext_getElem (by simp) fun i hi hi' => ?_
  rw [List.getElem_map, List.getElem_range]
  unfold keptRecords
  rw [List.getElem_mapIdx]

/-- The record of the event that an operation keeps, behind those of the operations before it. It is
numbered by how many there are, so numbers are never used twice. -/
def recordBy (initially : Bool) (filter : List String) (before : List Operation) (op : Operation) :
    Option TraceRecord :=
  (keptBy initially filter before op).map fun e =>
    ⟨(kept initially filter before).length, e.1, e.2⟩

/-- The record of one more event has the number of events before it. Numbers are given to events
that are kept, so there are no gaps between them. -/
theorem keptRecords_concat : keptRecords initially filter (history ++ [op])
    = keptRecords initially filter history ++ (recordBy initially filter history op).toList := by
  rw [keptRecords, kept_concat, recordBy]
  cases keptBy initially filter history op with
  | none =>
    rw [Option.toList_none, List.append_nil, Option.map_none, Option.toList_none, List.append_nil,
      keptRecords]
  | some e =>
    rw [Option.toList_some, List.mapIdx_concat, Option.map_some, Option.toList_some, keptRecords]

/-- An operation keeps an event only if it records it, and then under the two conditions. Both are
those at the time of the operation, whatever is changed later. -/
theorem keptBy_eq_some_iff {before : List Operation} {tick : Nat} {event : TraceEvent} :
    keptBy initially filter before op = some (tick, event) ↔ op = .record event ∧
      enabledAfter initially before = true ∧ Admits filter event ∧ tick = tickAfter before := by
  constructor
  · intro h
    cases op with
    | record event' =>
      -- the conditions are those under which anything is kept at all
      obtain ⟨⟨henabled, hadmits⟩, heq⟩ := Option.ite_none_right_eq_some.1 h
      obtain ⟨rfl, rfl⟩ := Prod.mk.inj (Option.some.inj heq)
      exact ⟨rfl, henabled, hadmits, rfl⟩
    | _ => cases h
  · rintro ⟨rfl, henabled, hadmits, rfl⟩
    exact if_pos ⟨henabled, hadmits⟩

/-- What has been kept before the buffer was last cleared is part of what has been kept. -/
theorem kept_length_le : (kept initially filter (history.rdropWhile fun op => !op.isClear)).length
    ≤ (kept initially filter history).length := by
  -- the part up to the last clear is a prefix of the history
  obtain ⟨later, hlater⟩ := List.rdropWhile_prefix (fun op : Operation => !op.isClear) history
  conv_rhs => rw [← hlater]
  exact (kept_isPrefix _ later).length_le

/-- Right behind a clear there is nothing that has been kept since. What was kept before is still
counted. -/
theorem keptSinceClear_clear : keptSinceClear initially filter (history ++ [.clear]) = [] := by
  unfold keptSinceClear
  rw [List.rdropWhile_concat_neg _ _ _ (by decide)]
  exact List.drop_of_length_le (Nat.le_of_eq length_keptRecords)

/-- Any other operation adds what it keeps to what has been kept since the last clear. This may be
nothing. -/
theorem keptSinceClear_concat (hop : op.isClear = false) :
    keptSinceClear initially filter (history ++ [op])
      = keptSinceClear initially filter history ++
        (recordBy initially filter history op).toList := by
  unfold keptSinceClear
  rw [List.rdropWhile_concat_pos _ _ _ (by rw [hop]; rfl), keptRecords_concat,
    List.drop_append_of_le_length (kept_length_le.trans_eq length_keptRecords.symm)]

/-- **A record is kept** exactly if its event is recorded somewhere in the history while recording
is on, and the filter admits it. Its number is that of the events kept before it. -/
theorem mem_keptRecords {r : TraceRecord} : r ∈ keptRecords initially filter history ↔
    ∃ before event later, history = before ++ .record event :: later ∧
      enabledAfter initially before = true ∧ Admits filter event ∧
      r = ⟨(kept initially filter before).length, tickAfter before, event⟩ := by
  induction history using List.reverseRecOn with
  | nil =>
    constructor
    · intro h
      cases h
    · rintro ⟨before, event, later, hsplit, -⟩
      exact absurd hsplit.symm (List.append_ne_nil_of_right_ne_nil _ (List.cons_ne_nil _ _))
  -- the induction is on the last operation, since what is kept depends on those before it
  | append_singleton history op ih =>
    rw [keptRecords_concat, List.mem_append, ih, Option.mem_toList, recordBy,
      Option.map_eq_some_iff]
    constructor
    · rintro (⟨before, event, later, rfl, hkept⟩ | ⟨⟨tick, event⟩, hby, rfl⟩)
      · exact ⟨before, event, later ++ [op], List.append_assoc _ _ _, hkept⟩
      · obtain ⟨rfl, henabled, hadmits, rfl⟩ := keptBy_eq_some_iff.1 hby
        exact ⟨history, event, [], rfl, henabled, hadmits, rfl⟩
    · -- the event is recorded by the last operation, or before it
      rintro ⟨before, event, later, hsplit, henabled, hadmits, rfl⟩
      rcases later.eq_nil_or_concat' with rfl | ⟨later, last, rfl⟩
      · obtain ⟨rfl, hop⟩ := List.append_inj' hsplit rfl
        obtain rfl : op = .record event := List.head_eq_of_cons_eq hop
        exact .inr ⟨_, keptBy_eq_some_iff.2 ⟨rfl, henabled, hadmits, rfl⟩, rfl⟩
      · have hsplit' : history ++ [op] = (before ++ .record event :: later) ++ [last] := by
          rw [hsplit, List.append_assoc, List.cons_append]
        obtain ⟨rfl, -⟩ := List.append_inj' hsplit' rfl
        exact .inl ⟨before, event, later, rfl, henabled, hadmits, rfl⟩

/-! ### The invariant -/

/-- **The tracer remembers the history**: its settings are those made last, and its buffer holds the
newest of the records kept since it was last cleared. The right-hand sides know nothing of the
tracer, so this is what an outsider who has watched the operations can expect of it. -/
structure Remembers (initially : Bool) (filter : List String) (capacity : Nat)
    (history : List Operation) (t : Tracer) : Prop where
  on : t.enabled = enabledAfter initially history
  filtered : t.filter = filter
  stamp : t.tick = tickAfter history
  size : t.buffer.capacity = capacity
  count : t.buffer.nextId = (kept initially filter history).length
  held : t.buffer.records = (keptSinceClear initially filter history).rtake capacity

variable {capacity : Nat} {t : Tracer}

/-- A tracer that has seen nothing remembers nothing. Whether it records from the beginning is one
of its settings. -/
theorem remembers_start (initially : Bool) (filter : List String) (echo : Bool) (capacity : Nat) :
    (start initially filter echo capacity).Remembers initially filter capacity [] := by
  refine ⟨rfl, rfl, rfl, rfl, rfl, ?_⟩
  show (List.take capacity []).reverse = List.rtake [] capacity
  rw [List.take_nil, List.rtake_nil]
  rfl

/-- An event that is kept is remembered: its record goes behind all others. If the buffer is full,
the oldest record goes. -/
theorem Remembers.record_kept (h : t.Remembers initially filter capacity history)
    {event : TraceEvent} (hkept : t.enabled = true ∧ Admits t.filter event) :
    (t.record event).Remembers initially filter capacity (history ++ [.record event]) := by
  have hbuffer : (t.record event).buffer = t.buffer.push t.tick event := by
    rw [record_buffer, if_pos hkept]
  have hby : keptBy initially filter history (.record event) = some (tickAfter history, event) := by
    rw [h.on, h.filtered] at hkept
    exact if_pos hkept
  constructor
  · rw [record_enabled, h.on, enabledAfter_concat]
    rfl
  · rw [record_filter, h.filtered]
  · rw [record_tick, h.stamp, tickAfter_concat]
    rfl
  · rw [hbuffer, TraceBuffer.push_capacity, h.size]
  · rw [hbuffer, TraceBuffer.push_nextId, h.count, kept_concat, hby, List.length_append]
    rfl
  · -- dropping commutes with adding: the oldest record goes, whether it was held before or not
    rw [hbuffer, TraceBuffer.records_push, h.held, h.size, h.count, h.stamp,
      rtake_rtake_concat, keptSinceClear_concat rfl, recordBy, hby]
    rfl

/-- So is an operation that keeps nothing and leaves the buffer alone. It may still turn recording
on or off or set the tick, and an event that is not admitted is of this kind as well. -/
theorem Remembers.of_same (h : t.Remembers initially filter capacity history) {t' : Tracer}
    (hbuffer : t'.buffer = t.buffer) (hfilter : t'.filter = t.filter)
    (henabled : t'.enabled = op.enabled?.getD t.enabled) (htick : t'.tick = op.tick?.getD t.tick)
    (hop : op.isClear = false) (hnone : keptBy initially filter history op = none) :
    t'.Remembers initially filter capacity (history ++ [op]) := by
  constructor
  · rw [henabled, h.on, enabledAfter_concat]
  · rw [hfilter, h.filtered]
  · rw [htick, h.stamp, tickAfter_concat]
  · rw [hbuffer, h.size]
  · rw [hbuffer, h.count, kept_concat, hnone, Option.toList_none, List.append_nil]
  · rw [hbuffer, h.held, keptSinceClear_concat hop, recordBy, hnone, Option.map_none,
      Option.toList_none, List.append_nil]

/-- **Each operation is remembered.** The cases are the operations: recording may add a record,
clearing drops all of them, and the other two leave the buffer alone. -/
theorem Remembers.perform (h : t.Remembers initially filter capacity history) (op : Operation) :
    (t.perform op).Remembers initially filter capacity (history ++ [op]) := by
  cases op with
  | record event =>
    -- an event is either kept, or leaves the buffer alone
    by_cases hkept : t.enabled = true ∧ Admits t.filter event
    · exact h.record_kept hkept
    · have hbuffer : (t.record event).buffer = t.buffer := by
        rw [record_buffer, if_neg hkept]
      refine h.of_same hbuffer (record_filter t event) (record_enabled t event)
        (record_tick t event) rfl (if_neg ?_)
      rw [← h.on, ← h.filtered]
      exact hkept
  | setEnabled enabled => exact h.of_same rfl rfl rfl rfl rfl rfl
  | setTick tick => exact h.of_same rfl rfl rfl rfl rfl rfl
  | clear =>
    refine ⟨?_, h.filtered, ?_, h.size, ?_, ?_⟩
    · rw [enabledAfter_concat]
      exact h.on
    · rw [tickAfter_concat]
      exact h.stamp
    · -- the numbers go on
      rw [kept_concat]
      show t.buffer.nextId = (kept initially filter history ++ []).length
      rw [List.append_nil, h.count]
    · rw [keptSinceClear_clear, List.rtake_nil]
      exact TraceBuffer.records_clear t.buffer

/-- **So is a whole history**, by induction from its end: the last operation is performed by a
tracer that remembers those before it. -/
theorem remembers_after (initially : Bool) (filter : List String) (echo : Bool) (capacity : Nat)
    (history : List Operation) :
    ((start initially filter echo capacity).after history).Remembers initially filter capacity
      history := by
  induction history using List.reverseRecOn with
  | nil => exact remembers_start initially filter echo capacity
  | append_singleton history op ih =>
    rw [after_concat]
    exact ih.perform op

/-! ### What a buffer tells -/

/-- The second list has, in the order of the first, the records of it that satisfy a condition.
Records have numbers, so none of them is met twice. -/
structure Selects (p : TraceRecord → Prop) (records selected : List TraceRecord) : Prop where
  sublist : selected.Sublist records
  mem_iff : ∀ r, r ∈ selected ↔ r ∈ records ∧ p r

/-- Filtering a list selects from it. What is selected stays in its order. -/
theorem selects_filter (p : TraceRecord → Prop) [DecidablePred p] (records : List TraceRecord) :
    Selects p records (records.filter (p ·)) := by
  refine ⟨List.filter_sublist, fun r => ?_⟩
  rw [List.mem_filter, decide_eq_true_eq]

/-- **The buffer of the tracer chronicles the history.** The history is a list of operations; what
is kept of it is defined without the buffer, and the buffer is compared with it. -/
structure Chronicles (initially : Bool) (filter : List String) (capacity : Nat)
    (history : List Operation) (t : Tracer) : Prop where
  /-- Kept are the events that are recorded while recording is on and that the filter admits, each
  with the tick set last before it. -/
  kept_iff : ∀ r, r ∈ keptRecords initially filter history ↔
    ∃ before event later, history = before ++ .record event :: later ∧
      enabledAfter initially before = true ∧ Admits filter event ∧
      r = ⟨(kept initially filter before).length, tickAfter before, event⟩
  /-- They are numbered from zero, without gaps, up to the number that is given next. -/
  ids : (keptRecords initially filter history).map (·.id) = List.range t.buffer.nextId
  /-- Held are the newest of those kept since the buffer was last cleared, oldest first, as many of
  them as there is room for. -/
  held : t.buffer.records = (keptSinceClear initially filter history).rtake
    (min capacity (keptSinceClear initially filter history).length)
  /-- The newest record is the last of these, and the newest records are their end. -/
  last : t.buffer.last? = t.buffer.records.getLast?
  recent : ∀ count, t.buffer.recent count <:+ t.buffer.records ∧
    (t.buffer.recent count).length = min count t.buffer.records.length
  ofTick : ∀ tick, Selects (·.tick = tick) t.buffer.records (t.buffer.ofTick tick)
  ofType : ∀ type, Selects (·.event.type.name = type) t.buffer.records (t.buffer.ofType type)

/-- **A tracer chronicles its history.** Let a tracer start with any filter and any capacity, with
recording on or off, and let events be recorded, recording be turned on and off, ticks be set and
the records be cleared in any order. The events that it keeps are those recorded while recording is
on, and admitted by the filter; they are numbered from zero without gaps, and the numbers go on
behind a clear. Its buffer holds the newest of those kept since it was last cleared, as many as
there is room for, oldest first and each with the tick set last before it. The newest of these, and
those of a tick or of a type, are found in it in their order. -/
theorem after_chronicles (initially : Bool) (filter : List String) (echo : Bool) (capacity : Nat)
    (history : List Operation) :
    ((start initially filter echo capacity).after history).Chronicles initially filter capacity
      history := by
  have h := remembers_after initially filter echo capacity history
  refine ⟨fun r => mem_keptRecords, ?_, ?_, ?_, fun count => ⟨?_, ?_⟩, fun tick => ?_,
    fun type => ?_⟩
  · rw [h.count, map_id_keptRecords]
  · rw [h.held, rtake_min_length]
  · exact TraceBuffer.last?_eq _
  · exact TraceBuffer.recent_isSuffix _ count
  · exact TraceBuffer.length_recent _ count
  · exact selects_filter _ _
  · exact selects_filter _ _

/-- One event is not admitted, one is cleared, one comes while recording is off, and one has been
dropped since. -/
example :
    let t := (start true ["reply"] false 2).after
      [.record (.finished 1), .record (.reply "value"), .clear, .setTick 1, .record (.reply "done"),
        .setEnabled false, .record (.reply "done"), .setEnabled true, .record (.reply "frame"),
        .setTick 2, .record (.reply "error")]
    t.buffer.records.map (fun r => (r.id, r.tick)) = [(2, 1), (3, 2)] := by decide

end Tracer

end VerbScript
