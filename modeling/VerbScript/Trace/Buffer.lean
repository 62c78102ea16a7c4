import VerbScript.Trace.Event

/-!
# Trace buffers

A buffer keeps the newest records up to a capacity. `TraceBuffer.records` is what it holds,
oldest first; numbers of records go on counting when old records are dropped or all are cleared.
-/

namespace VerbScript

/-- The newest records of a trace. `TraceBuffer.records` is what counts; how long older ones stay in
the list does not show. -/
structure TraceBuffer where
  capacity : Nat
  /-- Newest first; those beyond the capacity are no longer held and are dropped from time to
  time. -/
  newest : List TraceRecord := []
  /-- How many records were added since some were last dropped. -/
  added : Nat := 0
  /-- The number of the next record. -/
  nextId : Nat := 0

namespace TraceBuffer

/-- The records held, oldest first. -/
def records (b : TraceBuffer) : List TraceRecord := (b.newest.take b.capacity).reverse

/-- The number of records held. -/
def size (b : TraceBuffer) : Nat := b.records.length

/-- Adds an event. Dropping only after as many additions as the buffer holds keeps the cost of
an addition constant on average. -/
def push (b : TraceBuffer) (tick : Nat) (event : TraceEvent) : TraceBuffer :=
  let newest := ⟨b.nextId, tick, event⟩ :: b.newest
  if b.added < b.capacity then
    { b with newest, added := b.added + 1, nextId := b.nextId + 1 }
  else
    { b with newest := newest.take b.capacity, added := 0, nextId := b.nextId + 1 }

/-- Drops every record. The numbers go on from where they are. -/
def clear (b : TraceBuffer) : TraceBuffer := { b with newest := [], added := 0 }

/-- The newest record that is held. A buffer of capacity zero holds none, not even for a moment. -/
def last? (b : TraceBuffer) : Option TraceRecord :=
  if b.capacity = 0 then none else b.newest.head?

/-- The newest `count` records, oldest first; all that are held, if there are fewer. -/
def recent (b : TraceBuffer) (count : Nat) : List TraceRecord :=
  b.records.drop (b.size - count)

/-- The records of one tick. -/
def ofTick (b : TraceBuffer) (tick : Nat) : List TraceRecord := b.records.filter (·.tick = tick)

/-- The records of one type, given by its name. A name that no type has gives none. -/
def ofType (b : TraceBuffer) (type : String) : List TraceRecord :=
  b.records.filter (·.event.type.name = type)

/-- How many records of each type are held, types without records left out. -/
def counts (b : TraceBuffer) : List (TraceType × Nat) :=
  (TraceType.all.map fun t => (t, b.records.countP (·.event.type = t))).filter (0 < ·.2)

end TraceBuffer

end VerbScript
