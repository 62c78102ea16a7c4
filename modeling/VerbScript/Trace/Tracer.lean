import VerbScript.Trace.Buffer

/-!
# Tracers

A tracer records events while it is enabled and its filter admits them. It can also echo each
recorded line; the echoed lines wait in `Tracer.echoed` for whoever shows them.
-/

namespace VerbScript

/-- A recorder of events. It is a value: tasks hand it on, and what was recorded before stays in
it. -/
structure Tracer where
  enabled : Bool := false
  /-- The types to record; an empty filter admits all. -/
  filter : List String := []
  /-- Whether recorded lines are echoed. -/
  echo : Bool := false
  buffer : TraceBuffer := { capacity := 10000 }
  /-- The tick that new records are stamped with. -/
  tick : Nat := 0
  /-- Echoed lines that have not been shown yet, newest first. -/
  echoed : List String := []

namespace Tracer

/-- A tracer that has recorded nothing. -/
def start (enabled : Bool) (filter : List String) (echo : Bool) (capacity : Nat) : Tracer :=
  { enabled, filter, echo, buffer := { capacity } }

/-- Turns recording on or off. What has been recorded stays. -/
def setEnabled (t : Tracer) (enabled : Bool) : Tracer := { t with enabled }

/-- Sets the tick that new records are stamped with. -/
def setTick (t : Tracer) (tick : Nat) : Tracer := { t with tick }

/-- Drops every record. Echoed lines that have not been shown will still be. -/
def clear (t : Tracer) : Tracer := { t with buffer := t.buffer.clear }

/-- Whether the filter lets an event through. Names that no type has are harmless in a filter,
unless there are no others. -/
def admits (t : Tracer) (event : TraceEvent) : Bool :=
  t.filter.isEmpty || t.filter.contains event.type.name

/-- Records an event if recording is on and the filter admits it. An event that is not recorded
takes no number. -/
def record (t : Tracer) (event : TraceEvent) : Tracer :=
  if t.enabled && t.admits event then
    let buffer := t.buffer.push t.tick event
    let echoed :=
      if t.echo then
        match buffer.last? with
        | some r => r.display :: t.echoed
        -- a buffer of capacity zero has no line to echo
        | none => t.echoed
      else t.echoed
    { t with buffer, echoed }
  else t

/-- Records an event of a tick, if enabled. The tick is set even if the filter then leaves the event
out. -/
def recordAt (t : Tracer) (tick : Nat) (event : TraceEvent) : Tracer :=
  if t.enabled then { t with tick }.record event else t

/-- Takes the echoed lines, oldest first, so that each is shown once. -/
def takeEchoed (t : Tracer) : List String × Tracer := (t.echoed.reverse, { t with echoed := [] })

/-- The newest `count` records, one per line. -/
def format (t : Tracer) (count : Nat) : String :=
  "\n".intercalate ((t.buffer.recent count).map TraceRecord.display)

end Tracer

end VerbScript
