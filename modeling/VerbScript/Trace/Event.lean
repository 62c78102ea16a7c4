import VerbScript.Script.Basic

/-!
# Trace events

What a tracer records of a running task, and how a record is written.
-/

namespace VerbScript

/-- Something that happened while a task ran. Texts are made when the event is recorded, so a record
does not change afterwards. -/
inductive TraceEvent where
  /-- A step was made; the innermost frame is now at this depth and path. -/
  | step (depth : Nat) (path : Path)
  /-- A frame asked a request. -/
  | request (depth : Nat) (text : String)
  /-- The host answered: `value`, `done`, `frame` or `error`. -/
  | reply (kind : String)
  /-- A verb was entered. -/
  | framePushed (verb : String) (depth : Nat)
  /-- A verb returned its result. -/
  | frameReturned (depth : Nat) (value : Value)
  /-- A step failed. -/
  | error (message : String)
  /-- The script came to its end. -/
  | finished (ticks : Nat)

/-- The types of events that filters know. A filter names them by `TraceType.name`. -/
inductive TraceType where
  | step
  | request
  | reply
  | framePushed
  | frameReturned
  | error
  | finished
deriving DecidableEq, Inhabited

namespace TraceType

/-- The name of a type in filters and listings. It is also what is asked for where records are
selected by their type. -/
def name : TraceType → String
  | step => "step"
  | request => "request"
  | reply => "reply"
  | framePushed => "frame-push"
  | frameReturned => "frame-return"
  | error => "error"
  | finished => "finished"

/-- All types, in the order in which they are counted. -/
def all : List TraceType :=
  [step, request, reply, framePushed, frameReturned, error, finished]

end TraceType

namespace TraceEvent

/-- The type of an event. What the event says besides does not count for a filter. -/
def type : TraceEvent → TraceType
  | step .. => .step
  | request .. => .request
  | reply _ => .reply
  | framePushed .. => .framePushed
  | frameReturned .. => .frameReturned
  | error _ => .error
  | finished _ => .finished

/-- Whether the event changes the stack of frames: the depth of later events follows from these. -/
def isFrameEvent : TraceEvent → Bool
  | framePushed .. => true
  | frameReturned .. => true
  | _ => false

/-- Two blanks for each level. -/
def indent (depth : Nat) : String := String.ofList (List.replicate (2 * depth) ' ')

/-- The text of an event, further in for deeper frames. A reply and the end of the script are
written without a depth. -/
def display : TraceEvent → String
  | step depth path => indent depth ++ "step @" ++ ".".intercalate (path.map Nat.repr)
  | request depth text => indent depth ++ "-> " ++ text
  | reply kind => "<- " ++ kind
  | framePushed verb depth => indent depth ++ ">> " ++ verb
  | frameReturned depth value => indent depth ++ "<< " ++ value.display
  | error message => "!! " ++ message
  | finished ticks => "== finished after " ++ ticks.repr ++ " tick(s)"

end TraceEvent

/-- An event with its place in a trace. Numbers are given in the order of recording and never
again. -/
structure TraceRecord where
  id : Nat
  /-- The tick of the task in which it happened. -/
  tick : Nat
  event : TraceEvent

namespace TraceRecord

/-- A number with zeros before it up to a width. A wider number is written in full, so no two
numbers are written the same. -/
def padded (width n : Nat) : String :=
  let digits := Nat.toDigits 10 n
  String.ofList (List.replicate (width - digits.length) '0' ++ digits)

/-- The line of a record. -/
def display (r : TraceRecord) : String := "T" ++ padded 4 r.tick ++ " " ++ r.event.display

/-- The line of a record with its number before it. -/
def displayWithId (r : TraceRecord) : String := "[" ++ padded 6 r.id ++ "] " ++ r.display

end TraceRecord

end VerbScript
