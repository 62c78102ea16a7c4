import VerbScript.Machine.Basic
import VerbScript.Trace.Tracer
import VerbScript.World.Basic

/-!
# Tasks

A task runs a machine against a host. One tick is one step of the machine and, if the step asked
something, the host's answer to it. A task may have a limit of ticks and a tracer.
-/

namespace VerbScript

/-- What one tick did, if it did not fail. The end of the script is no failure here. -/
inductive Tick where
  /-- A step was made. -/
  | stepped
  /-- A request of this kind was answered. -/
  | served (kind : RequestKind)
  /-- The script ended with this result. -/
  | finished (value : Value)
deriving DecidableEq

/-- A script in progress. The host is no part of it but goes from tick to tick, so that several
tasks can take turns on one. -/
structure Task where
  machine : Machine
  /-- The ticks used so far. -/
  ticks : Nat := 0
  /-- The most ticks that may be used. -/
  limit : Option Nat := some 1000000
  tracer : Option Tracer := none

namespace Task

/-- Records an event of the current tick, which is made up only if it is recorded. So a task that is
not traced does no work for events. -/
def trace (t : Task) (event : Unit → TraceEvent) : Task :=
  match t.tracer with
  | some tracer =>
    if tracer.enabled then { t with tracer := some (tracer.recordAt t.ticks (event ())) } else t
  | none => t

/-- Records a step, and the return of a verb if there are fewer frames than before. The return is
recorded first, with the depth of the frame that is gone. -/
def traceStep (t : Task) (framesBefore : Nat) : Task :=
  let depth := t.machine.current.depth
  let t :=
    if t.machine.frameCount < framesBefore then
      -- the result is the newest answer in the caller's log
      t.trace fun _ => .frameReturned (depth + 1) (t.machine.lastReply?.getD .null)
    else t
  t.trace fun _ => .step depth t.machine.current.path

/-- How a trace calls an answer. What is answered is not recorded, only of which kind it is. -/
def replyKind : Except Fault Reply → String
  | .ok (.value _) => "value"
  | .ok .done => "done"
  | .ok (.frame _) => "frame"
  | .error _ => "error"

/-- The verb a request calls; other requests have none. -/
def requestVerb : Request → String
  | .call _ args => args.verb
  | _ => ""

variable {σ : Type} [Host σ]

/-- Has the host answer a request, and hands the answer to the machine. A call that is answered with
a machine counts as entered if there are more frames than before, which leaves out a call that is
too deep. -/
def serve (t : Task) (host : σ) (request : Request) : Task × σ × Except Fault Unit :=
  let t := t.trace fun _ => .request t.machine.current.depth request.display
  let (host, reply) := Host.serve host request
  let t := t.trace fun _ => .reply (replyKind reply)
  let framesBefore := t.machine.frameCount
  let (machine, result) := t.machine.resume reply
  let t := { t with machine }
  let t :=
    if result.isOk && framesBefore < machine.frameCount then
      t.trace fun _ => .framePushed (requestVerb request) machine.current.depth
    else t
  (t, host, result)

/-- Runs one tick. The limit is looked at first, and a task that has reached it does nothing more.
The host's fault is no failure of the tick: the machine raises it in the next one. -/
def tick (t : Task) (host : σ) : Task × σ × Except Fault Tick :=
  if t.limit.any (· ≤ t.ticks) then (t, host, .error (.tickLimitExceeded (t.limit.getD 0)))
  else
    let framesBefore := t.machine.frameCount
    let (machine, result) := t.machine.step
    let t := { t with machine, ticks := t.ticks + 1 }
    match result with
    | .ok .continued => (t.traceStep framesBefore, host, .ok .stepped)
    | .ok (.suspended request) =>
      let (t, host, result) := t.serve host request
      (t, host, result.map fun _ => .served request.kind)
    | .error .endOfScript =>
      (t.trace (fun _ => .finished t.ticks), host, .ok (.finished t.machine.returnValue))
    | .error fault => (t.trace (fun _ => .error fault.message), host, .error fault)

/-- Ticks at most `n` times, up to the end of the script or a fault, and lists what the ticks did in
front of what `earlier` ticks did, newest first. -/
def ticksAfter (earlier : List (Except Fault Tick)) (t : Task) (host : σ) :
    Nat → Task × σ × List (Except Fault Tick)
  | 0 => (t, host, earlier)
  | n + 1 =>
    match t.tick host with
    | (t, host, .ok (.finished v)) => (t, host, .ok (.finished v) :: earlier)
    | (t, host, .error fault) => (t, host, .error fault :: earlier)
    | (t, host, .ok result) => ticksAfter (.ok result :: earlier) t host n

/-- Ticks at most `n` times, up to the end of the script or a fault, and lists what the ticks
did. -/
def ticksUpTo (t : Task) (host : σ) (n : Nat) : Task × σ × List (Except Fault Tick) :=
  let (t, host, results) := ticksAfter [] t host n
  (t, host, results.reverse)

/-- Ticks up to the end of the script or a fault, at most `fuel` times; none is a script that is
still running then. Unlike `ticksUpTo` it keeps only the last result. -/
def runFor (t : Task) (host : σ) : Nat → Task × σ × Option (Except Fault Value)
  | 0 => (t, host, none)
  | fuel + 1 =>
    match t.tick host with
    | (t, host, .ok (.finished v)) => (t, host, some (.ok v))
    | (t, host, .error fault) => (t, host, some (.error fault))
    | (t, host, .ok _) => runFor t host fuel

/-- The ticks a run may take: one more than the limit leaves, in which the limit is reported. A
task without a limit is given more than can be used. -/
def fuel (t : Task) : Nat :=
  match t.limit with
  | some limit => limit - t.ticks + 1
  | none => UInt64.size

/-- Ticks up to the end of the script or a fault. With a limit, one of the two comes within the
fuel, if only as the report of the limit. -/
def run (t : Task) (host : σ) : Task × σ × Except Fault Value :=
  let (t, host, result) := t.runFor host t.fuel
  (t, host, result.getD (.error (.tickLimitExceeded t.ticks)))

end Task

end VerbScript
