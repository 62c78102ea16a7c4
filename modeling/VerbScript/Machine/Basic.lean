import VerbScript.Machine.Frame

/-!
# Machines

A machine is a stack of frames: the innermost one executes, and each caller waits for the result
of the frame above it. Stepping and answering act on the innermost frame. When a called script
ends, its result is logged as the answer to the caller's request; when it fails, all frames but
the outermost are given up.

A call is answered with a value or with a machine, which need not be at its beginning and may have
called others itself: its whole stack is put on top of the frame that waits.
-/

namespace VerbScript

/-- A stack of frames, which cannot be empty. The frames under the top one wait for a call each, and
take no step until it has returned. -/
structure Machine where
  /-- The frame that executes. -/
  current : Frame
  /-- The frames that wait for it, the nearest first. -/
  callers : List Frame := []

/-- An answer of the host. Which answers fit which requests is said by `Machine.deliver` alone; one
that does not fit makes the next step fail. -/
inductive Reply where
  /-- A value. -/
  | value (v : Value)
  /-- The write has been done. -/
  | done
  /-- Run this machine; the result of its outermost script is the answer. -/
  | frame (callee : Machine)

/-- How an answer is called in messages, which are about answers that do not fit. -/
def Reply.describe : Reply → String
  | value _ => "a value"
  | done => "done"
  | frame _ => "a frame"

namespace Machine

/-- The machine that starts with one frame. -/
def start (f : Frame) : Machine := { current := f }

/-- The frames from the outermost to the one that executes, in the order of their calls. -/
def frames (m : Machine) : List Frame := (m.current :: m.callers).reverse

/-- The number of frames. -/
def frameCount (m : Machine) : Nat := m.callers.length + 1

/-- The outermost frame, which is the one that executes if nothing has been called. -/
def root (m : Machine) : Frame := m.callers.getLast?.getD m.current

/-- The request that waits for an answer. A caller's own request was taken away when its call was
answered, so only the executing frame can have one. -/
def pending? (m : Machine) : Option Request := m.current.awaiting

/-- The newest answer to the statement that executes. Right after a called script has ended, it is
the result of the call. -/
def lastReply? (m : Machine) : Option Value := m.current.replies.getLast?

/-- The result of the outermost script so far; those of called scripts go into the logs of their
callers. -/
def returnValue (m : Machine) : Value := m.root.returnValue

/-- Changes the outermost frame. It is the executing one if no other waits, and the last of those
that wait otherwise. -/
def mapRoot (m : Machine) (g : Frame → Frame) : Machine :=
  match m.callers.reverse with
  | [] => { m with current := g m.current }
  | root :: rest => { m with callers := (g root :: rest).reverse }

/-- Sets a variable of the outermost frame, whichever frame executes. -/
def setLocal (m : Machine) (name : String) (value : Value) : Machine :=
  m.mapRoot (·.setLocal name value)

/-- Gives up all frames but the outermost, whose statement will start again. Its log is emptied, so
whatever the statement has asked is asked once more. -/
def unwind (m : Machine) : Machine :=
  match m.callers.getLast? with
  -- the step of the frame itself has emptied its log
  | none => m
  | some root => start root.reset

/-- Returns the result of the executing frame to its caller. The caller's statement finds it in its
log when it is evaluated the next time. -/
def returnTo (caller : Frame) (callers : List Frame) (result : Value) : Machine :=
  { current := caller.logReply result, callers }

/-- Executes one statement, or as much of it as can be done without a further answer. The end of a
called script is no failure but progress of the machine: its result is handed down. -/
def step (m : Machine) : Machine × Except Fault Step :=
  let (frame, result) := m.current.step
  let m : Machine := { m with current := frame }
  match result with
  | .ok progress => (m, .ok progress)
  | .error .endOfScript =>
    match m.callers with
    | [] => (m, .error .endOfScript)
    | caller :: callers => (returnTo caller callers frame.returnValue, .ok .continued)
  | .error fault => (m.unwind, .error fault)

/-- The machine `n` on top of the machine `m`, whose executing frame waits for it. Nothing is said
about depths here; see `push`. -/
def onto (n m : Machine) : Machine := { n with callers := n.callers ++ m.current :: m.callers }

/-- Runs a machine for the call that the executing frame waits on. Its outermost frame becomes one
that has been called from there; what it has called itself stays as it is. A call that would be too
deep fails instead, and the machine is dropped. -/
def push (m callee : Machine) : Machine :=
  if m.current.maxDepth < m.current.depth + 1 then
    { m with current := m.current.raise (.callDepthExceeded m.current.maxDepth) }
  else (callee.mapRoot (·.calledFrom m.current)).onto m

/-- Takes an answer to a request, which has been the open one. A write is logged as null however it
is answered, so that the log has one entry for each request. -/
def deliver (m : Machine) (request : Request) (reply : Reply) : Machine :=
  match request, reply with
  | .call .., .frame callee => m.push callee
  | .setProp .., .done => { m with current := m.current.logReply .null }
  | .setProp .., .value _ => { m with current := m.current.logReply .null }
  | .getProp .., .value v => { m with current := m.current.logReply v }
  | .resolveAlias _, .value v => { m with current := m.current.logReply v }
  | .call .., .value v => { m with current := m.current.logReply v }
  | request, reply =>
    { m with current := m.current.raise (.unexpectedReply
        (request.kind.name ++ " cannot be answered with " ++ reply.describe)) }

/-- Answers the open request; a fault is raised by the next step. If no request is open, the answer
is refused and nothing changes. -/
def resume (m : Machine) (reply : Except Fault Reply) : Machine × Except Fault Unit :=
  match m.current.awaiting with
  | none => (m, .error (.unexpectedReply "no request is outstanding"))
  | some request =>
    let m : Machine := { m with current := { m.current with awaiting := none } }
    match reply with
    | .error fault => ({ m with current := m.current.raise fault }, .ok ())
    | .ok reply => (m.deliver request reply, .ok ())

/-- Steps at most `n` times, up to the first request or fault. The end of the script counts as a
fault, as it does for a step. -/
def run (m : Machine) : Nat → Machine × Except Fault Step
  | 0 => (m, .ok .continued)
  | n + 1 =>
    match m.step with
    | (m, .ok .continued) => m.run n
    | (m, .ok (.suspended request)) => (m, .ok (.suspended request))
    | (m, .error fault) => (m, .error fault)

end Machine

end VerbScript
