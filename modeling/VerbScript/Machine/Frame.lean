import VerbScript.Machine.Evaluation

/-!
# Frames

A frame executes one script. It holds the path of the current statement, the local variables,
and a log of the answers the current statement has received. A statement that needs an answer
which is not in the log suspends; it is then evaluated again from its beginning with a longer
log. Writes happen only when a statement has all its answers, so they happen once.

Going on to the next statement is a phase of its own (`Phase.advance`), because entering a
`while` again evaluates its condition, which may suspend as well.
-/

namespace VerbScript

/-- Which part of the current statement a step works on. Between two steps it is the second one only
if finding the next statement had to stop, for an answer or with a fault. -/
inductive Phase where
  /-- The statement itself. -/
  | execute
  /-- Finding the statement after it. -/
  | advance
deriving DecidableEq, Inhabited

/-- What a step that did not fail came to. The end of the script is not among these but a fault,
`Fault.endOfScript`. -/
inductive Step where
  /-- There is more to do. -/
  | continued
  /-- The host has to answer this request. -/
  | suspended (request : Request)

/-- The execution of one script. How far the current statement has been evaluated is not part of it,
since that follows from the answers. -/
structure Frame where
  /-- The object the script runs as. -/
  owner : ObjectId
  script : Script
  locals : Table String Value := .empty
  /-- The path of the current statement. -/
  path : Path := [0]
  phase : Phase := .execute
  /-- The answers the current statement has received, in order. -/
  replies : List Value := []
  /-- The request the frame waits on. -/
  awaiting : Option Request := none
  /-- A fault that the next step raises. -/
  failure : Option Fault := none
  /-- Whether the end of the script has been reached. -/
  finished : Bool := false
  /-- How many frames are below this one. -/
  depth : Nat := 0
  /-- How deep calls may be nested. -/
  maxDepth : Nat := 32

namespace Frame

/-- The variable that holds the result of a verb. Scripts set it like any other variable. -/
def returnName : String := "_return"

/-- The variables that tell a verb about its call. All of them are always set: what the call does
not have is null. -/
def callLocals (args : CallArgs) : List (String × Value) :=
  [("_verb", .str args.verb),
    ("_directObj", args.direct.getD .null),
    ("_prepos", (args.preposition.map Value.str).getD .null),
    ("_indirectObj", args.indirect.getD .null),
    ("_params", .array args.params),
    ("_caller", .object args.caller)]

/-- A frame at the beginning of a verb that is called with the given arguments. The owner is the
object that was called, even if the verb is inherited. -/
def forCall (owner : ObjectId) (script : Script) (args : CallArgs) : Frame :=
  { owner, script, locals := Table.ofList (callLocals args) }

/-- Sets a local variable. -/
def setLocal (f : Frame) (name : String) (value : Value) : Frame :=
  { f with locals := f.locals.insert name value }

/-- The result of the script so far. A script that sets none results in null. -/
def returnValue (f : Frame) : Value := f.locals.getD returnName .null

/-- What the statements of the frame see. -/
def scope (f : Frame) : Scope := ⟨f.owner, f.locals⟩

/-- Forgets the answers and the open request of the current statement. The path and the phase stay,
so the frame is at the beginning of what it was doing. -/
def reset (f : Frame) : Frame := { f with replies := [], awaiting := none }

/-- Waits for the answer to a request. The log is kept: with one answer more, the evaluation comes
past the request. -/
def suspend (f : Frame) (request : Request) : Frame × Except Fault Step :=
  ({ f with awaiting := some request }, .ok (.suspended request))

/-- Gives up the current evaluation with a fault. The path stays, so a further step evaluates the
same again, unless the fault is the end of the script. -/
def abort (f : Frame) (fault : Fault) : Frame × Except Fault Step :=
  ({ f with finished := f.finished || fault.isEnd }.reset, .error fault)

/-- Goes on to the statement after the current one. If a loop's condition asks something on the way,
the path stays until the answers are there, and the next step comes back here. -/
def advance (f : Frame) : Frame × Except Fault Step :=
  match (successorPlan f.scope f.script f.path.reverse).replay f.replies with
  | .suspended request => f.suspend request
  | .failed fault => f.abort fault
  | .done (some path) => ({ f with phase := .execute, path }.reset, .ok .continued)
  | .done none => ({ f with phase := .execute, finished := true }.reset, .error .endOfScript)

/-- Executes the current statement, and goes on to the one after it. The log is emptied in between,
so the search for the next statement does not take the statement's answers. -/
def execute (f : Frame) : Frame × Except Fault Step :=
  match f.script.find? f.path with
  | none => f.abort .endOfScript
  | some statement =>
    match (statement.plan f.scope).replay f.replies with
    | .suspended request => f.suspend request
    | .failed fault => f.abort fault
    | .done .descend => ({ f with path := f.path ++ [0] }.reset, .ok .continued)
    | .done .next => { f with phase := .advance }.reset.advance
    -- the only write of a local, made when all answers are there
    | .done (.write name value) =>
      ({ f with phase := .advance }.setLocal name value).reset.advance

/-- One step: raises a pending fault, repeats an open request, reports the end, or works on the
current statement. Of these, the first that applies is done. -/
def step (f : Frame) : Frame × Except Fault Step :=
  match f.failure, f.awaiting with
  | some fault, _ => ({ f with failure := none }.reset, .error fault)
  | none, some request => (f, .ok (.suspended request))
  | none, none =>
    if f.finished then (f, .error .endOfScript)
    else
      match f.phase with
      | .execute => f.execute
      | .advance => f.advance

/-- Logs an answer, behind those that are there. -/
def logReply (f : Frame) (v : Value) : Frame := { f with replies := f.replies ++ [v] }

/-- Makes the next step raise a fault. Until then nothing is given up. -/
def raise (f : Frame) (fault : Fault) : Frame := { f with failure := some fault }

/-- The frame as one that another frame has called: one deeper, and under the same bound. -/
def calledFrom (f caller : Frame) : Frame :=
  { f with depth := caller.depth + 1, maxDepth := caller.maxDepth }

end Frame

end VerbScript
