import VerbScript.Task
import VerbScript.World.File

/-!
# Sessions

A session is a world and the object a user drives it from, which has the alias `Me`. Scripts run
on that object. A verb that no object defines may be answered by the session itself: `say` writes
its words to the session's output.
-/

namespace VerbScript

/-- A store whose scripts can also speak. What they say is no part of the world, so it is not saved
with it. -/
structure Stage where
  store : Store
  /-- The lines spoken and not yet taken, newest first. -/
  output : List String := []
deriving Inhabited

namespace Stage

/-- The verbs that the session answers when no object defines them. An object that defines one of
these names hides it. -/
def nativeVerbs : List String := ["say"]

/-- The line that a native verb speaks: its params, with blanks between them. -/
def spoken (args : CallArgs) : String := " ".intercalate (args.params.map Value.display)

/-- Answers a request: a verb that is not found may be native, everything else is up to the
world. -/
def serve (s : Stage) (request : Request) : Stage × Except Fault Reply :=
  let (world, reply) := s.store.world.serve request
  match request, reply with
  | .call _ args, .error (.verbNotFound name) =>
    -- what is asked for is the verb of the call, whatever name the fault has
    if nativeVerbs.contains args.verb then
      ({ s with output := spoken args :: s.output }, .ok (.value .null))
    else (s, .error (.verbNotFound name))
  | _, reply => ({ s with store := { s.store with world } }, reply)

end Stage

instance : Host Stage := ⟨Stage.serve⟩

/-- The settings of a session, which stay when a world is loaded. The seed is only used for a world
that starts empty. -/
structure Settings where
  /-- The seed of new object ids. -/
  seed : UInt64 := 0
  /-- The most ticks a script may use. -/
  limit : Option Nat := some 1000000
  /-- How deep calls may be nested. -/
  maxDepth : Nat := 32
  /-- Whether tracing is on from the start. -/
  trace : Bool := false
  /-- The time that new objects are stamped with. -/
  clock : UInt64 := 0

/-- A world and the object a user drives it from. Its tracer is used by all its scripts, one after
the other. -/
structure Session where
  stage : Stage
  /-- The object that scripts run on. -/
  player : ObjectId
  settings : Settings
  tracer : Tracer

namespace Session

/-- The alias of the object that scripts run on. -/
def playerAlias : String := "Me"

/-- The object with the session's alias, which is made if there is none. An alias of an object that
is gone is given to a new one. -/
def ensurePlayer (store : Store) (clock : UInt64) : ObjectId × Store :=
  match store.world.alias? playerAlias with
  | some id => if store.world.contains id then (id, store) else made
  | none => made
where
  /-- A new object under the alias. -/
  made : ObjectId × Store :=
    let (id, store) := store.create none clock
    (id, { store with world := store.world.setAlias playerAlias id })

/-- A session on an existing world, which gets a player if it has none. What the tracer records is
echoed, if it records anything. -/
def ofStore (store : Store) (settings : Settings) : Session :=
  let (player, store) := ensurePlayer store settings.clock
  { stage := { store }
    player
    settings
    tracer := { enabled := settings.trace, echo := true } }

/-- A session on an empty world. -/
def start (settings : Settings) : Session := ofStore (.ofSeed settings.seed) settings

/-- The world of a session. -/
def world (s : Session) : World := s.stage.store.world

/-- Takes the lines spoken so far, oldest first. -/
def takeOutput (s : Session) : List String × Session :=
  (s.stage.output.reverse, { s with stage := { s.stage with output := [] } })

/-- Runs a script on the session's object. What it has written and recorded stays, also if it
fails. -/
def runScript (s : Session) (script : Script) : Session × Except Failure Value :=
  let frame : Frame := { owner := s.player, script, maxDepth := s.settings.maxDepth }
  let task : Task :=
    { machine := .start frame, limit := s.settings.limit, tracer := some s.tracer }
  let (task, stage, result) := task.run s.stage
  ({ s with stage, tracer := task.tracer.getD s.tracer }, result.mapError .raised)

/-- Compiles and runs a source text. A text that does not compile changes nothing. -/
def runSource (s : Session) (source : String) : Session × Except Failure Value :=
  match Script.compile source with
  | .ok script => s.runScript script
  | .error e => (s, .error (.rejected e))

/-- The script that makes a call and returns its result: a single assignment to the variable of the
result. -/
def callScript (c : Verbcall Node) : Script :=
  [.assign .set ⟨.var, Frame.returnName, none⟩ [.call c]]

/-- Reads a line as a verb call. Its errors are those of the first line of a script. -/
def readCall (line : String) : Except SyntaxError (Verbcall Node) :=
  atLine 1 do
    match ← Statement.ofTokens (← Token.lex (Text.trim line.toList)) with
    | .call c => .ok c
    | other => .error (.notCall other.kind)

/-- Runs one verb line and results in what the verb returns. The call is made by a script of one
assignment, to the variable that a script results in. -/
def callLine (s : Session) (line : String) : Session × Except Failure Value :=
  match readCall line with
  | .ok c => s.runScript (callScript c)
  | .error e => (s, .error (.rejected e))

/-- Stores a source text that compiles as a verb of the session's object. It is the text that is
stored; it will be compiled again when it is called. -/
def defineVerb (s : Session) (name source : String) : Except Failure Session :=
  match Script.compile source, s.world.setVerb s.player name source with
  | .error e, _ => .error (.rejected e)
  | .ok _, .error fault => .error (.raised fault)
  | .ok _, .ok world =>
    .ok { s with stage := { s.stage with store := { s.stage.store with world } } }

/-- The properties set on the session's object, inherited ones left out. -/
def props (s : Session) : Except Failure (List (String × Value)) :=
  (s.world.props s.player).mapError .raised

/-- The verbs defined on the session's object. -/
def verbNames (s : Session) : List String := s.world.verbNames s.player

/-- Writes the world to a file. -/
def save (s : Session) (disk : Disk) (path : String) : Except Failure Disk :=
  s.stage.store.save disk path

/-- Replaces the world by one from a file; the settings and the trace carry over, and what was
spoken and not yet taken is lost with the old world. A file that cannot be loaded gives no
session. -/
def load (s : Session) (disk : Disk) (path : String) : Except Failure Session :=
  (Store.load disk path).map fun store =>
    let (player, store) := ensurePlayer store s.settings.clock
    { s with stage := { store }, player }

/-- Turns tracing on or off. -/
def setTrace (s : Session) (enabled : Bool) : Session :=
  { s with tracer := { s.tracer with enabled } }

end Session

end VerbScript
