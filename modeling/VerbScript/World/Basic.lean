import VerbScript.Machine.Basic
import VerbScript.Script.Assembly
import VerbScript.World.IdStream

/-!
# Worlds

A world holds objects and aliases. Objects have properties and verbs of their own and inherit
those of their ancestors: `World.chain` lists an object and the ancestors that are met on the
way up its parents, and what is inherited is the first thing found along the chain. A chain ends
at a missing parent and before an object would come a second time, so parents may form a cycle.
-/

namespace VerbScript

/-- An object of the world. The id is a field of the object, and a world that was read from bytes
may have the object under another one. -/
structure Object where
  id : ObjectId
  /-- The object that missing properties and verbs are looked up on. -/
  parent : Option ObjectId := none
  /-- When the object was made, in seconds. -/
  created : UInt64 := 0
  /-- The properties set on the object itself. -/
  props : Table String Value := .empty
  /-- The sources of the verbs defined on the object itself. -/
  verbs : Table String String := .empty
deriving Inhabited

/-- Objects under their ids, and the names of some of them. Nothing forbids a parent or an alias
that leads to no object. -/
structure World where
  objects : Table ObjectId Object := .empty
  aliases : Table String ObjectId := .empty
deriving Inhabited

namespace World

/-- The property that reads as null and ignores writes. -/
def verbsName : String := "_verbs"

/-- The property that reads as the time of creation and ignores writes. -/
def createdName : String := "_created"

/-- The properties that no script can write. Reading them does not look at the properties of the
object. -/
def isReadOnly (name : String) : Bool := name = verbsName ∨ name = createdName

/-- The object with an id. -/
def object? (w : World) (id : ObjectId) : Option Object := w.objects.get? id

/-- Whether there is an object with this id. -/
def contains (w : World) (id : ObjectId) : Bool := w.objects.contains id

/-- The ids of all objects, ascending. -/
def ids (w : World) : List ObjectId := w.objects.keys

/-- Applies a change to an object that has to exist. The object stays under the id it was found
by. -/
def change (w : World) (id : ObjectId) (f : Object → Object) : Except Fault World :=
  match w.object? id with
  | some o => .ok { w with objects := w.objects.insert id (f o) }
  | none => .error (.objectNotFound id)

/-- Puts an object under its own id, and returns the one that was there. Aliases and children of
that one now lead to the new object. -/
def insert (w : World) (o : Object) : World × Option Object :=
  ({ w with objects := w.objects.insert o.id o }, w.object? o.id)

/-- The objects from `o` upwards, without those seen before; `fuel` bounds their number. -/
def chainFrom (w : World) (seen : List ObjectId) : Nat → Object → List Object
  | 0, _ => []
  | fuel + 1, o =>
    if o.id ∈ seen then []
    else
      o :: match o.parent.bind w.object? with
        | some parent => chainFrom w (o.id :: seen) fuel parent
        | none => []

/-- An object and its ancestors, nearest first. There are no more of them than objects in the
world, because no id comes twice. -/
def chain (w : World) (o : Object) : List Object := w.chainFrom [] w.objects.size o

/-- What the first object of the chain that has something to say gives. Only the object at the start
has to exist. -/
def inherited {α : Type} (w : World) (id : ObjectId) (probe : Object → Option α) :
    Except Fault (Option α) :=
  match w.object? id with
  | some o => .ok ((w.chain o).findSome? probe)
  | none => .error (.objectNotFound id)

/-- Reads a property as scripts do. A name that nothing on the chain has is a fault, while a
read-only name is never looked up. -/
def readProp (w : World) (id : ObjectId) (name : String) : Except Fault Value :=
  match w.object? id with
  | none => .error (.objectNotFound id)
  | some o =>
    if name = verbsName then .ok .null
    else if name = createdName then .ok (.number (Number.ofNat o.created.toNat))
    else do
      match ← w.inherited id (·.props.get? name) with
      | some v => .ok v
      | none => .error (.propNotFound name)

/-- Writes a property of the object itself; read-only names are left alone. What an ancestor has
under the name is hidden and not changed. -/
def writeProp (w : World) (id : ObjectId) (name : String) (value : Value) : Except Fault World :=
  -- the object has to exist even if nothing is written
  w.change id fun o => if isReadOnly name then o else { o with props := o.props.insert name value }

/-- The properties set on an object itself, in name order. Those it inherits are not among them. -/
def props (w : World) (id : ObjectId) : Except Fault (List (String × Value)) :=
  match w.object? id with
  | some o => .ok o.props.toList
  | none => .error (.objectNotFound id)

/-- Sets or takes away the parent of an object. It is not checked whether this closes a cycle. -/
def setParent (w : World) (id : ObjectId) (parent : Option ObjectId) : Except Fault World :=
  w.change id fun o => { o with parent }

/-- Defines or replaces a verb. The source need not compile; this is seen when it is called. -/
def setVerb (w : World) (id : ObjectId) (name source : String) : Except Fault World :=
  w.change id fun o => { o with verbs := o.verbs.insert name source }

/-- The source of a verb defined on the object itself. -/
def verbSource? (w : World) (id : ObjectId) (name : String) : Option String := do
  (← w.object? id).verbs.get? name

/-- The names of the verbs defined on the object itself, in order. A missing object has none. -/
def verbNames (w : World) (id : ObjectId) : List String :=
  ((w.object? id).map (·.verbs.keys)).getD []

/-- The source of a verb of the object or its nearest ancestor that has it. A missing object and a
missing verb are different faults. -/
def findVerb (w : World) (id : ObjectId) (name : String) : Except Fault String := do
  match ← w.inherited id (·.verbs.get? name) with
  | some source => .ok source
  | none => .error (.verbNotFound name)

/-- Names an object; the name is taken from whatever had it. The object need not exist. -/
def setAlias (w : World) (name : String) (id : ObjectId) : World :=
  { w with aliases := w.aliases.insert name id }

/-- The object with a name. -/
def alias? (w : World) (name : String) : Option ObjectId := w.aliases.get? name

/-- A frame at the beginning of the verb a call names. It runs as the object that was called, also
if the verb is an ancestor's. -/
def frameForCall (w : World) (object : ObjectId) (args : CallArgs) : Except Failure Frame := do
  let source ← (w.findVerb object args.verb).mapError .raised
  let script ← (Script.compile source).mapError .rejected
  return Frame.forCall object script args

/-- A frame for a call that a script makes: a verb that does not compile is a fault of the
call. -/
def callee (w : World) (object : ObjectId) (args : CallArgs) : Except Fault Frame :=
  (w.frameForCall object args).mapError fun
    | .rejected error => .compile error
    | .raised fault => fault
    -- a call looks at no file, so there is no other failure
    | other => .unexpectedReply other.message

end World

/-- Something that answers the requests of machines from its state. The state after an answer comes
with it, also with a fault. -/
class Host (σ : Type) where
  serve : σ → Request → σ × Except Fault Reply

/-- The world answers requests about its objects, and calls with a machine at the beginning of the
verb. -/
def World.serve (w : World) : Request → World × Except Fault Reply
  | .getProp object name => (w, (w.readProp object name).map .value)
  | .setProp object name value =>
    match w.writeProp object name value with
    | .ok w => (w, .ok .done)
    | .error fault => (w, .error fault)
  | .resolveAlias name =>
    match w.alias? name with
    | some id => (w, .ok (.value (.object id)))
    | none => (w, .error (.unknownAlias name))
  | .call object args => (w, (w.callee object args).map fun f => .frame (.start f))

instance : Host World := ⟨World.serve⟩

end VerbScript
