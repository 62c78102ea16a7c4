import VerbScript.Value

/-!
# Requests

A machine keeps nothing of the world. What a statement needs from it, a property, an alias or
another verb, it asks of its host by a `Request`.
-/

namespace VerbScript

/-- The evaluated arguments of a verb call. The objects are what is in front of the preposition and
behind it, as one value each; the params have every word of them once more. -/
structure CallArgs where
  verb : String
  direct : Option Value := none
  preposition : Option String := none
  indirect : Option Value := none
  /-- Every word after the verb, each resolved on its own. -/
  params : List Value := []
  /-- The object whose script makes the call. -/
  caller : ObjectId
deriving Inhabited

/-- What a machine asks of its host. The objects in it are those whose scripts ask: a script reads,
writes and calls on the object it runs as. -/
inductive Request where
  /-- Read a property, inherited ones included. -/
  | getProp (object : ObjectId) (name : String)
  /-- Write a property. -/
  | setProp (object : ObjectId) (name : String) (value : Value)
  /-- Find the object with an alias. -/
  | resolveAlias (name : String)
  /-- Run a verb. -/
  | call (object : ObjectId) (args : CallArgs)
deriving Inhabited

/-- The four kinds of requests, which is all that is reported of a request that was answered. -/
inductive RequestKind where
  | getProp
  | setProp
  | resolveAlias
  | call
deriving DecidableEq, Inhabited

/-- How a kind is called in messages. -/
def RequestKind.name : RequestKind → String
  | getProp => "get_prop"
  | setProp => "set_prop"
  | resolveAlias => "resolve_alias"
  | call => "call"

namespace Request

/-- The kind of a request. Its arguments are for the host only. -/
def kind : Request → RequestKind
  | getProp .. => .getProp
  | setProp .. => .setProp
  | resolveAlias _ => .resolveAlias
  | call .. => .call

/-- The text of a request in traces. The arguments of a call are left out, and the value of a write
is written as scripts display it. -/
def display : Request → String
  | getProp object name => "get " ++ object.display ++ "." ++ name
  | setProp object name value =>
    "set " ++ object.display ++ "." ++ name ++ " = " ++ value.display
  | resolveAlias name => "resolve ##" ++ name
  | call object args => "call " ++ object.display ++ ":" ++ args.verb

end Request

end VerbScript
