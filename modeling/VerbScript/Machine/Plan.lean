import VerbScript.Fault
import VerbScript.Machine.Request

/-!
# Plans

The meaning of an expression or statement is a `Plan`: a result, a fault, or a request together
with what to do for each answer. A plan says what is asked and in which order, and nothing
about who answers. `Plan.replay` answers the requests from a log of earlier answers and stops at
the first request the log does not answer, so a plan that is replayed with a longer log asks
nothing twice.
-/

namespace VerbScript

/-- A computation that may ask the host. What comes after a request may depend on the answer; a plan
that asks nothing is a result or a fault. -/
inductive Plan (α : Type) where
  | done (a : α)
  | fail (fault : Fault)
  | ask (request : Request) (answered : Value → Plan α)

namespace Plan

variable {α β : Type}

/-- Continues a plan with its result. Its requests come first, and a fault ends the whole. -/
def bind : Plan α → (α → Plan β) → Plan β
  | done a, f => f a
  | fail fault, _ => fail fault
  | ask request answered, f => ask request fun v => (answered v).bind f

instance : Monad Plan where
  pure := done
  bind := bind

/-- The plan that asks one request and results in its answer. -/
def request (r : Request) : Plan Value := ask r done

/-- A computation that asks nothing, as a plan. It is through at once, with a result or with a
fault. -/
def ofExcept : Except Fault α → Plan α
  | .ok a => done a
  | .error fault => fail fault

end Plan

/-- How far a plan came with the answers known so far. Only the last case changes when the log
becomes longer. -/
inductive Outcome (α : Type) where
  | done (a : α)
  | failed (fault : Fault)
  /-- This request is not answered yet. -/
  | suspended (request : Request)

/-- Follows a plan, taking the answers from a log in order. Answers that the plan does not come to
are left unused. -/
def Plan.replay {α : Type} : Plan α → List Value → Outcome α
  | .done a, _ => .done a
  | .fail fault, _ => .failed fault
  | .ask request _, [] => .suspended request
  | .ask _ answered, v :: log => (answered v).replay log

end VerbScript
