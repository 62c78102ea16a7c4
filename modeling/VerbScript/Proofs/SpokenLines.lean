import VerbScript.Proofs.SessionWorlds

/-!
# What a script has said

A native verb speaks when a call is answered by it, because no object defines the verb. So what a
run says can be read off the requests that it has answered, each with the stage that answers it, and
that is what the stage has put by when the run is over.

* `Task.served` — the requests that a run has answered, in order.
* `Stage.speech?` — the line that a request has spoken.
* `Session.runScript_said` — a script has said these lines, in this order, and each of them once.
-/

namespace VerbScript

namespace Task

variable {σ : Type} [Host σ]

/-- The requests that are answered in at most `fuel` ticks of a run, in order, each with the host
that answers it. The list ends with the tick that ends the run. -/
def servedFor (t : Task) (host : σ) : Nat → List (σ × Request)
  | 0 => []
  | fuel + 1 =>
    (t.request?.map (host, ·)).toList ++
      match Tick.outcome? (t.tick host).2.2 with
      | some _ => []
      | none => (t.tick host).1.servedFor (t.tick host).2.1 fuel

/-- The requests that a run has answered, whether it has ended by itself or by its limit. -/
def served (t : Task) (host : σ) : List (σ × Request) := t.servedFor host t.fuel

end Task

namespace Stage

/-- The line that a request has spoken: it calls a native verb, and the object that it names does
not define it. -/
def speech? (s : Stage) : Request → Option String
  | .call object args =>
    match s.store.world.findVerb object args.verb with
    | .error (.verbNotFound _) =>
      if nativeVerbs.contains args.verb then some (spoken args) else none
    | _ => none
  | _ => none

/-- **A request speaks its line**, and takes nothing back. Only a call can reach a native verb, and
only if the search for the verb has failed because no object defines it. -/
theorem serve_output (s : Stage) (r : Request) :
    (s.serve r).1.output = (s.speech? r).toList ++ s.output := by
  cases r with
  | call object args =>
    have hserve : s.store.world.serve (.call object args)
        = (s.store.world, (s.store.world.callee object args).map fun f => .frame (.start f)) := rfl
    unfold serve speech?
    dsimp only
    rw [hserve, World.callee_eq]
    cases hfind : s.store.world.findVerb object args.verb with
    | ok source =>
      -- a verb that is found is run, or is rejected
      dsimp only [bind, Except.bind]
      cases Script.compile source <;> rfl
    | error fault =>
      cases fault with
      | verbNotFound name =>
        dsimp only [bind, Except.bind, Except.map]
        split <;> rfl
      | _ => rfl
  -- no other request touches the output
  | getProp object name => rfl
  | setProp object name value => rfl
  | resolveAlias name => rfl

/-- The lines that requests have spoken, in the order of the requests. Most of them have spoken
none. -/
def speeches (served : List (Stage × Request)) : List String :=
  served.filterMap fun (s, r) => s.speech? r

end Stage

/-- **A run speaks the lines of the requests that it has answered.** They are put by newest first.
The induction is on the fuel, as runs are. -/
theorem Task.runFor_output (t : Task) (s : Stage) (fuel : Nat) :
    (t.runFor s fuel).2.1.output
      = (Stage.speeches (t.servedFor s fuel)).reverse ++ s.output := by
  induction fuel generalizing t s with
  | zero => rfl
  | succ fuel ih =>
    -- a tick changes the stage only by the request that it serves
    have htick : (t.tick s).2.1.output
        = (Stage.speeches (t.request?.map (s, ·)).toList).reverse ++ s.output := by
      rw [tick_host]
      cases t.request? with
      | none => rfl
      | some r =>
        refine (s.serve_output r).trans ?_
        change _ = (List.filterMap _ [(s, r)]).reverse ++ _
        -- the request has spoken its line, if it has one
        cases hspeech : s.speech? r with
        | none => simp [hspeech]
        | some line => simp [hspeech]
    rw [runFor_succ, servedFor]
    unfold Stage.speeches at htick ⊢
    cases Tick.outcome? (t.tick s).2.2 with
    | some outcome =>
      -- the run is over, and nothing is answered behind this tick
      rw [List.append_nil]
      exact htick
    | none =>
      dsimp only
      -- what is spoken later stands before what this tick has spoken
      rw [ih, htick, List.filterMap_append, List.reverse_append, List.append_assoc]
      rfl

namespace Session

/-- The lines that a script says. They are counted from its requests, and not from the output. -/
def said (s : Session) (script : Script) : List String :=
  Stage.speeches ((s.task script).served s.stage)

/-- **What a script has said** is taken in the order in which it was said, behind what has been
waiting. -/
theorem runScript_said (s : Session) (script : Script) :
    (s.runScript script).1.takeOutput.1 = s.stage.output.reverse ++ s.said script := by
  have hrun : ((s.task script).run s.stage).2.1 = ((s.task script).runFor s.stage
      (s.task script).fuel).2.1 := rfl
  change ((s.task script).run s.stage).2.1.output.reverse = _
  rw [hrun, Task.runFor_output, List.reverse_append, List.reverse_reverse]
  rfl

end Session

end VerbScript
