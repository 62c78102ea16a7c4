import Mathlib.Tactic.Set
import VerbScript.Proofs.MachineSteps

/-!
# Frames pursue plans

A frame re-executes its statement from a log, has a phase of its own for going on, and keeps its
place as a path. Seen from outside it does something simpler: it pursues one plan, from the
beginning of a statement up to the beginning of the next one.

* `Home` — what stays the same while a frame runs its script: the owner, the script and the depths.
* `Home.agenda` — the plan of a statement together with finding the next one; its result is where
  the frame comes to (`Landing`).
* `Home.Takes b plan x` — `x`, a step of a frame, is a step along `plan`, and so are the steps after
  it, whatever is answered. Neither the log nor the phase occurs in it.
* `Home.takes_agenda` — a frame at the beginning of a statement pursues its agenda.

The second half is about paths. `Home.leave` is the plan of leaving a block; a `while` whose block
is left has the agenda of the `while` itself (`Home.leave_while`), so entering a loop again is not
told apart from reaching it.
-/

namespace VerbScript

/-- Where a frame comes to: its variables, and the path of its next statement, if there is one.
Without one the script is over. -/
abbrev Landing := Table String Value × Option Path

/-- What stays the same while a frame runs its script. The variables and the path change, and the
rest of a frame does not show at the beginning of a statement. -/
structure Home where
  owner : ObjectId
  script : Script
  depth : Nat
  maxDepth : Nat

/-- What stays the same for a frame, whatever it executes. -/
def Frame.home (f : Frame) : Home := ⟨f.owner, f.script, f.depth, f.maxDepth⟩

namespace Home

variable {α : Type}

/-! ### Plans of frames -/

/-- The frame that is about to execute the statement at `path`: its log is empty, and nothing is
open. -/
def landed (b : Home) (locals : Table String Value) (path : Path) : Frame :=
  { owner := b.owner, script := b.script, locals, path, depth := b.depth, maxDepth := b.maxDepth }

/-- What the statements see: on whose behalf they run, and the variables. -/
def scope (b : Home) (locals : Table String Value) : Scope := ⟨b.owner, locals⟩

/-- The plan of going on behind the statement at `path`. The variables are those that the statement
has left, as conditions of loops read them. -/
def onward (b : Home) (locals : Table String Value) (path : Path) : Plan Landing :=
  (successorPlan (b.scope locals) b.script path.reverse).bind fun next => .done (locals, next)

/-- The plan of what follows when the statement at `path` has had its effect. An effect is a matter
of the frame and asks nothing; what may ask is going on. -/
def followUp (b : Home) (locals : Table String Value) (path : Path) : Effect → Plan Landing
  | .descend => .done (locals, some (path ++ [0]))
  | .next => b.onward locals path
  | .write name value => b.onward (locals.insert name value) path

/-- The plan of the statement at `path` and of finding the next one. A path without a statement is
the end of the script. -/
def agenda (b : Home) (locals : Table String Value) (path : Path) : Plan Landing :=
  match b.script.find? path with
  | none => .done (locals, none)
  | some statement => (statement.plan (b.scope locals)).bind (b.followUp locals path)

/-- **A step along a plan.** The step does what comes first in the plan, and if that is a request,
every answer leads to a step along the rest. -/
def Takes (b : Home) : Plan Landing → Frame × Except Fault Step → Prop
  | .done (locals, some path), x => x = (b.landed locals path, .ok .continued)
  | .done (locals, none), x => ∃ g : Frame, x = (g, .error .endOfScript) ∧ g.locals = locals
  | .fail fault, x => ∃ g : Frame, x = (g, .error fault)
  | .ask r k, x => ∃ g : Frame, x = g.suspend r ∧ g.Ready ∧ g.home = b ∧
      ∀ v, Takes b (k v) (g.logReply v).step

/-- **Replay is pursuit.** A frame that replays `p` from its log, and ends its step with `last a`
when `p` is done with `a`, pursues what the log leaves of `p`, followed by the plan along which
`last a` is a step. -/
theorem takes_of_replay {f : Frame} {p : Plan α} {next : α → Plan Landing}
    (last : α → Frame × Except Fault Step) (hready : f.Ready)
    (hstep : ∀ log, { f with replies := log }.step
      = Frame.conclude { f with replies := log } last (p.replay log))
    (hlast : ∀ a, f.home.Takes (next a) (last a)) {rest : Plan α} {log : List Value}
    (hleft : p.Leaves log rest) : f.home.Takes (rest.bind next) { f with replies := log }.step := by
  -- the induction is on what the log leaves, which loses its first request with every answer
  induction rest generalizing log with
  | done a =>
    rw [hstep, hleft.replay]
    exact hlast a
  | fail fault =>
    rw [hstep, hleft.replay]
    exact ⟨_, rfl⟩
  | ask r k ih =>
    rw [hstep, hleft.replay]
    refine ⟨{ f with replies := log }, rfl, ⟨hready.1, hready.2, hready.3⟩, rfl, fun v => ?_⟩
    exact ih v (hleft.answer v)

/-- A frame that arrives at a place is landed there, or is over. -/
theorem takes_arrive {f : Frame} (hready : f.Ready) (next : Option Path) :
    f.home.Takes (.done (f.locals, next)) (f.arrive next) := by
  cases next with
  | none => exact ⟨_, rfl, rfl⟩
  | some path =>
    obtain ⟨hawaiting, hfailure, hfinished⟩ := hready
    simp only [Takes, Frame.arrive, Frame.reset, landed, Frame.home, hfailure, hfinished]

/-- A frame behind a statement, with an empty log, goes on to the next one. The requests of
conditions that it tests on the way are part of what it pursues. -/
theorem takes_onward {f : Frame} (hready : f.Ready) (hphase : f.phase = .advance)
    (hlog : f.replies = []) : f.home.Takes (f.home.onward f.locals f.path) f.advance := by
  have hf : { f with replies := [] } = f := by rw [← hlog]
  rw [← Frame.step_advance hready hphase, ← hf]
  -- in this phase every step replays the plan of going on, whatever is in the log by then
  refine takes_of_replay f.arrive hready (fun log => ?_) (takes_arrive hready) (Plan.Leaves.nil _)
  have hready' : Frame.Ready { f with replies := log } := ⟨hready.1, hready.2, hready.3⟩
  rw [Frame.step_advance hready' hphase, Frame.advance_eq]
  rfl

/-- **A frame at the beginning of a statement pursues its agenda.** This is where phases and logs
come to an end: whatever follows is said in terms of agendas. -/
theorem takes_agenda (b : Home) (locals : Table String Value) (path : Path) :
    b.Takes (b.agenda locals path) (b.landed locals path).step := by
  set f := b.landed locals path with hf
  have hready : f.Ready := ⟨rfl, rfl, rfl⟩
  unfold agenda
  cases hfind : b.script.find? path with
  | none =>
    rw [Frame.step_execute_none hready rfl hfind]
    exact ⟨_, rfl, rfl⟩
  | some statement =>
    refine takes_of_replay f.affect hready (fun log => ?_) (fun effect => ?_) (Plan.Leaves.nil _)
    · -- every step replays the plan of the statement; the effect at its end is part of the same
      -- step
      have hready' : Frame.Ready { f with replies := log } := ⟨rfl, rfl, rfl⟩
      rw [Frame.step_execute hready' rfl hfind]
      rfl
    · cases effect with
      | descend => rfl
      | next =>
        exact takes_onward (f := { f with phase := .advance }.reset) ⟨rfl, rfl, rfl⟩ rfl rfl
      | write name value =>
        exact takes_onward (f := ({ f with phase := .advance }.setLocal name value).reset)
          ⟨rfl, rfl, rfl⟩ rfl rfl

end Home

/-! ### Paths into a script -/

namespace Script

/-- A path of more than one place looks the statement up in the block at its first place. What is
not there, or has no block, has no statement at the path. -/
theorem find?_cons (script : Script) (i : Nat) {path : Path} (h : path ≠ []) :
    script.find? (i :: path) = (script[i]?.bind Statement.block?).bind (find? · path) := by
  cases path with
  | nil => exact absurd rfl h
  | cons j rest =>
    cases hi : script[i]? with
    | none => simp only [find?, hi]; rfl
    | some statement => simp only [find?, hi]; rfl

/-- So it is with the block that encloses the path. The two lookups differ at the last place
only. -/
theorem enclosing?_cons (script : Script) (i : Nat) {path : Path} (h : path ≠ []) :
    script.enclosing? (i :: path)
      = (script[i]?.bind Statement.block?).bind (enclosing? · path) := by
  cases path with
  | nil => exact absurd rfl h
  | cons j rest =>
    cases hi : script[i]? with
    | none => simp only [enclosing?, hi]; rfl
    | some statement => simp only [enclosing?, hi]; rfl

/-- The statement at a path stands in the block that encloses the path, at its last place. The paths
grow at their end while a script is run, but they are looked up from their beginning; the induction
goes over the places before the last one. -/
theorem find?_concat (script : Script) (p : Path) (i : Nat) :
    script.find? (p ++ [i]) = (script.enclosing? (p ++ [i])).bind (·[i]?) := by
  induction p generalizing script with
  | nil => rfl
  | cons j p ih =>
    rw [List.cons_append, find?_cons _ _ (by simp), enclosing?_cons _ _ (by simp)]
    cases script[j]?.bind Statement.block? with
    | none => rfl
    | some body => exact ih body

/-- The block that encloses a path does not depend on the last place of the path. It need not even
be a place of this block. -/
theorem enclosing?_concat (script : Script) (p : Path) (i j : Nat) :
    script.enclosing? (p ++ [i]) = script.enclosing? (p ++ [j]) := by
  induction p generalizing script with
  | nil => rfl
  | cons k p ih =>
    rw [List.cons_append, List.cons_append, enclosing?_cons _ _ (by simp),
      enclosing?_cons _ _ (by simp)]
    cases script[k]?.bind Statement.block? with
    | none => rfl
    | some body => exact ih body

/-- A path that goes on behind a statement leads into the block of the statement. If the statement
has no block, there is none that encloses the path. -/
theorem enclosing?_concat_concat (script : Script) (p : Path) (i j : Nat) :
    script.enclosing? (p ++ [i] ++ [j]) = (script.find? (p ++ [i])).bind Statement.block? := by
  induction p generalizing script with
  | nil =>
    change script.enclosing? (i :: [j]) = _
    rw [enclosing?_cons _ _ (by simp)]
    change (script[i]?.bind Statement.block?).bind some = script[i]?.bind Statement.block?
    cases script[i]?.bind Statement.block? <;> rfl
  | cons k p ih =>
    rw [List.cons_append, List.cons_append, enclosing?_cons _ _ (by simp),
      find?_cons _ _ (by simp)]
    cases script[k]?.bind Statement.block? with
    | none => rfl
    | some body => exact ih body

/-- The statements of `statements` stand from place `i` of the block at `p` to its end. The
interpreter runs such a list, where the frame has a path. -/
def Stands (script : Script) (p : Path) (i : Nat) (statements : List Statement) : Prop :=
  ∃ body, script.enclosing? (p ++ [i]) = some body ∧ body.drop i = statements

variable {script : Script} {p : Path} {i : Nat} {statement : Statement} {rest : List Statement}

/-- The whole script stands from its first place on. -/
theorem stands_zero (script : Script) : script.Stands [] 0 script := ⟨script, rfl, rfl⟩

/-- The first of the statements is found at the place. It is the one that is executed next. -/
theorem Stands.find? (h : script.Stands p i (statement :: rest)) :
    script.find? (p ++ [i]) = some statement := by
  obtain ⟨body, henc, hdrop⟩ := h
  rw [find?_concat, henc]
  have hget : (body.drop i)[0]? = body[i]? := by
    rw [List.getElem?_drop, Nat.add_zero]
  rw [hdrop] at hget
  exact hget.symm

/-- The other ones stand from the next place on. -/
theorem Stands.next (h : script.Stands p i (statement :: rest)) : script.Stands p (i + 1) rest := by
  obtain ⟨body, henc, hdrop⟩ := h
  refine ⟨body, by rw [enclosing?_concat script p (i + 1) i, henc], ?_⟩
  rw [← List.drop_drop, hdrop]
  rfl

/-- The block of the first one stands, from its first place on, one level deeper. -/
theorem Stands.enter {body : List Statement} (h : script.Stands p i (statement :: rest))
    (hb : statement.block? = some body) : script.Stands (p ++ [i]) 0 body :=
  ⟨body, by rw [enclosing?_concat_concat, h.find?]; exact hb, rfl⟩

end Script

namespace Home

/-- The plan of leaving the block of the statement at `parents`. Without parents the script is over,
and a `while` is the only statement that does something then. -/
def leave (b : Home) (locals : Table String Value) (parents : Path) : Plan Landing :=
  if parents = [] then .done (locals, none)
  else
    match b.script.find? parents with
    | some (.whileLoop condition _) =>
      (condition.plan (b.scope locals)).bind fun v =>
        if v.truthy then .done (locals, some (parents ++ [0])) else b.onward locals parents
    | _ => b.onward locals parents

variable {b : Home} {p : Path} {i : Nat} {statement : Statement} {rest : List Statement}

/-- How long a block is, by what stands from a place of it on. -/
theorem length_drop_cons {body : List Statement}
    (hdrop : body.drop i = statement :: rest) : body.length = i + 1 + rest.length := by
  have hlen := congrArg List.length hdrop
  rw [List.length_drop, List.length_cons] at hlen
  omega

/-- **Going on within a block** asks nothing, and comes to the next statement. No condition is
looked at before the last statement of a block. -/
theorem onward_next {next : Statement} (h : b.script.Stands p i (statement :: next :: rest))
    (locals : Table String Value) :
    b.onward locals (p ++ [i]) = .done (locals, some (p ++ [i + 1])) := by
  obtain ⟨body, henc, hdrop⟩ := h
  have hlen := length_drop_cons hdrop
  unfold onward
  rw [List.reverse_append, List.reverse_singleton, List.singleton_append, successorPlan]
  simp only [List.reverse_cons, List.reverse_reverse, henc, Option.map_some, Option.getD_some]
  -- there is a place behind `i`, so nothing is asked
  rw [if_pos (by rw [hlen, List.length_cons]; omega)]
  rfl

/-- **Going on from the last place of a block** is leaving the block. It does not matter what the
last statement was. -/
theorem onward_last (h : b.script.Stands p i [statement]) (locals : Table String Value) :
    b.onward locals (p ++ [i]) = b.leave locals p := by
  obtain ⟨body, henc, hdrop⟩ := h
  have hlen := length_drop_cons hdrop
  unfold onward
  rw [List.reverse_append, List.reverse_singleton, List.singleton_append, successorPlan]
  simp only [List.reverse_cons, List.reverse_reverse, henc, Option.map_some, Option.getD_some]
  -- `i` is the last place, so the walk goes up to the statement the block belongs to
  rw [if_neg (by rw [hlen, List.length_nil]; omega)]
  unfold leave
  by_cases hp : p = []
  · rw [if_pos hp, hp]
    rfl
  · rw [if_neg hp, if_neg (by simpa using hp)]
    -- only a `while` does something when its block is left
    cases b.script.find? p with
    | none => rfl
    | some statement =>
      cases statement with
      | ifThen condition body => rfl
      | assign op target source => rfl
      | call c => rfl
      | whileLoop condition body =>
        simp only [Plan.bind_eq, Plan.bind_assoc]
        congr 1
        funext v
        cases v.truthy <;> rfl

/-- Leaving the block of an `if` is going on behind it. -/
theorem leave_if {condition : Expr} {body : List Statement}
    (h : b.script.Stands p i (.ifThen condition body :: rest)) (locals : Table String Value) :
    b.leave locals (p ++ [i]) = b.onward locals (p ++ [i]) := by
  unfold leave
  rw [if_neg (by simp), h.find?]

/-- **Leaving the block of a `while`** is executing the `while` again. The block must not be empty:
an empty one is never entered, so it is never left. -/
theorem leave_while {condition : Expr} {body : List Statement}
    (h : b.script.Stands p i (.whileLoop condition body :: rest)) (hbody : body ≠ [])
    (locals : Table String Value) : b.leave locals (p ++ [i]) = b.agenda locals (p ++ [i]) := by
  have hne : (!body.isEmpty) = true := by
    cases body with
    | nil => exact absurd rfl hbody
    | cons => rfl
  unfold leave agenda
  rw [if_neg (by simp), h.find?]
  -- both test the condition; the agenda also asks for a block to enter, and there is one
  simp only [Statement.plan, conditionPlan, Plan.bind_eq, Plan.bind_assoc, hne, Bool.and_true]
  congr 1
  funext v
  cases v.truthy <;> rfl

end Home

end VerbScript
