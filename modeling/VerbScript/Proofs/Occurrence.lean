import Mathlib.Tactic.Set
import VerbScript.Proofs.MachineSteps

/-!
# One execution of a statement

A statement is evaluated again from its beginning after every answer, with the answers in a bare
log, and the frames it calls run in between. This module watches one execution of a statement from
outside: `Occurrence.after` makes any moves with the machine, steps and answers in any order, and
notes the requests the frame of the statement issues.

* `Occurrence.Inv` — the invariant: the log leaves of the statement's plan something that is
  scheduled by the part of `Statement.asks` that has not been issued yet.
* `Occurrence.Inv.move` — every move keeps it. The log and the list of issued requests grow
  together, so the `i`-th answer is always handed to the `i`-th request.
* `issued_isPrefix_asks` — the requests issued are an initial part of the list of the syntax, each
  issued once, and all of it if the execution completes.
-/

namespace VerbScript

/-- What is done with a machine from outside. A run is a row of steps, and setting a variable is
left out, since it would change what the statement sees. -/
inductive Move where
  | step
  | resume (reply : Except Fault Reply)

/-- How the execution of a statement stands. Once it is completed or has failed, it stays so. -/
inductive Standing where
  | executing
  /-- The frame has gone on behind the statement or into its block. The log held these answers
  when it did. -/
  | completed (answers : List Value)
  /-- The execution was given up with a fault. -/
  | failed
deriving DecidableEq

/-- Whether a step of the frame that executes a statement has left the statement: the frame has gone
on, or it looks for the next statement already, which may ask something itself. -/
def Frame.leaves : Frame × Except Fault Step → Bool
  | (_, .ok .continued) => true
  | (f, _) => f.phase = .advance || f.finished

/-- An execution of a statement as seen from outside. It sees requests and whether a step goes on,
and it knows the frame by its level. -/
structure Occurrence where
  machine : Machine
  /-- The number of frames that wait for the frame of the statement. -/
  level : Nat
  standing : Standing := .executing
  /-- The requests the frame of the statement has issued, the first one first. -/
  issued : List Request := []

namespace Occurrence

/-- The execution of the current statement of a machine, before its first step. -/
def start (m : Machine) : Occurrence := { machine := m, level := m.callers.length }

/-- Watches a step of the frame of the statement. A request counts as issued when the frame was not
waiting for an answer already. -/
def stepOwn (o : Occurrence) : Occurrence :=
  let f := o.machine.current
  let o := { o with machine := o.machine.step.1 }
  if Frame.leaves f.step then { o with standing := .completed f.replies }
  else
    match f.step.2 with
    | .ok .continued => o
    | .ok (.suspended r) => if f.awaiting.isNone then { o with issued := o.issued ++ [r] } else o
    | .error _ => { o with standing := .failed }

/-- Watches a step of a frame that the statement has called: its fault is one of the statement, and
its requests are none of it. -/
def stepCalled (o : Occurrence) : Occurrence :=
  match o.machine.step with
  | (m, .ok _) => { o with machine := m }
  | (m, .error _) => { o with machine := m, standing := .failed }

/-- Makes a move with the machine. What happens after the execution is not watched. -/
def move (o : Occurrence) (x : Move) : Occurrence :=
  match o.standing, x with
  | .executing, .step => if o.machine.callers.length = o.level then o.stepOwn else o.stepCalled
  | .executing, .resume reply => { o with machine := (o.machine.resume reply).1 }
  | _, _ => o

/-- The execution of the current statement after some moves, of which those behind its end do not
count. -/
def after (m : Machine) (moves : List Move) : Occurrence := moves.foldl move (start m)

end Occurrence

/-- The frame is at the statement and free to work on it. Its log may hold answers already. -/
structure Frame.At (f : Frame) (statement : Statement) : Prop extends f.Ready where
  phase : f.phase = .execute
  found : f.script.find? f.path = some statement

namespace Occurrence

variable {statement : Statement} {s : Scope}

/-- **The log and the requests are in step.** The frame is free to work on the statement, its log
holds one answer for each request issued, and what the log leaves of the plan is scheduled by the
rest of the requests of the syntax. -/
structure Tracks (statement : Statement) (s : Scope) (issued : List Request) (f : Frame) : Prop
    extends f.At statement where
  scope : f.scope = s
  answered : f.replies.length = issued.length
  rest : ∃ p asks, (statement.plan s).Leaves f.replies p ∧ p.Scheduled s.owner asks ∧
    issued.map Request.ask ++ asks = statement.asks

/-- What is known of an execution of `statement` that sees `s`. The first four cases are told apart
by who has to make the next move, and the last two are its ends. -/
inductive Inv (statement : Statement) (s : Scope) (o : Occurrence) : Prop where
  /-- The frame of the statement executes. -/
  | ready (run : o.standing = .executing) (own : o.machine.callers.length = o.level)
      (tracks : Tracks statement s o.issued o.machine.current)
  /-- The frame of the statement waits for an answer, any of which it can go on with. -/
  | waiting (f : Frame) (r : Request) (run : o.standing = .executing)
      (own : o.machine.callers.length = o.level)
      (current : o.machine.current = { f with awaiting := some r })
      (tracks : ∀ v, Tracks statement s o.issued (f.logReply v))
  /-- A called frame executes, and the frame of the statement can go on with any result of it. -/
  | called (f : Frame) (upper lower : List Frame) (run : o.standing = .executing)
      (own : lower.length = o.level) (callers : o.machine.callers = upper ++ f :: lower)
      (tracks : ∀ v, Tracks statement s o.issued (f.logReply v))
  /-- A fault is about to be raised. -/
  | raised (fault : Fault) (run : o.standing = .executing)
      (own : o.machine.callers.length = o.level)
      (failure : o.machine.current.failure = some fault)
      (awaiting : o.machine.current.awaiting = none)
      (finished : o.machine.current.finished = false)
      (phase : o.machine.current.phase = .execute)
      (initial : o.issued.map Request.ask <+: statement.asks)
  | failed (ended : o.standing = .failed) (initial : o.issued.map Request.ask <+: statement.asks)
  | completed (answers : List Value) (ended : o.standing = .completed answers)
      (all : o.issued.map Request.ask = statement.asks)
      (answered : answers.length = o.issued.length)

/-- What has been issued in step is an initial part of the list of the syntax. -/
theorem Tracks.initial {issued : List Request} {f : Frame} (h : Tracks statement s issued f) :
    issued.map Request.ask <+: statement.asks := by
  obtain ⟨p, asks, -, -, heq⟩ := h.rest
  exact ⟨asks, heq⟩

/-- At its beginning, with an empty log, a statement is in step: its whole plan is left, and its
whole list. -/
theorem Tracks.start {f : Frame} (h : f.At statement) (hlog : f.replies = []) :
    Tracks statement f.scope [] f := by
  refine ⟨h, rfl, by rw [hlog]; rfl, statement.plan f.scope, statement.asks, ?_, ?_, rfl⟩
  · rw [hlog]
    exact Plan.Leaves.nil _
  · exact statement.plan_scheduled f.scope

/-! ### Steps of the frame of the statement -/

/-- Whatever the search for the next statement comes to, the statement is left. -/
theorem leaves_advance {f : Frame} (h : f.phase = .advance) : Frame.leaves f.advance = true := by
  rw [Frame.advance_eq]
  cases (successorPlan f.scope f.script f.path.reverse).replay f.replies with
  | suspended r => simp [Frame.conclude, Frame.suspend, Frame.leaves, h]
  | failed fault => simp [Frame.conclude, Frame.abort, Frame.reset, Frame.leaves, h]
  -- there is a next statement, or the script is over
  | done next => cases next <;> simp [Frame.conclude, Frame.arrive, Frame.reset, Frame.leaves]

/-- A frame whose statement has come to its effect leaves it, into the block or behind the
statement. -/
theorem leaves_of_done {f : Frame} {effect : Effect} (h : f.At statement)
    (hd : (statement.plan f.scope).replay f.replies = .done effect) :
    Frame.leaves f.step = true := by
  rw [Frame.step_execute h.toReady h.phase h.found, hd]
  cases effect with
  | descend => rfl
  | next => exact leaves_advance rfl
  | write name value => exact leaves_advance rfl

/-- **The answer to the next request.** A frame in step that asks `r` is in step again after any
answer to it. -/
theorem Tracks.answer {issued : List Request} {f : Frame} {r : Request} {k : Value → Plan Effect}
    {asks : List Ask} (h : Tracks statement s issued f)
    (hleft : (statement.plan s).Leaves f.replies (.ask r k))
    (hsched : (Plan.ask r k).Scheduled s.owner asks)
    (heq : issued.map Request.ask ++ asks = statement.asks) (v : Value) :
    Tracks statement s (issued ++ [r]) (f.logReply v) := by
  obtain ⟨rest, rfl, -, hk⟩ := hsched
  have hat : (f.logReply v).At statement := ⟨h.toReady.logReply v, h.phase, h.found⟩
  refine ⟨hat, h.scope, ?_, k v, rest, hleft.answer v, hk v, ?_⟩
  · simp only [Frame.logReply, List.length_append, List.length_cons, List.length_nil, h.answered]
  · -- the request moves from the list of those to come to that of those issued
    rw [List.map_append, List.append_assoc]
    exact heq

/-- **A step of the frame of the statement** completes it with all its requests issued, issues the
next one, or fails. Which of the three it is, is what the log leaves of the plan. -/
theorem Inv.stepOwn {o : Occurrence} (run : o.standing = .executing)
    (own : o.machine.callers.length = o.level)
    (tracks : Tracks statement s o.issued o.machine.current) : Inv statement s o.stepOwn := by
  set f := o.machine.current with hf
  -- `p` is what the log leaves of the plan: the step does what comes first in it
  obtain ⟨p, asks, hleft, hsched, heq⟩ := tracks.rest
  have hreplay := hleft.replay
  rw [← tracks.scope] at hreplay
  have hstep := Frame.step_execute tracks.toReady tracks.phase tracks.found
  unfold Occurrence.stepOwn
  cases p with
  | done effect =>
    -- nothing is left, so nothing is left of the list either
    obtain rfl : asks = [] := hsched
    rw [List.append_nil] at heq
    rw [if_pos (leaves_of_done tracks.toAt hreplay)]
    exact .completed f.replies rfl heq tracks.answered
  | fail fault =>
    -- a fault of the plan is not the end of the script, so the frame does not count as finished
    have hend : fault.isEnd = false := Fault.isEnd_eq_false hsched
    rw [hreplay] at hstep
    have hleaves : Frame.leaves f.step = false := by
      rw [hstep]
      simp [Plan.replay, Frame.conclude, Frame.abort, Frame.reset, Frame.leaves, tracks.phase,
        tracks.finished, hend]
    rw [if_neg (by rw [← hf, hleaves]; exact Bool.false_ne_true), ← hf, hstep]
    exact .failed rfl tracks.initial
  | ask r k =>
    rw [hreplay] at hstep
    have hstep' : f.step = ({ f with awaiting := some r }, .ok (.suspended r)) := hstep
    have hleaves : Frame.leaves f.step = false := by
      rw [hstep']
      simp [Frame.leaves, tracks.phase, tracks.finished]
    rw [if_neg (by rw [← hf, hleaves]; exact Bool.false_ne_true), ← hf, hstep']
    have hnone : f.awaiting.isNone = true := by rw [tracks.awaiting]; rfl
    simp only [hnone, if_true]
    have hm : o.machine.step = ({ o.machine with current := { f with awaiting := some r } },
        .ok (.suspended r)) := Machine.step_of_ok hstep'
    refine .waiting f r run ?_ ?_ (tracks.answer hleft hsched heq)
    · rw [hm]
      exact own
    · rw [hm]

/-- A step that repeats an open request issues nothing, and changes nothing. The request was counted
when it was made. -/
theorem stepOwn_waiting {o : Occurrence} {f : Frame} {r : Request}
    (current : o.machine.current = { f with awaiting := some r }) (ready : f.Ready)
    (phase : f.phase = .execute) : o.stepOwn = o := by
  have hstep : o.machine.current.step = (o.machine.current, .ok (.suspended r)) :=
    Frame.step_waiting (by rw [current]; exact ready.failure) (by rw [current])
  have hleaves : Frame.leaves o.machine.current.step = false := by
    rw [hstep, current]
    simp [Frame.leaves, phase, ready.finished]
  have hsome : o.machine.current.awaiting.isNone = false := by rw [current]; rfl
  unfold Occurrence.stepOwn
  rw [if_neg (by rw [hleaves]; exact Bool.false_ne_true), hstep]
  simp only [hsome, Machine.step_of_ok hstep, Bool.false_eq_true, if_false]

/-- The fault of an answer ends the execution at the next step. No further request is issued, so
what has been issued stays an initial part of what the statement asks. -/
theorem Inv.stepOwn_raised {o : Occurrence} {fault : Fault}
    (failure : o.machine.current.failure = some fault)
    (finished : o.machine.current.finished = false) (phase : o.machine.current.phase = .execute)
    (initial : o.issued.map Request.ask <+: statement.asks) : Inv statement s o.stepOwn := by
  have hstep := Frame.step_raised failure
  have hleaves : Frame.leaves o.machine.current.step = false := by
    rw [hstep]
    simp [Frame.reset, Frame.leaves, phase, finished]
  unfold Occurrence.stepOwn
  rw [if_neg (by rw [hleaves]; exact Bool.false_ne_true), hstep]
  exact .failed rfl initial

/-! ### Steps of the frames it calls -/

/-- **A step of a called frame** leaves the frame of the statement alone, hands it a result, or
fails. A result is an answer like any other, to the request that is open. -/
theorem Inv.stepCalled {o : Occurrence} {f : Frame} {upper lower : List Frame}
    (run : o.standing = .executing) (own : lower.length = o.level)
    (callers : o.machine.callers = upper ++ f :: lower)
    (tracks : ∀ v, Tracks statement s o.issued (f.logReply v)) : Inv statement s o.stepCalled := by
  unfold Occurrence.stepCalled
  rcases hstep : o.machine.current.step with ⟨g, result⟩
  cases result with
  | ok progress =>
    rw [Machine.step_of_ok hstep]
    exact .called f upper lower run own callers tracks
  | error fault =>
    -- an end hands its result to the next frame below, a fault unwinds all of them
    by_cases hend : fault = .endOfScript
    · subst hend
      cases upper with
      | nil =>
        -- the frame that ends was called by the statement itself
        rw [Machine.step_of_return hstep callers]
        exact .ready run own (tracks g.returnValue)
      | cons u upper =>
        rw [Machine.step_of_return hstep callers]
        exact .called f upper lower run own rfl tracks
    · rw [Machine.step_of_fault hstep hend]
      exact .failed rfl (tracks .null).initial

/-! ### Answers -/

/-- **An answer to the statement** is logged, becomes a fault, or brings a machine on top of it. In
each case the request that was open is the last one issued. -/
theorem Inv.resume_waiting {o : Occurrence} {f : Frame} {r : Request}
    (run : o.standing = .executing) (own : o.machine.callers.length = o.level)
    (current : o.machine.current = { f with awaiting := some r })
    (tracks : ∀ v, Tracks statement s o.issued (f.logReply v)) (reply : Except Fault Reply) :
    Inv statement s { o with machine := (o.machine.resume reply).1 } := by
  have hf := tracks .null
  have hopen : o.machine.current.awaiting = some r := by rw [current]
  have hclosed : { o.machine.current with awaiting := none } = f := by
    rw [current]
    exact congrArg (fun a => { f with awaiting := a }) hf.awaiting.symm
  have hraise : ∀ fault, Inv statement s
      { o with machine := { o.machine with current := f.raise fault } } := fun fault =>
    .raised fault run own rfl hf.awaiting hf.finished hf.phase hf.initial
  -- the frame is the one that has asked, with its request closed
  cases reply with
  | error fault =>
    rw [Machine.resume_error hopen, hclosed]
    exact hraise fault
  | ok reply =>
    rw [Machine.resume_ok hopen, hclosed]
    rcases Machine.deliver_cases { o.machine with current := f } r reply with
      ⟨v, heq⟩ | ⟨fault, -, heq⟩ | ⟨callee, -, -, heq⟩
    · rw [heq]
      exact .ready run own (tracks v)
    · rw [heq]
      exact hraise fault
    · -- all frames of the machine that is brought stand above the frame of the statement
      rw [heq]
      exact .called f _ o.machine.callers run own rfl tracks

/-- **An answer to a called frame** leaves the frame of the statement where it is, however many
frames come to stand above it. -/
theorem Inv.resume_called {o : Occurrence} {f : Frame} {upper lower : List Frame}
    (run : o.standing = .executing) (own : lower.length = o.level)
    (callers : o.machine.callers = upper ++ f :: lower)
    (tracks : ∀ v, Tracks statement s o.issued (f.logReply v)) (reply : Except Fault Reply) :
    Inv statement s { o with machine := (o.machine.resume reply).1 } := by
  cases hopen : o.machine.current.awaiting with
  | none =>
    rw [Machine.resume_refused reply hopen]
    -- no request of the called frame is open, so the answer is refused
    exact .called f upper lower run own callers tracks
  | some r =>
    cases reply with
    | error fault =>
      rw [Machine.resume_error hopen]
      exact .called f upper lower run own callers tracks
    | ok reply =>
      rw [Machine.resume_ok hopen]
      set g : Frame := { o.machine.current with awaiting := none } with hg
      rcases Machine.deliver_cases { o.machine with current := g } r reply with
        ⟨v, heq⟩ | ⟨fault, -, heq⟩ | ⟨callee, -, -, heq⟩
      · rw [heq]
        exact .called f upper lower run own callers tracks
      · rw [heq]
        exact .called f upper lower run own callers tracks
      · -- the called frame has called another one
        rw [heq]
        refine .called f ((callee.mapRoot (·.calledFrom g)).callers ++ g :: upper) lower run own ?_
          tracks
        rw [List.append_assoc, List.cons_append, ← callers]
        rfl

/-! ### Every move -/

section Moves

variable {o : Occurrence}

/-- While the execution goes on, a step is watched at the frame of the statement if this is the
executing one. -/
theorem move_step_own (run : o.standing = .executing) (own : o.machine.callers.length = o.level) :
    o.move .step = o.stepOwn := by
  unfold Occurrence.move
  rw [run]
  exact if_pos own

/-- Otherwise it is watched at the frame that the statement has called. -/
theorem move_step_called (run : o.standing = .executing)
    (called : o.machine.callers.length ≠ o.level) : o.move .step = o.stepCalled := by
  unfold Occurrence.move
  rw [run]
  exact if_neg called

/-- An answer goes to the machine. -/
theorem move_resume (run : o.standing = .executing) (reply : Except Fault Reply) :
    o.move (.resume reply) = { o with machine := (o.machine.resume reply).1 } := by
  obtain ⟨m, level, standing, issued⟩ := o
  subst run
  rfl

/-- What happens after the execution is not watched. -/
theorem move_ended (ended : o.standing ≠ .executing) (x : Move) : o.move x = o := by
  unfold Occurrence.move
  split
  next heq => exact absurd heq ended
  next heq => exact absurd heq ended
  next => rfl

end Moves

/-- **Every move keeps the invariant.** The cases are those of the invariant, and in each of them
the two kinds of moves. -/
theorem Inv.move {o : Occurrence} (h : Inv statement s o) (x : Move) :
    Inv statement s (o.move x) := by
  cases h with
  | ready run own tracks =>
    cases x with
    | step =>
      rw [move_step_own run own]
      exact Inv.stepOwn run own tracks
    | resume reply =>
      -- no request is open, so the answer is refused
      rw [move_resume run, Machine.resume_refused reply tracks.awaiting]
      exact .ready run own tracks
  | waiting f r run own current tracks =>
    cases x with
    | step =>
      -- the request is still open, so the step repeats it and issues nothing
      have hf := tracks .null
      have hready : f.Ready := ⟨hf.awaiting, hf.failure, hf.finished⟩
      rw [move_step_own run own, stepOwn_waiting current hready hf.phase]
      exact .waiting f r run own current tracks
    | resume reply =>
      rw [move_resume run]
      exact Inv.resume_waiting run own current tracks reply
  | called f upper lower run own callers tracks =>
    cases x with
    | step =>
      -- more frames wait than did when the statement began
      have hne : o.machine.callers.length ≠ o.level := by
        rw [callers, List.length_append, List.length_cons]
        omega
      rw [move_step_called run hne]
      exact Inv.stepCalled run own callers tracks
    | resume reply =>
      rw [move_resume run]
      exact Inv.resume_called run own callers tracks reply
  | raised fault run own failure awaiting finished phase initial =>
    cases x with
    | step =>
      rw [move_step_own run own]
      exact Inv.stepOwn_raised failure finished phase initial
    | resume reply =>
      rw [move_resume run, Machine.resume_refused reply awaiting]
      exact .raised fault run own failure awaiting finished phase initial
  | failed ended initial =>
    rw [move_ended (by rw [ended]; exact nofun)]
    exact .failed ended initial
  | completed answers ended all answered =>
    rw [move_ended (by rw [ended]; exact nofun)]
    exact .completed answers ended all answered

/-- So any moves keep it, by induction on the moves. -/
theorem Inv.moves {o : Occurrence} (h : Inv statement s o) (moves : List Move) :
    Inv statement s (moves.foldl Occurrence.move o) := by
  induction moves generalizing o with
  | nil => exact h
  | cons x moves ih => exact ih (h.move x)

/-- In every case of the invariant, what has been issued is an initial part of the list of the
syntax. -/
theorem Inv.initial {o : Occurrence} (h : Inv statement s o) :
    o.issued.map Request.ask <+: statement.asks := by
  cases h with
  | ready run own tracks => exact tracks.initial
  | waiting f r run own current tracks => exact (tracks .null).initial
  | called f upper lower run own callers tracks => exact (tracks .null).initial
  | raised fault run own failure awaiting finished phase initial => exact initial
  | failed ended initial => exact initial
  | completed answers ended all answered => exact ⟨[], by rw [List.append_nil, all]⟩

end Occurrence

/-- **Replay issues each request once, in the order of the syntax.** Let a frame be at the beginning
of a statement, below any callers, and make any moves with the machine: steps, answers of every
kind, and frames that the statement calls. The requests the frame issues before it has left the
statement are an initial part of `Statement.asks`. If it leaves the statement, it has issued all of
them, and its log held exactly one answer for each. -/
theorem issued_isPrefix_asks (m : Machine) (statement : Statement)
    (hat : m.current.At statement) (hlog : m.current.replies = []) (moves : List Move) :
    (Occurrence.after m moves).issued.map Request.ask <+: statement.asks ∧
    ∀ answers, (Occurrence.after m moves).standing = .completed answers →
      (Occurrence.after m moves).issued.map Request.ask = statement.asks ∧
        answers.length = statement.asks.length := by
  have hstart : Occurrence.Inv statement m.current.scope (Occurrence.start m) :=
    .ready rfl rfl (.start hat hlog)
  -- the invariant holds at the beginning, so it holds after the moves
  have hinv := hstart.moves moves
  refine ⟨hinv.initial, fun answers hended => ?_⟩
  change Occurrence.Inv statement m.current.scope (Occurrence.after m moves) at hinv
  -- all other cases of the invariant are about executions that are not completed
  cases hinv with
  | completed answers' ended all answered =>
    rw [hended] at ended
    cases ended
    exact ⟨all, by rw [answered, ← all, List.length_map]⟩
  | ready run => rw [hended] at run; cases run
  | waiting f r run => rw [hended] at run; cases run
  | called f upper lower run => rw [hended] at run; cases run
  | raised fault run => rw [hended] at run; cases run
  | failed ended => rw [hended] at ended; cases ended

/-- The statement `%log += ##room`, which asks for an alias, the old value and the write. -/
def appendRoom : Statement := .assign .add ⟨.prop, "log", none⟩ [.named "room"]

/-- The three requests of `appendRoom` under moves that answer each of them and step once too often
in between. -/
theorem appendRoom_issued :
    let m := Machine.start { owner := ⟨1⟩, script := [appendRoom] }
    let moves := [.step, .step, .resume (.ok (.value (.str "b"))), .step,
      .resume (.ok (.value (.str "a"))), .step, .resume (.ok .done), .step]
    (Occurrence.after m moves).standing = .completed [.str "b", .str "a", .null] ∧
    (Occurrence.after m moves).issued.map Request.ask
      = [.resolveAlias "room", .getProp "log", .setProp "log"] := by
  intro m moves
  have hdone : (Occurrence.after m moves).standing = .completed [.str "b", .str "a", .null] := by
    decide +kernel
  exact ⟨hdone,
    ((issued_isPrefix_asks m appendRoom ⟨⟨rfl, rfl, rfl⟩, rfl, rfl⟩ rfl moves).2 _ hdone).1⟩

end VerbScript
