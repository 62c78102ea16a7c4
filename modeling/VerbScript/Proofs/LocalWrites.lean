import VerbScript.Proofs.Occurrence
import VerbScript.Proofs.StepAccount

/-!
# Variables are written once

An assignment to a variable writes it in the step in which its evaluation is through. In the same
step the frame looks for its next statement, and that can take more answers, or fail: the condition
of a loop may have to be tested again. The statement is over nevertheless. The frame goes on looking
in its next steps, and does not execute the statement a second time.

* `Frame.Assigns f name value` — the next step of `f` writes `value` to the variable `name`.
* `Frame.Steps`, `Frame.Seeks` — all that a step of a frame comes to, with what becomes of its
  variables and its phase. `Frame.step_steps` is the inversion lemma.
* `Frame.step_locals`, `Frame.Assigns.completes`, `Frame.step_restarts` — the variables, the way on,
  and what a fault leaves.
* `Watch` — a machine whose frame at some level is watched while any operations are performed, until
  it has found its next statement or is given up. `Watch.Inv.perform` is the invariant.
* `Machine.Reached.writes_once` — the theorem.
-/

namespace VerbScript

variable {s : Scope} {name : String} {value : Value}

/-! ### The value of an assignment -/

/-- A plan whose result is changed at the end is through with the same answers. What follows asks
nothing, so it takes none of them. -/
theorem Plan.replay_bind_done_iff {α β : Type} {p : Plan α} {f : α → β} {log : List Value} {b : β} :
    (p.bind fun a => .done (f a)).replay log = .done b ↔
      ∃ a, p.replay log = .done a ∧ f a = b := by
  induction p generalizing log with
  | done a =>
    constructor
    · intro h
      exact ⟨a, rfl, Outcome.done.inj h⟩
    · rintro ⟨a', ha, rfl⟩
      obtain rfl : a = a' := Outcome.done.inj ha
      rfl
  | fail fault =>
    constructor
    · nofun
    · rintro ⟨a, ha, -⟩
      cases ha
  | ask r k ih =>
    cases log with
    | nil =>
      constructor
      · nofun
      · rintro ⟨a, ha, -⟩
        cases ha
    | cons v log => exact ih v

/-- The plan of the value that an assignment leaves in its target: the source, then the index, then
the value that is there already, where the assignment needs it. -/
def resultPlan (s : Scope) (op : AssignOp) (target : Reference Node) (source : Expr) : Plan Value :=
  (source.plan s).bind fun value =>
    (indexPlan s target.index).bind fun index => assignedPlan s op target index value

/-- An assignment finds this value and then writes it. -/
theorem assignPlan_eq_resultPlan (op : AssignOp) (target : Reference Node) (source : Expr) :
    assignPlan s op target source = (resultPlan s op target source).bind (writePlan s target) := by
  rw [assignPlan_eq]
  unfold resultPlan
  rw [Plan.bind_assoc]

/-- **What writes a variable** is an assignment to it, and the value is the one it comes to. No
other statement has this effect. -/
theorem Statement.of_write {statement : Statement} {log : List Value}
    (h : (statement.plan s).replay log = .done (.write name value)) :
    ∃ op index source, statement = .assign op ⟨.var, name, index⟩ source ∧
      (resultPlan s op ⟨.var, name, index⟩ source).replay log = .done value := by
  cases statement with
  | ifThen condition block =>
    -- a condition enters its block or goes on, and writes nothing
    obtain ⟨v, -, heffect⟩ := Plan.replay_bind_done_iff.1 h
    split at heffect <;> cases heffect
  | whileLoop condition block =>
    obtain ⟨v, -, heffect⟩ := Plan.replay_bind_done_iff.1 h
    split at heffect <;> cases heffect
  | call c =>
    -- the result of a call is not kept
    obtain ⟨v, -, heffect⟩ := Plan.replay_bind_done_iff.1 h
    cases heffect
  | assign op target source =>
    obtain ⟨sigil, target, index⟩ := target
    change (assignPlan s op ⟨sigil, target, index⟩ source).replay log = _ at h
    rw [assignPlan_eq_resultPlan] at h
    cases sigil with
    | var =>
      obtain ⟨v, hv, heffect⟩ := Plan.replay_bind_done_iff.1 h
      cases heffect
      exact ⟨op, index, source, rfl, hv⟩
    | prop =>
      -- a property is written by a request, which has no effect on the variables
      unfold writePlan at h
      dsimp only at h
      rw [← Plan.bind_assoc] at h
      obtain ⟨v, -, heffect⟩ := Plan.replay_bind_done_iff.1 h
      cases heffect

namespace Frame

variable {f g : Frame}

/-- **The next step of the frame assigns a value to a variable**: the frame is free to execute an
assignment to the variable, and with the answers in its log this comes to the value. -/
def Assigns (f : Frame) (name : String) (value : Value) : Prop :=
  ∃ op index source, f.At (.assign op ⟨.var, name, index⟩ source) ∧
    (resultPlan f.scope op ⟨.var, name, index⟩ source).replay f.replies = .done value

/-- Seen from the plan: a frame assigns if its statement is through with a write as its effect. What
an assignment comes to is the value that it writes, and nothing but an assignment writes. -/
theorem assigns_iff : f.Assigns name value ↔ ∃ statement, f.At statement ∧
    (statement.plan f.scope).replay f.replies = .done (.write name value) := by
  constructor
  · rintro ⟨op, index, source, hat, hresult⟩
    refine ⟨_, hat, ?_⟩
    change (assignPlan f.scope op ⟨.var, name, index⟩ source).replay f.replies = _
    rw [assignPlan_eq_resultPlan]
    exact Plan.replay_bind_done_iff.2 ⟨value, hresult, rfl⟩
  · rintro ⟨statement, hat, hwrite⟩
    obtain ⟨op, index, source, rfl, hresult⟩ := Statement.of_write hwrite
    exact ⟨op, index, source, hat, hresult⟩

/-! ### What a step of a frame comes to -/

/-- A frame that gives up is free to start again, unless it is at the end of its script. -/
theorem ready_abort (hfailure : f.failure = none) (hfinished : f.finished = false) {fault : Fault}
    (hend : fault ≠ .endOfScript) : (f.abort fault).1.Ready := by
  refine ⟨rfl, hfailure, ?_⟩
  change (f.finished || fault.isEnd) = false
  rw [hfinished, Fault.isEnd_eq_false hend]
  rfl

/-- **What the search for the next statement comes to**, by the frame that is searching. It fails
with ordinary faults only, so none of its faults is taken for the end of the script. -/
inductive Seeks (h : Frame) : Frame × Except Fault Step → Prop where
  | suspended (r : Request) : Seeks h (h.suspend r)
  | failed (fault : Fault) (ordinary : fault.Ordinary) : Seeks h (h.abort fault)
  | moved (path : Path)
      (search : (successorPlan h.scope h.script h.path.reverse).replay h.replies
        = .done (some path)) :
      Seeks h ({ h with phase := .execute, path }.reset, .ok .continued)
  | ended
      (search : (successorPlan h.scope h.script h.path.reverse).replay h.replies = .done none) :
      Seeks h ({ h with phase := .execute, finished := true }.reset, .error .endOfScript)

/-- The search of a frame comes to one of these. It is replayed with the answers that were given so
far, and it stops where the next one is needed. -/
theorem advance_seeks (h : Frame) : h.Seeks h.advance := by
  rw [advance_eq]
  cases hr : (successorPlan h.scope h.script h.path.reverse).replay h.replies with
  | suspended r => exact .suspended r
  | failed fault => exact .failed fault ((successorPlan_regular _ _ _).ordinary hr)
  | done next =>
    cases next with
    | some path => exact .moved path hr
    | none => exact .ended hr

/-- The frame as it looks for its next statement in this step. It has looked already, or its
statement is through and the search begins in the same step. -/
inductive Departs (f : Frame) : Frame → Prop where
  /-- It has been looking already. -/
  | again (ready : f.Ready) (phase : f.phase = .advance) : Departs f f
  /-- Its statement is through and has written no variable. -/
  | done {statement : Statement} (here : f.At statement)
      (effect : (statement.plan f.scope).replay f.replies = .done .next) :
      Departs f { f with phase := .advance }.reset
  /-- Its statement is through and has written a variable. -/
  | wrote {statement : Statement} {name : String} {value : Value} (here : f.At statement)
      (effect : (statement.plan f.scope).replay f.replies = .done (.write name value)) :
      Departs f ({ f with phase := .advance }.setLocal name value).reset

/-- **All that a step of a frame comes to.** A frame that departs has executed its statement in this
step or an earlier one, and the step is then the one of its search. -/
inductive Steps (f : Frame) : Frame × Except Fault Step → Prop where
  | raised (fault : Fault) (failure : f.failure = some fault) :
      Steps f ({ f with failure := none }.reset, .error fault)
  | waiting (r : Request) (awaiting : f.awaiting = some r) : Steps f (f, .ok (.suspended r))
  | finished (ended : f.finished = true) : Steps f (f, .error .endOfScript)
  /-- There is no statement. -/
  | missing (ready : f.Ready) (found : f.script.find? f.path = none) :
      Steps f (f.abort .endOfScript)
  | suspended {statement : Statement} (r : Request) (here : f.At statement)
      (effect : (statement.plan f.scope).replay f.replies = .suspended r) : Steps f (f.suspend r)
  | failed {statement : Statement} (fault : Fault) (here : f.At statement)
      (effect : (statement.plan f.scope).replay f.replies = .failed fault) :
      Steps f (f.abort fault)
  /-- The block of the statement is entered. -/
  | entered {statement : Statement} (here : f.At statement)
      (effect : (statement.plan f.scope).replay f.replies = .done .descend) :
      Steps f ({ f with path := f.path ++ [0] }.reset, .ok .continued)
  | departed {h : Frame} (departs : f.Departs h) : Steps f h.advance

/-- **The inversion lemma for the steps of a frame.** Whatever is said of steps below is said by
these cases, and the definition of a step is not opened again. -/
theorem step_steps (f : Frame) : f.Steps f.step := by
  -- the cases are in the order in which the frame looks at its fields
  cases hfailure : f.failure with
  | some fault =>
    rw [step_raised hfailure]
    exact .raised fault hfailure
  | none =>
    cases hawaiting : f.awaiting with
    | some r =>
      rw [step_waiting hfailure hawaiting]
      exact .waiting r hawaiting
    | none =>
      cases hfinished : f.finished with
      | true =>
        rw [step_finished hfailure hawaiting hfinished]
        exact .finished hfinished
      | false =>
        have hready : f.Ready := ⟨hawaiting, hfailure, hfinished⟩
        cases hphase : f.phase with
        | advance =>
          rw [step_advance hready hphase]
          exact .departed (.again hready hphase)
        | execute =>
          cases hfind : f.script.find? f.path with
          | none =>
            rw [step_execute_none hready hphase hfind]
            exact .missing hready hfind
          | some statement =>
            have hat : f.At statement := ⟨hready, hphase, hfind⟩
            rw [step_execute hready hphase hfind]
            cases hr : (statement.plan f.scope).replay f.replies with
            | suspended r => exact .suspended r hat hr
            | failed fault => exact .failed fault hat hr
            | done effect =>
              cases effect with
              | descend => exact .entered hat hr
              | next => exact .departed (.done hat hr)
              | write name value => exact .departed (.wrote hat hr)

/-! ### The variables -/

/-- The search writes no variables. -/
theorem advance_locals (h : Frame) : h.advance.1.locals = h.locals := by
  have hseeks := h.advance_seeks
  generalize h.advance = x at hseeks
  cases hseeks <;> rfl

/-- **The variables after a step**: the one that is assigned has its value, and all others have the
value they had. -/
theorem step_locals (f : Frame) :
    (∃ name value, f.Assigns name value ∧ f.step.1.locals = f.locals.insert name value) ∨
      f.step.1.locals = f.locals := by
  have hsteps := f.step_steps
  generalize f.step = x at hsteps
  cases hsteps with
  -- only a frame that departs can have written, and the search behind it writes nothing more
  | departed departs =>
    rw [advance_locals]
    cases departs with
    | again ready phase => exact .inr rfl
    | done here effect => exact .inr rfl
    | wrote here effect => exact .inl ⟨_, _, assigns_iff.2 ⟨_, here, effect⟩, rfl⟩
  | _ => exact .inr rfl

/-- A frame that assigns is on its way to the next statement, with the variable written and an empty
log. -/
theorem Assigns.step_eq (h : f.Assigns name value) :
    f.step = ({ f with phase := .advance }.setLocal name value).reset.advance := by
  obtain ⟨statement, hat, hwrite⟩ := assigns_iff.1 h
  rw [step_execute hat.toReady hat.phase hat.found, hwrite]
  rfl

/-- After the step the variable has the value, whatever the search comes to. -/
theorem Assigns.locals (h : f.Assigns name value) :
    f.step.1.locals = f.locals.insert name value := by
  rw [h.step_eq, advance_locals]
  rfl

/-! ### The way on -/

/-- **The way on is found**: the frame has moved to the statement to which the rules lead from the
path, or it is at its end. In a loop of one statement this can be the statement at the path
again. -/
inductive Completes (script : Script) (path : Path) : Frame × Except Fault Step → Prop where
  | moved {g : Frame} {log : List Value} (phase : g.phase = .execute)
      (leads : script.Leads g.scope log path (some g.path)) :
      Completes script path (g, .ok .continued)
  | ended {g : Frame} {log : List Value} (finished : g.finished = true)
      (leads : script.Leads g.scope log path none) :
      Completes script path (g, .error .endOfScript)

/-- The frame `g` stands where `f` stands, but it is looking for its next statement. The statement
at its path is one that it has executed. -/
structure Pends (f g : Frame) : Prop where
  script : g.script = f.script
  path : g.path = f.path
  phase : g.phase = .advance

/-- The frame is still where it was, in the same phase. Its log and its variables may have
changed. -/
structure Stays (f g : Frame) : Prop where
  script : g.script = f.script
  path : g.path = f.path
  phase : g.phase = f.phase

/-- A frame is where it is. -/
theorem Stays.refl (f : Frame) : f.Stays f := ⟨rfl, rfl, rfl⟩

/-- A frame that stays twice has stayed. -/
theorem Stays.trans {g' : Frame} (h : f.Stays g) (h' : g.Stays g') : f.Stays g' :=
  ⟨h'.script.trans h.script, h'.path.trans h.path, h'.phase.trans h.phase⟩

/-- A frame that waits while another one steps stays where it is. -/
theorem Waits.stays (h : f.Waits g) : f.Stays g := by
  cases h <;> exact ⟨rfl, rfl, rfl⟩

/-- It also keeps its variables. -/
theorem Waits.locals (h : f.Waits g) : g.locals = f.locals := by
  cases h <;> rfl

/-- A frame that is looking for its next statement goes on looking as long as it stays. -/
theorem Pends.stays {g' : Frame} (h : f.Pends g) (hstays : g.Stays g') : f.Pends g' :=
  ⟨hstays.script.trans h.script, hstays.path.trans h.path, hstays.phase.trans h.phase⟩

/-- **After an assignment** the way on is found, or the frame is looking for it at the same path. It
looks for more than one step only if the condition of a loop asks something. -/
theorem Assigns.completes (h : f.Assigns name value) :
    Completes f.script f.path f.step ∨ f.Pends f.step.1 ∧ f.step.1.finished = false := by
  obtain ⟨statement, hat, -⟩ := assigns_iff.1 h
  -- the frame stands on the assignment, so the rules for leaving it apply
  have hfound : (f.script.find? f.path).isSome := by
    rw [hat.found]
    rfl
  rw [h.step_eq]
  set x : Frame := ({ f with phase := .advance }.setLocal name value).reset
  have hseeks := x.advance_seeks
  generalize x.advance = y at hseeks
  cases hseeks with
  -- a loop has to be tested, and its condition asks something
  | suspended r => exact .inr ⟨⟨rfl, rfl, rfl⟩, hat.finished⟩
  | failed fault ordinary =>
    -- the search can be made again: only the end of the script ends a frame
    have hready : (x.abort fault).1.Ready :=
      ready_abort (f := x) hat.failure hat.finished ordinary.ne_end
    exact .inr ⟨⟨rfl, rfl, rfl⟩, hready.finished⟩
  | moved path search => exact .inl (.moved rfl (leads_of_found (f := x) hfound search))
  | ended search => exact .inl (.ended rfl (leads_of_found (f := x) hfound search))

/-- A frame executes its statement in the step in which the plan of this is through. -/
theorem At.executes?_eq {statement : Statement} (h : f.At statement) :
    f.executes? = match (statement.plan f.scope).replay f.replies with
      | .done _ => some (f.path, statement)
      | _ => none :=
  executes?_found h.toReady h.phase h.found

/-- A frame that is looking for its next statement is doing so after a step that has not found it.
It has executed nothing. -/
theorem step_pends (hphase : f.phase = .advance) (hcontinued : f.step.2 ≠ .ok .continued)
    (hfinished : f.step.1.finished = false) : f.Pends f.step.1 := by
  -- a frame in this phase is not about to execute anything
  have hexecute : ∀ {statement}, ¬f.At statement := fun hat =>
    absurd (hat.phase.symm.trans hphase) nofun
  have hsteps := f.step_steps
  generalize f.step = x at hsteps hcontinued hfinished
  cases hsteps with
  | raised fault failure => exact ⟨rfl, rfl, hphase⟩
  | waiting r awaiting => exact ⟨rfl, rfl, hphase⟩
  | finished ended => exact ⟨rfl, rfl, hphase⟩
  | missing ready found => exact ⟨rfl, rfl, hphase⟩
  | suspended r here effect => exact absurd here hexecute
  | failed fault here effect => exact absurd here hexecute
  | entered here effect => exact absurd here hexecute
  | departed departs =>
    cases departs with
    | done here effect => exact absurd here hexecute
    | wrote here effect => exact absurd here hexecute
    | again ready phase =>
      have hseeks := f.advance_seeks
      generalize f.advance = y at hseeks hcontinued hfinished
      cases hseeks with
      | suspended r => exact ⟨rfl, rfl, hphase⟩
      | failed fault ordinary => exact ⟨rfl, rfl, hphase⟩
      -- the search has found a statement, or the end
      | moved path search => exact absurd rfl hcontinued
      | ended search => cases hfinished

/-! ### What a fault leaves -/

/-- What a fault leaves of `f`: it stands where it stood and can start again. If it has executed its
statement to the end in this very step, it starts with looking for the next one, and otherwise it
starts again with what it was about, with the variables it had. Its log is empty, so what it asks it
asks anew. -/
structure Restarts (f g : Frame) : Prop extends Ready g where
  path : g.path = f.path
  replies : g.replies = []
  executed : f.executes?.isSome → g.phase = .advance
  kept : f.executes? = none → g.phase = f.phase ∧ g.locals = f.locals

/-- A frame at work that is given up starts again with what it was about. -/
theorem Ready.restarts_abort (h : f.Ready) {fault : Fault} (hend : fault ≠ .endOfScript)
    (hexecutes : f.executes? = none) : f.Restarts (f.abort fault).1 := by
  refine ⟨ready_abort h.failure h.finished hend, rfl, rfl, ?_, fun _ => ⟨rfl, rfl⟩⟩
  rw [hexecutes]
  nofun

/-- A frame that is given up on its way to the next statement starts again with looking for it. The
statement itself is not repeated, so no variable is written twice. -/
theorem At.restarts_abort {statement : Statement} {effect : Effect} (here : f.At statement)
    (heffect : (statement.plan f.scope).replay f.replies = .done effect)
    (locals : Table String Value) {fault : Fault} (hend : fault ≠ .endOfScript) :
    f.Restarts (({ f with phase := .advance, locals } : Frame).reset.abort fault).1 := by
  -- the statement was through, so it counts as executed, and only the way on is lost
  have hexecutes : f.executes? = some (f.path, statement) := by
    rw [here.executes?_eq, heffect]
  have hready := ready_abort (f := ({ f with phase := .advance, locals } : Frame).reset)
    here.failure here.finished hend
  refine ⟨hready, rfl, rfl, fun _ => rfl, ?_⟩
  rw [hexecutes]
  nofun

/-- **A step that fails leaves a frame that can start again.** The end of the script is left out,
since a frame that has ended stays there. -/
theorem step_restarts (hsound : f.Sound) {fault : Fault} (hstep : f.step.2 = .error fault)
    (hend : fault ≠ .endOfScript) : f.Restarts f.step.1 := by
  have hsteps := f.step_steps
  generalize f.step = x at hsteps hstep
  cases hsteps with
  | raised fault' failure =>
    -- a fault from outside is only held by a frame that is not at its end
    have hunfinished : f.finished = false := by
      cases hfinished : f.finished with
      | false => rfl
      | true =>
        have hnone := (hsound.ended hfinished).2
        exact absurd (failure.symm.trans hnone) nofun
    have hexecutes : f.executes? = none := by
      unfold executes?
      rw [failure]
    refine ⟨⟨rfl, rfl, hunfinished⟩, rfl, rfl, ?_, fun _ => ⟨rfl, rfl⟩⟩
    rw [hexecutes]
    nofun
  | waiting r awaiting => cases hstep
  | finished ended =>
    cases hstep
    exact absurd rfl hend
  | missing ready found =>
    cases hstep
    exact absurd rfl hend
  | suspended r here effect => cases hstep
  | failed fault' here effect =>
    cases hstep
    -- the statement has failed itself, so it has not been executed
    refine here.toReady.restarts_abort hend ?_
    rw [here.executes?_eq, effect]
  | entered here effect => cases hstep
  | departed departs =>
    -- what fails is the search for the next statement
    rename_i h
    have hseeks := h.advance_seeks
    generalize h.advance = y at hseeks hstep
    cases hseeks with
    | suspended r => cases hstep
    | moved path search => cases hstep
    | ended search =>
      cases hstep
      exact absurd rfl hend
    | failed fault' ordinary =>
      cases hstep
      cases departs with
      | again ready phase => exact ready.restarts_abort hend (executes?_advance phase)
      | done here effect => exact here.restarts_abort effect f.locals hend
      | @wrote _ name value here effect =>
        exact here.restarts_abort effect (f.locals.insert name value) hend

end Frame

/-! ### Machines -/

namespace Machine

variable {m : Machine}

/-- **All that waits can go on**: the frames that wait for a called one are free to work, and the
executing frame does not hold a request and a fault at once. Depths do not count here, so a part of
a stack may be put on another one. -/
structure Poised (m : Machine) : Prop where
  callers : ∀ f ∈ m.callers, f.Ready
  current : m.current.Sound

/-- A part of the stack of a poised machine is one as well: of what is on a stack, only its top may
hold a request or a fault. -/
theorem Poised.part {n : Machine} (h : m.Poised) (hpart : n.frames <:+: m.frames) : n.Poised := by
  obtain ⟨lower, upper, heq⟩ := hpart
  rcases List.eq_nil_or_concat upper with rfl | ⟨upper, last, rfl⟩
  · -- the part reaches up to the top
    rw [List.append_nil, frames_eq, frames_eq, ← List.append_assoc] at heq
    obtain ⟨hcallers, hcurrent⟩ := List.append_inj' heq rfl
    refine ⟨fun f hf => h.callers f ?_, ?_⟩
    · rw [← List.mem_reverse, ← hcallers]
      exact List.mem_append_right lower (List.mem_reverse.2 hf)
    · rw [List.head_eq_of_cons_eq hcurrent]
      exact h.current
  · -- all of it waits
    rw [List.concat_eq_append, frames_eq m, ← List.append_assoc] at heq
    obtain ⟨hcallers, -⟩ := List.append_inj' heq rfl
    have hwaits : ∀ f ∈ n.frames, f.Ready := by
      intro f hf
      refine h.callers f ?_
      rw [← List.mem_reverse, ← hcallers]
      exact List.mem_append_left upper (List.mem_append_right lower hf)
    exact ⟨fun f hf => hwaits f (mem_frames_of_mem_callers hf),
      (hwaits n.current n.current_mem_frames).sound⟩

/-- So is a machine whose outermost frame has been changed in nothing that counts here. The
outermost frame is the executing one, or it waits below all others. -/
theorem Poised.mapRoot (h : m.Poised) {g : Frame → Frame}
    (hg : ∀ f, (g f).awaiting = f.awaiting ∧ (g f).failure = f.failure ∧
      (g f).finished = f.finished) : (m.mapRoot g).Poised := by
  rcases m.mapRoot_cases g with ⟨-, heq⟩ | ⟨upper, root, hcallers, heq⟩
  · -- the outermost frame is the executing one
    obtain ⟨hawaiting, hfailure, hfinished⟩ := hg m.current
    rw [heq]
    refine ⟨h.callers, ?_, ?_⟩
    · change (g m.current).awaiting = none ∨ (g m.current).failure = none
      rw [hawaiting, hfailure]
      exact h.current.exclusive
    · change (g m.current).finished = true → _ ∧ _
      rw [hawaiting, hfailure, hfinished]
      exact h.current.ended
  · -- it waits, as the last of the callers
    have hall := h.callers
    rw [hcallers, List.forall_mem_append, List.forall_mem_singleton] at hall
    obtain ⟨hupper, hroot⟩ := hall
    obtain ⟨hawaiting, hfailure, hfinished⟩ := hg root
    rw [heq]
    refine ⟨List.forall_mem_append.2 ⟨hupper, List.forall_mem_singleton.2 ?_⟩, h.current⟩
    exact ⟨hawaiting.trans hroot.awaiting, hfailure.trans hroot.failure,
      hfinished.trans hroot.finished⟩

/-- A step keeps what waits ready, and leaves a sound frame on top. The cases are those of a step of
the machine: the frame goes on, returns to its caller, or fails with all frames above the outermost
one. -/
theorem Poised.step (h : m.Poised) : m.step.1.Poised := by
  have hstepped := h.current.step
  rcases m.step_cases with ⟨g, progress, hg, hm⟩ | ⟨g, caller, callers, hg, hcallers, hm⟩ |
    ⟨g, fault, hg, -, hm⟩
  · rw [hg] at hstepped
    rw [hm]
    exact ⟨h.callers, hstepped.sound⟩
  · -- the caller goes on with the value that has been returned
    rw [hm]
    have hcaller : caller.Ready := h.callers caller (by rw [hcallers]; exact List.mem_cons_self)
    refine ⟨fun f hf => h.callers f ?_, (hcaller.logReply _).sound⟩
    rw [hcallers]
    exact List.mem_cons_of_mem caller hf
  · rw [hg] at hstepped
    rw [hm]
    rcases unwind_cases { m with current := g } with ⟨-, heq⟩ | ⟨upper, root, hcallers, heq⟩
    · rw [heq]
      exact ⟨h.callers, hstepped.sound⟩
    · -- all frames above the outermost one are given up
      have hroot : root.Ready := h.callers root (by
        rw [show m.callers = upper ++ [root] from hcallers]
        simp)
      rw [heq]
      exact ⟨List.forall_mem_nil _, Frame.Ready.sound ⟨rfl, hroot.failure, hroot.finished⟩⟩

/-- An answer does the same, if the machine it may bring is poised. The frames of such a machine
come on top of the one that has asked, which waits from then on. -/
theorem Poised.resume (h : m.Poised) {reply : Except Fault Reply}
    (hreply : ∀ n, reply = .ok (.frame n) → n.Poised) : (m.resume reply).1.Poised := by
  cases hopen : m.current.awaiting with
  | none =>
    rw [resume_refused reply hopen]
    exact h
  | some r =>
    -- the request is closed, so the frame that has asked is free to work
    have hready : ({ m.current with awaiting := none } : Frame).Ready :=
      h.current.ready_of_awaiting hopen
    have hraise : ∀ fault, ({ m with
        current := { m.current with awaiting := none }.raise fault } : Machine).Poised := by
      intro fault
      refine ⟨h.callers, .inl rfl, fun hfinished => ?_⟩
      exact absurd (hready.finished.symm.trans hfinished) nofun
    cases reply with
    | error fault =>
      rw [resume_error hopen]
      exact hraise fault
    | ok reply =>
      rw [resume_ok hopen]
      rcases deliver_cases { m with current := { m.current with awaiting := none } } r reply with
        ⟨v, heq⟩ | ⟨fault, -, heq⟩ | ⟨n, hframe, -, heq⟩
      · rw [heq]
        exact ⟨h.callers, (hready.logReply v).sound⟩
      · rw [heq]
        exact hraise fault
      · -- the machine that is brought may be at any point of its work
        have hn := (hreply n (by rw [hframe])).mapRoot
          (g := (·.calledFrom { m.current with awaiting := none })) fun _ => ⟨rfl, rfl, rfl⟩
        rw [heq]
        exact ⟨List.forall_mem_append.2 ⟨hn.callers, List.forall_mem_cons.2 ⟨hready, h.callers⟩⟩,
          hn.current⟩

/-- So does setting a variable from outside. -/
theorem Poised.setLocal (h : m.Poised) (name : String) (value : Value) :
    (m.setLocal name value).Poised :=
  h.mapRoot fun _ => ⟨rfl, rfl, rfl⟩

/-- **Every reached machine is poised.** The machines that answers bring are parts of reached
ones. -/
theorem Reached.poised (h : m.Reached) : m.Poised := by
  induction h with
  | start fresh => exact ⟨List.forall_mem_nil _, fresh.toReady.sound⟩
  | perform before op plain ih =>
    cases op with
    | step => exact ih.step
    | run n => exact run_induct (fun _ hm => hm.step) ih n
    | setLocal name value => exact ih.setLocal name value
    | resume reply =>
      refine ih.resume fun n hn => ?_
      exact absurd (by rw [hn]) (plain n)
  | call before source brought ihm ihn =>
    refine ihm.resume fun n hn => ?_
    cases hn
    exact ihn.part brought

/-- **A step that fails** leaves the outermost frame alone, ready to start again. It was the frame
that failed, or it was waiting for one that did. -/
theorem Poised.step_error (h : m.Poised) {m' : Machine} {fault : Fault}
    (hstep : m.step = (m', .error fault)) (hend : fault ≠ .endOfScript) :
    m'.callers = [] ∧ m'.current.Ready ∧
      ((m.callers = [] ∧ m.root.Restarts m'.current) ∨
        (m.callers ≠ [] ∧ m'.current = m.root.reset)) := by
  rcases m.step_cases with ⟨g, progress, -, hm⟩ | ⟨g, caller, callers, -, -, hm⟩ |
    ⟨g, fault', hg, -, hm⟩
  · rw [hm] at hstep
    cases hstep
  · rw [hm] at hstep
    cases hstep
  · rw [hm] at hstep
    obtain ⟨hm', hfault⟩ := Prod.mk.inj hstep
    cases hfault
    -- the fault is one of the executing frame; if this is alone, it is the one that starts again
    have hrestarts := Frame.step_restarts h.current (congrArg Prod.snd hg) hend
    rw [hg] at hrestarts
    rcases unwind_cases { m with current := g } with ⟨hcallers, heq⟩ | ⟨upper, root, hcallers, heq⟩
    · have hnil : m.callers = [] := hcallers
      rw [← hm', heq, root_of_callers hnil]
      exact ⟨hnil, hrestarts.toReady, .inl ⟨hnil, hrestarts⟩⟩
    · -- the outermost frame has been waiting, so nothing but its log is lost
      have hcallers : m.callers = upper ++ [root] := hcallers
      have hroot : m.root = root := root_of_concat hcallers
      have hready : root.Ready := h.callers root (by rw [hcallers]; simp)
      rw [← hm', heq, hroot]
      refine ⟨rfl, ⟨rfl, hready.failure, hready.finished⟩, .inr ⟨?_, rfl⟩⟩
      rw [hcallers]
      exact List.append_ne_nil_of_right_ne_nil upper (List.cons_ne_nil root [])

/-! ### Frames that stay where they are -/

/-- What is done to one frame of a stack that leaves it where it is. Frames are counted from the
outermost one, so the executing one is the last. -/
theorem stays_of_replaced {k : Nat} {f x : Frame} (hx : m.current.Stays x)
    (h : m.frames[k]? = some f) :
    ∃ g, ({ m with current := x } : Machine).frames[k]? = some g ∧ f.Stays g := by
  rw [frames_eq] at h ⊢
  rcases getElem?_concat_cases h with hbelow | ⟨hk, rfl⟩
  · -- a frame below the executing one is not touched
    refine ⟨f, ?_, .refl f⟩
    rw [List.getElem?_append_left (List.getElem?_eq_some_iff.1 hbelow).1]
    exact hbelow
  · refine ⟨x, ?_, hx⟩
    rw [hk]
    exact List.getElem?_concat_length

/-- An answer that is delivered leaves the frames that were there where they are. It may put others
on top of them. -/
theorem deliver_stays (r : Request) (reply : Reply) {k : Nat} {f : Frame}
    (h : m.frames[k]? = some f) :
    ∃ g, (m.deliver r reply).frames[k]? = some g ∧ f.Stays g := by
  rcases m.deliver_cases r reply with ⟨v, heq⟩ | ⟨fault, -, heq⟩ | ⟨callee, -, -, heq⟩
  · rw [heq]
    exact stays_of_replaced ⟨rfl, rfl, rfl⟩ h
  · rw [heq]
    exact stays_of_replaced ⟨rfl, rfl, rfl⟩ h
  · -- the called machine comes on top of all frames
    rw [heq, frames_onto]
    refine ⟨f, ?_, .refl f⟩
    rw [List.getElem?_append_left (List.getElem?_eq_some_iff.1 h).1]
    exact h

/-- **An answer leaves all frames where they are.** It may push others, but those come behind them
in the list from the outermost one. -/
theorem resume_stays (reply : Except Fault Reply) {k : Nat} {f : Frame}
    (h : m.frames[k]? = some f) :
    ∃ g, (m.resume reply).1.frames[k]? = some g ∧ f.Stays g := by
  cases hopen : m.current.awaiting with
  | none =>
    rw [resume_refused reply hopen]
    exact ⟨f, h, .refl f⟩
  | some r =>
    cases reply with
    | error fault =>
      rw [resume_error hopen]
      exact stays_of_replaced ⟨rfl, rfl, rfl⟩ h
    | ok reply =>
      -- first the request is closed, then the answer is delivered
      have hclosed : m.current.Stays { m.current with awaiting := none } := ⟨rfl, rfl, rfl⟩
      obtain ⟨g, hg, hstays⟩ := stays_of_replaced hclosed h
      obtain ⟨g', hg', hstays'⟩ := deliver_stays r reply hg
      rw [resume_ok hopen]
      exact ⟨g', hg', hstays.trans hstays'⟩

/-- **A variable that is set from outside** leaves all frames where they are. Only the outermost one
has it, and neither its path nor its phase depends on it. -/
theorem setLocal_stays (name : String) (value : Value) {k : Nat} {f : Frame}
    (h : m.frames[k]? = some f) :
    ∃ g, (m.setLocal name value).frames[k]? = some g ∧ f.Stays g := by
  obtain ⟨upper, hframes, hset⟩ := m.frames_mapRoot (·.setLocal name value)
  rw [hframes] at h
  change ∃ g, (m.mapRoot (·.setLocal name value)).frames[k]? = some g ∧ f.Stays g
  rw [hset]
  cases k with
  | zero =>
    obtain rfl : m.root = f := Option.some.inj h
    exact ⟨m.root.setLocal name value, rfl, rfl, rfl, rfl⟩
  | succ k => exact ⟨f, h, .refl f⟩

end Machine

/-! ### Watching a frame that has executed its statement -/

/-- Whether a step of a frame has found the way on: to a statement, or to the end of the script. A
request or a fault on the way has not. -/
def Frame.passes : Frame × Except Fault Step → Bool
  | (_, .ok .continued) => true
  | (g, _) => g.finished

/-- A step that has not found it has asked something or failed, and has not ended the frame. -/
theorem Frame.passes_eq_false {x : Frame × Except Fault Step} (h : passes x = false) :
    x.2 ≠ .ok .continued ∧ x.1.finished = false := by
  obtain ⟨g, (fault | progress)⟩ := x
  · exact ⟨nofun, h⟩
  · cases progress with
    | continued => cases h
    | suspended r => exact ⟨nofun, h⟩

/-- A machine, with what the frame above `level` others has executed until it has found the way on
behind its statement, or has been given up. -/
structure Watch where
  machine : Machine
  level : Nat
  closed : Bool := false
  executed : List (Path × Statement) := []

namespace Watch

/-- Watches the executing frame, which is the one above all its callers. -/
def start (m : Machine) : Watch := { machine := m, level := m.callers.length }

/-- Whether the next step is one of the frame that is watched: it executes, and has not found the
way on yet. -/
def own (c : Watch) : Bool := !c.closed && c.machine.callers.length == c.level

/-- Watches a step. The watch is closed when the frame has found the way on, or when the stack has
sunk below its level. -/
def step (c : Watch) : Watch where
  machine := c.machine.step.1
  level := c.level
  closed := c.closed || c.own && Frame.passes c.machine.current.step ||
    c.machine.step.1.callers.length < c.level
  executed := c.executed ++ if c.own then c.machine.current.executes?.toList else []

/-- Watches all steps of a run, which may end before its number of steps is used up. -/
def run (c : Watch) : Nat → Watch
  | 0 => c
  | n + 1 =>
    match c.machine.step.2 with
    | .ok .continued => c.step.run n
    | _ => c.step

/-- Watches an operation. Only the steps of it are watched. -/
def perform (c : Watch) : Operation → Watch
  | .step => c.step
  | .run n => c.run n
  | .resume reply => { c with machine := (c.machine.resume reply).1 }
  | .setLocal name value => { c with machine := c.machine.setLocal name value }

variable {c : Watch} {f : Frame} {executed : List (Path × Statement)}

/-- The machine of a watched run is that of the run. So what is watched of a run says something
about the run itself. -/
theorem run_machine (c : Watch) (n : Nat) : (c.run n).machine = (c.machine.run n).1 := by
  induction n generalizing c with
  | zero => rfl
  | succ n ih =>
    unfold run Machine.run
    rcases hstep : c.machine.step with ⟨m, (fault | progress)⟩
    · exact congrArg Prod.fst hstep
    · cases progress with
      | continued =>
        refine (ih c.step).trans ?_
        rw [show c.step.machine = m from congrArg Prod.fst hstep]
      | suspended r => exact congrArg Prod.fst hstep

/-- **Watching changes nothing.** So what is said about the watch is said about the machine that is
watched. -/
theorem operations_machine (c : Watch) (ops : List Operation) :
    (ops.foldl perform c).machine = ops.foldl Machine.perform c.machine := by
  induction ops generalizing c with
  | nil => rfl
  | cons op ops ih =>
    have hop : (c.perform op).machine = c.machine.perform op := by
      cases op with
      | run n => exact c.run_machine n
      | _ => rfl
    rw [List.foldl_cons, List.foldl_cons, ih, hop]

/-- A watched run keeps the level. It goes on watching the frame that was watched at its
beginning. -/
theorem run_level (c : Watch) (n : Nat) : (c.run n).level = c.level := by
  induction n generalizing c with
  | zero => rfl
  | succ n ih =>
    unfold run
    split
    · exact ih c.step
    · rfl

/-- So do any operations. A run is the only one of them that takes steps, and the others change
nothing of the watch but the machine. -/
theorem operations_level (c : Watch) (ops : List Operation) :
    (ops.foldl perform c).level = c.level := by
  induction ops generalizing c with
  | nil => rfl
  | cons op ops ih =>
    have hop : (c.perform op).level = c.level := by
      cases op with
      | run n => exact c.run_level n
      | _ => rfl
    rw [List.foldl_cons, ih, hop]

/-- **The invariant**: the frame has executed no more than this, and until it has found the way on
it stands where `f` stood and is looking for it. -/
structure Inv (f : Frame) (executed : List (Path × Statement)) (c : Watch) : Prop where
  executed : c.executed = executed
  pends : c.closed = false → ∃ g, c.machine.frames[c.level]? = some g ∧ f.Pends g

/-- What a watch that is still open after a step says of it: the frame, if it was its own step, has
not found the way on, and the stack still reaches up to its level. -/
theorem of_step_open (h : c.step.closed = false) :
    c.closed = false ∧ (c.own = true → Frame.passes c.machine.current.step = false) ∧
      c.level ≤ c.machine.step.1.callers.length := by
  have h : (c.closed || c.own && Frame.passes c.machine.current.step ||
    decide (c.machine.step.1.callers.length < c.level)) = false := h
  rw [Bool.or_eq_false_iff, Bool.or_eq_false_iff, Bool.and_eq_false_imp, decide_eq_false_iff_not,
    Nat.not_lt] at h
  exact ⟨h.1.1, h.1.2, h.2⟩

/-- The frame at the level is still on the stack after a step that has not ended the watch: it has
made the step, or waits for another frame. -/
theorem step_watched (h : c.step.closed = false) {f : Frame}
    (hf : c.machine.frames[c.level]? = some f) :
    ∃ g, c.step.machine.frames[c.step.level]? = some g ∧
      ((c.own = false ∧ f.Waits g) ∨
        (c.own = true ∧ f = c.machine.current ∧ g = c.machine.current.step.1)) := by
  obtain ⟨hopen, -, hlevel⟩ := of_step_open h
  -- the stack has not sunk below the level, so something stands there after the step
  have hlength : c.level < c.machine.step.1.frames.length := by
    rw [← Machine.frameCount_eq]
    exact Nat.lt_succ_of_le hlevel
  have hg := List.getElem?_eq_getElem hlength
  refine ⟨_, hg, ?_⟩
  obtain ⟨f', hf', hcases⟩ := Machine.step_stack hg
  obtain rfl : f = f' := Option.some.inj (hf.symm.trans hf')
  -- the step is one of the frame that is watched exactly if nothing is above it
  have hown : c.own = true ↔ c.level + 1 = c.machine.frameCount := by
    unfold own Machine.frameCount
    rw [hopen]
    simp only [Bool.not_false, Bool.true_and, beq_iff_eq]
    omega
  rcases hcases with ⟨hlt, hwaits⟩ | ⟨hk, hcurrent, hstepped⟩
  · refine .inl ⟨?_, hwaits⟩
    rw [Bool.eq_false_iff, ne_eq, hown]
    omega
  · exact .inr ⟨hown.2 hk, hcurrent, hstepped⟩

/-- **A step keeps the invariant**: a frame that is looking for its next statement executes nothing,
and all that it can do without finding it leaves it looking. -/
theorem Inv.step (h : c.Inv f executed) : c.step.Inv f executed := by
  constructor
  · change c.executed ++ (if c.own then c.machine.current.executes?.toList else []) = executed
    rw [h.executed]
    cases hown : c.own with
    | false => exact List.append_nil executed
    | true =>
      unfold own at hown
      rw [Bool.and_eq_true, Bool.not_eq_true', beq_iff_eq] at hown
      obtain ⟨g, hg, hpends⟩ := h.pends hown.1
      -- the frame that is watched is the executing one
      rw [← hown.2, Machine.frames_eq, ← List.length_reverse, List.getElem?_concat_length] at hg
      obtain rfl : c.machine.current = g := Option.some.inj hg
      rw [if_pos rfl, Frame.executes?_advance hpends.phase]
      exact List.append_nil executed
  · intro hopen
    obtain ⟨hbefore, hpasses, -⟩ := of_step_open hopen
    obtain ⟨f', hf', hpends⟩ := h.pends hbefore
    obtain ⟨g, hg, ⟨-, hwaits⟩ | ⟨hown, rfl, rfl⟩⟩ := step_watched hopen hf'
    · -- another frame has made the step
      exact ⟨g, hg, hpends.stays hwaits.stays⟩
    · -- it has made the step itself, and has not found the way on
      obtain ⟨hcontinued, hfinished⟩ := Frame.passes_eq_false (hpasses hown)
      refine ⟨_, hg, hpends.stays ?_⟩
      have hstep := Frame.step_pends hpends.phase hcontinued hfinished
      exact ⟨hstep.script, hstep.path, hstep.phase.trans hpends.phase.symm⟩

/-- So does a run, whose steps are watched one by one. It stops with the step that fails or asks for
something, which is watched as well. -/
theorem Inv.run (h : c.Inv f executed) (n : Nat) : (c.run n).Inv f executed := by
  induction n generalizing c with
  | zero => exact h
  | succ n ih =>
    unfold Watch.run
    split
    · exact ih h.step
    · exact h.step

/-- **Every operation keeps the invariant.** Answers and variables that are set leave the frame
where it stands, and are no steps. -/
theorem Inv.perform (h : c.Inv f executed) (op : Operation) : (c.perform op).Inv f executed := by
  cases op with
  | step => exact h.step
  | run n => exact h.run n
  | resume reply =>
    refine ⟨h.executed, fun hopen => ?_⟩
    obtain ⟨g, hg, hpends⟩ := h.pends hopen
    obtain ⟨g', hg', hstays⟩ := Machine.resume_stays reply hg
    exact ⟨g', hg', hpends.stays hstays⟩
  | setLocal name value =>
    refine ⟨h.executed, fun hopen => ?_⟩
    obtain ⟨g, hg, hpends⟩ := h.pends hopen
    obtain ⟨g', hg', hstays⟩ := Machine.setLocal_stays name value hg
    exact ⟨g', hg', hpends.stays hstays⟩

/-- So do any operations, by induction on their list. -/
theorem Inv.operations (h : c.Inv f executed) (ops : List Operation) :
    (ops.foldl Watch.perform c).Inv f executed := by
  induction ops generalizing c with
  | nil => exact h
  | cons op ops ih => exact ih (h.perform op)

/-- **The step in which a variable is written** begins the watch, with one statement executed. After
it, the frame is looking for its next statement, or the watch is closed. -/
theorem Inv.start {m : Machine} {statement : Statement} (h : m.current.Assigns name value)
    (hexecutes : m.current.executes? = some (m.current.path, statement)) :
    (Watch.start m).step.Inv m.current [(m.current.path, statement)] := by
  -- the frame that is watched is the executing one, so the first step is its own
  have hown : (Watch.start m).own = true := by
    change (true && m.callers.length == m.callers.length) = true
    rw [Bool.true_and, beq_self_eq_true]
  have hcurrent : m.frames[m.callers.length]? = some m.current := by
    rw [Machine.frames_eq, ← List.length_reverse, List.getElem?_concat_length]
  constructor
  · change [] ++ (if (Watch.start m).own then m.current.executes?.toList else []) = _
    rw [hown, hexecutes]
    rfl
  · intro hopen
    obtain ⟨-, hpasses, -⟩ := of_step_open hopen
    obtain ⟨g, hg, ⟨hother, -⟩ | ⟨-, -, rfl⟩⟩ := step_watched hopen hcurrent
    · rw [hown] at hother
      cases hother
    · refine ⟨_, hg, ?_⟩
      have hpasses : Frame.passes m.current.step = false := hpasses hown
      -- the step has not found the way on
      rcases h.completes with hcompletes | hpends
      · generalize m.current.step = x at hcompletes hpasses
        cases hcompletes with
        | moved phase leads => cases hpasses
        | ended finished leads => exact absurd (finished.symm.trans hpasses) nofun
      · exact hpends.1

end Watch

namespace Machine

variable {m : Machine}

/-- **Variables are written once, and faults leave the outermost frame ready to start again.** In
every reached machine a step changes the variables of the executing frame only, and only where it
assigns a value to a variable: then this variable has the value, and all others are as they were.
After it the frame has found the way on, or it is looking for it where it stands. Whatever is then
done with the machine, the frame executes nothing more until it has found the way on or is given up.

A step that fails otherwise than with the end of the script leaves the outermost frame alone, at its
path, with an empty log and no open request. Unless this frame has executed its statement to the end
in the same step, it has its phase and its variables still. -/
theorem Reached.writes_once (h : m.Reached) :
    (∀ k f g, m.frames[k]? = some f → m.step.1.frames[k]? = some g →
      (k + 1 < m.frameCount → g.locals = f.locals) ∧
      (k + 1 = m.frameCount → f = m.current ∧ g = m.current.step.1)) ∧
    ((∀ name value, ¬m.current.Assigns name value) →
      m.current.step.1.locals = m.current.locals) ∧
    (∀ name value, m.current.Assigns name value →
      m.current.step.1.locals = m.current.locals.insert name value ∧
      (Frame.Completes m.current.script m.current.path m.current.step ∨
        m.current.Pends m.current.step.1 ∧ m.current.step.1.finished = false) ∧
      ∃ statement, m.current.At statement ∧ ∀ ops : List Operation,
        let c := ops.foldl Watch.perform (Watch.start m).step
        c.machine = ops.foldl Machine.perform m.step.1 ∧
        c.executed = [(m.current.path, statement)] ∧
        (c.closed = false →
          ∃ g, c.machine.frames[m.callers.length]? = some g ∧ m.current.Pends g)) ∧
    (∀ m' fault, m.step = (m', .error fault) → fault ≠ .endOfScript →
      m'.callers = [] ∧ m'.current.Ready ∧ m'.current.replies = [] ∧
      m'.current.path = m.root.path ∧
      (m.callers = [] ∧ m.current.executes?.isSome → m'.current.phase = .advance) ∧
      (¬(m.callers = [] ∧ m.current.executes?.isSome) →
        m'.current.phase = m.root.phase ∧ m'.current.locals = m.root.locals)) := by
  refine ⟨fun k f g hf hg => ?_, fun hnone => ?_, fun name value hassigns => ?_,
    fun m' fault hstep hend => ?_⟩
  · -- the frames below the executing one have waited, and waiting changes no variables
    obtain ⟨f', hf', hcases⟩ := step_stack hg
    obtain rfl : f = f' := Option.some.inj (hf.symm.trans hf')
    rcases hcases with ⟨hlt, hwaits⟩ | ⟨hk, hcurrent, hstepped⟩
    · exact ⟨fun _ => hwaits.locals, fun hk => by omega⟩
    · exact ⟨fun hlt => by omega, fun _ => ⟨hcurrent, hstepped⟩⟩
  · rcases m.current.step_locals with ⟨name, value, hassigns, -⟩ | hsame
    · exact absurd hassigns (hnone name value)
    · exact hsame
  · obtain ⟨statement, hat, hwrite⟩ := Frame.assigns_iff.1 hassigns
    have hexecutes : m.current.executes? = some (m.current.path, statement) := by
      rw [hat.executes?_eq, hwrite]
    refine ⟨hassigns.locals, hassigns.completes, statement, hat, fun ops => ?_⟩
    -- the watch begins with the step that writes, and its invariant is kept from then on
    have hinv := (Watch.Inv.start hassigns hexecutes).operations ops
    have hlevel := (Watch.start m).step.operations_level ops
    refine ⟨(Watch.start m).step.operations_machine ops, hinv.executed, fun hopen => ?_⟩
    obtain ⟨g, hg, hpends⟩ := hinv.pends hopen
    rw [hlevel] at hg
    exact ⟨g, hg, hpends⟩
  · obtain ⟨hcallers, hready, ⟨hnil, hrestarts⟩ | ⟨hne, heq⟩⟩ := h.poised.step_error hstep hend
    · -- the outermost frame was the executing one, and starts again
      have hroot : m.root = m.current := root_of_callers hnil
      rw [hroot] at hrestarts ⊢
      refine ⟨hcallers, hready, hrestarts.replies, hrestarts.path,
        fun hexecuted => hrestarts.executed hexecuted.2, fun hnot => hrestarts.kept ?_⟩
      rw [← Option.not_isSome_iff_eq_none]
      exact fun hsome => hnot ⟨hnil, hsome⟩
    · -- it has waited for the one that has failed, so it has kept its place and its variables
      rw [heq]
      exact ⟨hcallers, heq ▸ hready, rfl, rfl, fun hexecuted => absurd hexecuted.1 hne,
        fun _ => ⟨rfl, rfl⟩⟩

/-- A loop that goes on while a property says so, with a single assignment. -/
def looper : Frame :=
  { owner := ⟨1⟩
    script := [.whileLoop [.reference ⟨.prop, "go", none⟩]
      [.assign .set ⟨.var, "done", none⟩ [.bool true]]] }

/-- The loop is entered. -/
def looping : Machine :=
  [Operation.step, .resume (.ok (.value (.bool true))), .step].foldl perform (start looper)

/-- Operations that bring no machine lead from reached machines to reached ones. -/
theorem perform_reached {ops : List Operation} (h : m.Reached)
    (hplain : ∀ op ∈ ops, ∀ n, op ≠ .resume (.ok (.frame n))) : (ops.foldl perform m).Reached := by
  induction ops generalizing m with
  | nil => exact h
  | cons op ops ih =>
    have hop := hplain op List.mem_cons_self
    exact ih (.perform h op hop) fun op' hop' => hplain op' (List.mem_cons_of_mem op hop')

/-- The variable is written in the next step, which asks for the condition of the loop. That this
fails and is asked again does not write it again. -/
theorem looping_writes_once :
    looping.Reached ∧ looping.current.Assigns "done" (.bool true) ∧
      looping.current.step.1.locals = looping.current.locals.insert "done" (.bool true) ∧
      let ops : List Operation := [.resume (.error (.propNotFound "go")), .step, .step]
      let c := ops.foldl Watch.perform (Watch.start looping).step
      c.closed = false ∧ c.executed.length = 1 ∧
        ∃ g, c.machine.frames[0]? = some g ∧ looping.current.Pends g := by
  have hplain : ∀ op ∈ [Operation.step, .resume (.ok (.value (.bool true))), .step],
      ∀ n, op ≠ .resume (.ok (.frame n)) := by
    intro op hop n hn
    subst hn
    simp at hop
  have hreached : looping.Reached :=
    perform_reached (.start ⟨⟨rfl, rfl, rfl⟩, rfl, rfl, rfl⟩) hplain
  have hassigns : looping.current.Assigns "done" (.bool true) :=
    ⟨.set, none, [.bool true], ⟨⟨rfl, rfl, rfl⟩, rfl, rfl⟩, rfl⟩
  obtain ⟨-, -, hwrites, -⟩ := hreached.writes_once
  obtain ⟨hlocals, -, statement, -, hwatch⟩ := hwrites _ _ hassigns
  obtain ⟨-, hexecuted, hpends⟩ := hwatch [.resume (.error (.propNotFound "go")), .step, .step]
  -- the condition has failed and is asked again, so the way on has not been found
  have hopen : ([Operation.resume (.error (.propNotFound "go")), .step, .step].foldl Watch.perform
      (Watch.start looping).step).closed = false := rfl
  exact ⟨hreached, hassigns, hlocals, hopen, congrArg List.length hexecuted, hpends hopen⟩

end Machine

end VerbScript
