import VerbScript.Machine.Basic
import VerbScript.Proofs.RequestOrder

/-!
# What a step of a machine can do

One lemma per situation of the executing frame, so that no later proof opens `Frame.step`,
`Machine.step` or `Machine.resume`.

* `Frame.Ready` — nothing stands in the way of working on the current statement; `Frame.step_cases`
  lists what else can.
* `Frame.step_execute`, `Frame.advance_eq` — the two phases of a ready frame, each as what the
  replay of the plan of the phase comes to (`Frame.conclude`).
* `Machine.step_of_ok`, `Machine.step_of_return`, `Machine.step_of_end`, `Machine.step_of_fault` —
  what becomes of the machine, by the result of its executing frame.
* `Machine.step_end`, `Machine.step_error_callers` — what the result of a step says of the stack.
* `Machine.deliver_cases` — an answer is logged, raised as a fault, or brings a machine that goes on
  top of the stack.
* `Frame.Fresh` — a frame at the beginning of its script, as `Frame.forCall` makes it;
  `Machine.Fresh` — a machine that is such a frame.

`Frame.Working`, `Machine.step_cases`, `Machine.unwind_cases` and `Machine.setLocal_cases` list all
that can happen, for proofs of invariants that have to look at every case.
-/

namespace VerbScript

namespace Frame

/-! ### Frames -/

/-- Nothing stands in the way of working on the current statement: no request is open, no fault is
to be raised, and the script has not ended. -/
structure Ready (f : Frame) : Prop where
  awaiting : f.awaiting = none
  failure : f.failure = none
  finished : f.finished = false

/-- A frame at the beginning of its script. Owner, script, variables and limits are free. Runs begin
with such frames, and so do calls. -/
structure Fresh (f : Frame) : Prop extends Ready f where
  path : f.path = [0]
  phase : f.phase = .execute
  replies : f.replies = []

/-- A new frame with an owner and a script is at the beginning of it. -/
theorem fresh_new (owner : ObjectId) (script : Script) : Fresh { owner, script } :=
  ⟨⟨rfl, rfl, rfl⟩, rfl, rfl, rfl⟩

/-- So is the frame for a call, whatever variables it is given. -/
theorem fresh_forCall (owner : ObjectId) (script : Script) (args : CallArgs) :
    (forCall owner script args).Fresh := ⟨⟨rfl, rfl, rfl⟩, rfl, rfl, rfl⟩

variable {f : Frame}

/-- Being called gives a frame a depth and a limit, and does not move it. -/
theorem Fresh.calledFrom (h : f.Fresh) (caller : Frame) : (f.calledFrom caller).Fresh :=
  ⟨⟨h.awaiting, h.failure, h.finished⟩, h.path, h.phase, h.replies⟩

/-- An answer in the log stands in the way of nothing. -/
theorem Ready.logReply (h : f.Ready) (v : Value) : (f.logReply v).Ready := ⟨h.1, h.2, h.3⟩

/-- A fault that is to be raised comes first, and the evaluation of the statement starts again. The
host may step on after the fault; then the requests of the statement are made once more. -/
theorem step_raised {fault : Fault} (h : f.failure = some fault) :
    f.step = ({ f with failure := none }.reset, .error fault) := by
  unfold step
  rw [h]

/-- An open request is repeated, and nothing changes. It is looked at after a fault, but before the
end of the script. -/
theorem step_waiting {r : Request} (hf : f.failure = none) (hw : f.awaiting = some r) :
    f.step = (f, .ok (.suspended r)) := by
  unfold step
  rw [hf, hw]

/-- Behind the end of the script every step reports the end. The frame is left as it is. -/
theorem step_finished (hf : f.failure = none) (hw : f.awaiting = none) (h : f.finished = true) :
    f.step = (f, .error .endOfScript) := by
  unfold step
  rw [hf, hw, h]
  rfl

/-- **What comes first in a step**: a fault that is to be raised, then an open request, then the end
of the script, and only then the current statement. In the first three cases the statement is not
looked at. -/
theorem step_cases (f : Frame) :
    (∃ fault, f.failure = some fault ∧
      f.step = ({ f with failure := none }.reset, .error fault)) ∨
    (∃ r, f.failure = none ∧ f.awaiting = some r ∧ f.step = (f, .ok (.suspended r))) ∨
    (f.failure = none ∧ f.awaiting = none ∧ f.step = (f, .error .endOfScript)) ∨
    f.Ready := by
  -- the three fields are looked at in this order, each only if those before it are empty
  cases hfailure : f.failure with
  | some fault => exact .inl ⟨fault, rfl, step_raised hfailure⟩
  | none =>
    cases hawaiting : f.awaiting with
    | some r => exact .inr (.inl ⟨r, rfl, rfl, step_waiting hfailure hawaiting⟩)
    | none =>
      cases hfinished : f.finished with
      | true =>
        exact .inr (.inr (.inl ⟨rfl, rfl, step_finished hfailure hawaiting hfinished⟩))
      | false => exact .inr (.inr (.inr ⟨hawaiting, hfailure, hfinished⟩))

/-- A ready frame works in the phase in which it is: on its statement, or on the search for the next
one. -/
theorem step_ready (h : f.Ready) :
    f.step = match f.phase with
      | .execute => f.execute
      | .advance => f.advance := by
  unfold step
  rw [h.failure, h.awaiting, h.finished]
  rfl

/-- The step of a frame that replays a plan: `last` is the step when the plan is through. A request
is suspended and a fault given up in the same way, whatever the plan is of. -/
def conclude {α : Type} (f : Frame) (last : α → Frame × Except Fault Step) :
    Outcome α → Frame × Except Fault Step
  | .suspended r => f.suspend r
  | .failed fault => f.abort fault
  | .done a => last a

/-- The step of a frame that has found its next statement. -/
def arrive (f : Frame) : Option Path → Frame × Except Fault Step
  | some path => ({ f with phase := .execute, path }.reset, .ok .continued)
  | none => ({ f with phase := .execute, finished := true }.reset, .error .endOfScript)

/-- The step of a frame whose statement has had its effect: it enters the block of the statement, or
goes on behind it at once. -/
def affect (f : Frame) : Effect → Frame × Except Fault Step
  | .descend => ({ f with path := f.path ++ [0] }.reset, .ok .continued)
  | .next => { f with phase := .advance }.reset.advance
  | .write name value => ({ f with phase := .advance }.setLocal name value).reset.advance

/-- **Going on** replays the plan of finding the next statement. A `while` asks for its condition
there, so that this may take several answers. -/
theorem advance_eq (f : Frame) :
    f.advance
      = f.conclude f.arrive ((successorPlan f.scope f.script f.path.reverse).replay f.replies) := by
  unfold advance
  cases (successorPlan f.scope f.script f.path.reverse).replay f.replies with
  | suspended r => rfl
  | failed fault => rfl
  | done next => cases next <;> rfl

/-- **A step on a statement** replays its plan. The answers in the log lead through it, so the step
comes to the first request that has no answer yet. -/
theorem step_execute {statement : Statement} (h : f.Ready) (hp : f.phase = .execute)
    (hs : f.script.find? f.path = some statement) :
    f.step = f.conclude f.affect ((statement.plan f.scope).replay f.replies) := by
  -- the statement is there, so the phase is all that decides
  have he : f.step = f.execute := by rw [step_ready h, hp]
  rw [he]
  unfold execute
  rw [hs]
  cases hr : (statement.plan f.scope).replay f.replies with
  | suspended r => simp only [hr]; rfl
  | failed fault => simp only [hr]; rfl
  | done effect => cases effect <;> simp only [hr] <;> rfl

/-- A script without a statement at the path is over. This is how an empty script ends, as it has no
way from one statement to the next. -/
theorem step_execute_none (h : f.Ready) (hp : f.phase = .execute)
    (hs : f.script.find? f.path = none) : f.step = f.abort .endOfScript := by
  have he : f.step = f.execute := by rw [step_ready h, hp]
  rw [he]
  unfold execute
  rw [hs]

/-- A step of a frame that is through with its statement goes on from it. -/
theorem step_advance (h : f.Ready) (hp : f.phase = .advance) : f.step = f.advance := by
  rw [step_ready h, hp]

/-- `g` is `f` at work on its statement or behind it: it is in the same script at the same place,
and what is left of its log are answers of `f`. -/
structure SamePlace (f g : Frame) : Prop extends Ready g where
  script : g.script = f.script
  path : g.path = f.path
  depth : g.depth = f.depth
  maxDepth : g.maxDepth = f.maxDepth
  replies : g.replies <:+ f.replies

/-- A ready frame is at work at its own place. -/
theorem SamePlace.refl (h : f.Ready) : f.SamePlace f :=
  ⟨h, rfl, rfl, rfl, rfl, List.suffix_rfl⟩

/-- **All that work on a statement can come to.** Invariants of frames are proved by these four
cases, and not by the definition of a step: see `Ready.working`. -/
inductive Working (f : Frame) : Frame × Except Fault Step → Prop where
  | suspended (g : Frame) (r : Request) (place : f.SamePlace g) : Working f (g.suspend r)
  | aborted (g : Frame) (fault : Fault) (place : f.SamePlace g) : Working f (g.abort fault)
  /-- The block of the statement is entered. -/
  | entered (statement : Statement) (found : f.script.find? f.path = some statement)
      (effect : (statement.plan f.scope).replay f.replies = .done .descend) :
      Working f ({ f with path := f.path ++ [0] }.reset, .ok .continued)
  /-- The search for the next statement is through. -/
  | arrived (g : Frame) (next : Option Path) (place : f.SamePlace g)
      (search : (successorPlan g.scope g.script g.path.reverse).replay g.replies = .done next) :
      Working f (g.arrive next)

/-- The search for the next statement asks something, fails, or is through. The frame may have been
changed before, as long as it stands at the same place. -/
theorem SamePlace.working_advance {g : Frame} (h : f.SamePlace g) : f.Working g.advance := by
  rw [advance_eq]
  cases hr : (successorPlan g.scope g.script g.path.reverse).replay g.replies with
  | suspended r => exact .suspended g r h
  | failed fault => exact .aborted g fault h
  | done next => exact .arrived g next h hr

/-- **All that a step of a ready frame can come to.** A statement that has had its effect is
followed by the search in the same step, so both end in the same four ways. -/
theorem Ready.working (h : f.Ready) : f.Working f.step := by
  cases hphase : f.phase with
  | advance =>
    rw [step_advance h hphase]
    exact (SamePlace.refl h).working_advance
  | execute =>
    cases hfind : f.script.find? f.path with
    | none =>
      rw [step_execute_none h hphase hfind]
      -- without a statement at its path the frame is given up where it stands
      exact .aborted f .endOfScript (.refl h)
    | some statement =>
      rw [step_execute h hphase hfind]
      cases hr : (statement.plan f.scope).replay f.replies with
      | suspended r => exact .suspended f r (.refl h)
      | failed fault => exact .aborted f fault (.refl h)
      | done effect =>
        cases effect with
        | descend => exact .entered statement hfind hr
        | next =>
          -- the frame goes on at once, with an empty log
          have hplace : f.SamePlace { f with phase := .advance }.reset :=
            ⟨⟨rfl, h.failure, h.finished⟩, rfl, rfl, rfl, rfl, List.nil_suffix⟩
          exact hplace.working_advance
        | write name value =>
          have hplace : f.SamePlace ({ f with phase := .advance }.setLocal name value).reset :=
            ⟨⟨rfl, h.failure, h.finished⟩, rfl, rfl, rfl, rfl, List.nil_suffix⟩
          exact hplace.working_advance

end Frame

namespace Machine

variable {m : Machine} {g : Frame}

/-! ### The frames of a machine -/

/-- The frames from the outermost to the executing one. The callers are kept the other way round. -/
theorem frames_eq (m : Machine) : m.frames = m.callers.reverse ++ [m.current] := List.reverse_cons

/-- The number of frames is the length of their list. -/
theorem frameCount_eq (m : Machine) : m.frameCount = m.frames.length := by
  rw [frames_eq, List.length_append, List.length_reverse]
  rfl

/-- The executing frame is one of the frames. -/
theorem current_mem_frames (m : Machine) : m.current ∈ m.frames := by
  rw [frames_eq]
  exact List.mem_append_right _ (List.mem_singleton_self _)

/-- A frame that waits for a called one is one of the frames. -/
theorem mem_frames_of_mem_callers {f : Frame} (h : f ∈ m.callers) : f ∈ m.frames := by
  rw [frames_eq]
  exact List.mem_append_left _ (List.mem_reverse.2 h)

/-- Without callers, the executing frame is the outermost one. Then it is the frame of the script
that the machine was made for. -/
theorem root_of_callers (h : m.callers = []) : m.root = m.current := by
  unfold root
  rw [h]
  rfl

/-- The last of the callers is the outermost frame. The list begins with the frame that has called
last. -/
theorem root_of_concat {upper : List Frame} {root : Frame} (h : m.callers = upper ++ [root]) :
    m.root = root := by
  unfold Machine.root
  rw [h, List.getLast?_concat]
  rfl

/-- The outermost frame is the executing one, or the last of those that wait. All that is said of a
change of this frame is said by these two cases. -/
theorem mapRoot_cases (m : Machine) (g : Frame → Frame) :
    (m.callers = [] ∧ m.mapRoot g = { m with current := g m.current }) ∨
    (∃ upper root, m.callers = upper ++ [root] ∧
      m.mapRoot g = { m with callers := upper ++ [g root] }) := by
  unfold mapRoot
  rcases List.eq_nil_or_concat m.callers with hnil | ⟨upper, root, hroot⟩
  · rw [hnil]
    exact .inl ⟨rfl, rfl⟩
  · -- the callers are listed from the innermost to the outermost
    rw [List.concat_eq_append] at hroot
    refine .inr ⟨upper, root, hroot, ?_⟩
    rw [hroot, List.reverse_append, List.reverse_singleton, List.singleton_append]
    simp only [List.reverse_cons, List.reverse_reverse]

/-- **Changing the outermost frame** changes the first one of the list and no other. It may be the
executing frame, so this is a case distinction made once. -/
theorem frames_mapRoot (m : Machine) (g : Frame → Frame) :
    ∃ upper, m.frames = m.root :: upper ∧ (m.mapRoot g).frames = g m.root :: upper := by
  rcases m.mapRoot_cases g with ⟨hcallers, heq⟩ | ⟨upper, root, hcallers, heq⟩
  · -- the executing frame is alone, so it is the one that changes
    refine ⟨[], ?_, ?_⟩
    · rw [frames_eq, hcallers, root_of_callers hcallers]
      rfl
    · rw [heq, frames_eq, hcallers, root_of_callers hcallers]
      rfl
  · -- what is above the outermost frame is the other callers and the executing frame
    refine ⟨upper.reverse ++ [m.current], ?_, ?_⟩
    · rw [frames_eq, hcallers, root_of_concat hcallers, List.reverse_append]
      rfl
    · rw [heq, frames_eq, root_of_concat hcallers, List.reverse_append]
      rfl

/-- A frame of the changed stack is one of the old ones, or such a one after the change. Which of
them has been changed need not be known. -/
theorem mem_frames_mapRoot {g : Frame → Frame} {f' : Frame} (h : f' ∈ (m.mapRoot g).frames) :
    ∃ f ∈ m.frames, f' = f ∨ f' = g f := by
  obtain ⟨upper, hframes, hmapped⟩ := m.frames_mapRoot g
  rw [hmapped] at h
  rw [hframes]
  rcases List.mem_cons.1 h with rfl | h
  · exact ⟨m.root, List.mem_cons_self, .inr rfl⟩
  · exact ⟨f', List.mem_cons_of_mem _ h, .inl rfl⟩

/-- **A machine on top of another** has the frames of the lower one below its own. All of them wait
from then on, and the executing frame is that of the upper one. -/
theorem frames_onto (n m : Machine) : (n.onto m).frames = m.frames ++ n.frames := by
  rw [frames_eq (n.onto m), frames_eq n, ← List.append_assoc]
  refine congrArg (· ++ [n.current]) ?_
  exact List.reverse_append

/-! ### Steps of machines -/

/-- A frame that goes on, or asks something, is all that changes. The frames that wait do not know
of it. -/
theorem step_of_ok {progress : Step} (h : m.current.step = (g, .ok progress)) :
    m.step = ({ m with current := g }, .ok progress) := by
  unfold step
  rw [h]

/-- A script that ends returns its result to the frame that called it, where it is logged like any
other answer. The step goes on; the caller works with the result in the next one. -/
theorem step_of_return {caller : Frame} {callers : List Frame}
    (h : m.current.step = (g, .error .endOfScript)) (hc : m.callers = caller :: callers) :
    m.step = ({ current := caller.logReply g.returnValue, callers }, .ok .continued) := by
  unfold step
  rw [h]
  simp only [hc]
  rfl

/-- The end of the outermost script is the end of the machine, which keeps its frame. The host reads
the result from there. -/
theorem step_of_end (h : m.current.step = (g, .error .endOfScript)) (hc : m.callers = []) :
    m.step = ({ m with current := g }, .error .endOfScript) := by
  unfold step
  rw [h]
  simp only [hc]

/-- A fault gives up all frames but the outermost. It is what the step reports, so no frame in
between can catch it. -/
theorem step_of_fault {fault : Fault} (h : m.current.step = (g, .error fault))
    (hf : fault ≠ .endOfScript) :
    m.step = (({ m with current := g } : Machine).unwind, .error fault) := by
  -- `hf` rules the second case of the step out
  simp only [step, h]

/-- Giving up frames leaves the outermost one, whose evaluation starts again. If it is alone,
nothing is given up. -/
theorem unwind_cases (m : Machine) :
    (m.callers = [] ∧ m.unwind = m) ∨
    (∃ upper root, m.callers = upper ++ [root] ∧ m.unwind = start root.reset) := by
  unfold unwind
  rcases List.eq_nil_or_concat m.callers with hnil | ⟨upper, root, hroot⟩
  · rw [hnil]
    exact .inl ⟨rfl, rfl⟩
  · -- the outermost frame stands last among the callers
    rw [List.concat_eq_append] at hroot
    refine .inr ⟨upper, root, hroot, ?_⟩
    rw [hroot, List.getLast?_concat]

/-- **All that a step can do to the stack:** the executing frame goes on, returns to its caller, or
is given up with all others but the outermost. -/
theorem step_cases (m : Machine) :
    (∃ g progress, m.current.step = (g, .ok progress) ∧
      m.step = ({ m with current := g }, .ok progress)) ∨
    (∃ g caller callers, m.current.step = (g, .error .endOfScript) ∧
      m.callers = caller :: callers ∧
      m.step = ({ current := caller.logReply g.returnValue, callers }, .ok .continued)) ∨
    (∃ g fault, m.current.step = (g, .error fault) ∧
      (fault = .endOfScript → m.callers = []) ∧
      m.step = (({ m with current := g } : Machine).unwind, .error fault)) := by
  rcases hstep : m.current.step with ⟨g, (fault | progress)⟩
  · by_cases hend : fault = .endOfScript
    · subst hend
      -- a script that ends is the outermost one, or has a caller to return to
      rcases hcallers : m.callers with _ | ⟨caller, callers⟩
      · have hend := step_of_end hstep hcallers
        rw [hcallers] at hend
        exact .inr (.inr ⟨g, .endOfScript, rfl, fun _ => rfl, hend⟩)
      · exact .inr (.inl ⟨g, caller, callers, rfl, rfl, step_of_return hstep hcallers⟩)
    · exact .inr (.inr ⟨g, fault, rfl, fun h => absurd h hend, step_of_fault hstep hend⟩)
  · exact .inl ⟨g, progress, rfl, step_of_ok hstep⟩

/-- The end of the script is reported by the outermost frame only. Any other frame that ends returns
to its caller, which is not told from outside. -/
theorem step_end (h : m.step.2 = .error .endOfScript) :
    m.callers = [] ∧ m.current.step.2 = .error .endOfScript ∧
      m.step.1 = { m with current := m.current.step.1 } := by
  rcases m.step_cases with ⟨g, progress, -, hm⟩ | ⟨g, caller, callers, -, -, hm⟩ |
    ⟨g, fault, hg, hcallers, hm⟩
  · rw [hm] at h
    cases h
  · rw [hm] at h
    cases h
  · rw [hm] at h
    cases h
    -- the other two kinds of steps do not fail, so this is the end of a frame without callers
    have hnil := hcallers rfl
    rw [hg, step_of_end hg hnil]
    exact ⟨hnil, rfl, rfl⟩

/-- A step that fails leaves the outermost frame alone. The fault is that of the whole script, so
the verbs that were called on the way are given up. -/
theorem step_error_callers {fault : Fault} (h : m.step.2 = .error fault) :
    m.step.1.callers = [] := by
  rcases m.step_cases with ⟨g, progress, -, hm⟩ | ⟨g, caller, callers, -, -, hm⟩ |
    ⟨g, fault', -, -, hm⟩
  · rw [hm] at h
    cases h
  · rw [hm] at h
    cases h
  · rw [hm]
    -- the outermost frame was alone, or the others have been given up
    rcases unwind_cases { m with current := g } with ⟨hnil, heq⟩ | ⟨upper, root, -, heq⟩
    · rw [heq]
      exact hnil
    · rw [heq]
      rfl

/-- A variable set from outside is one of the outermost frame, whichever frame executes at the
time. -/
theorem setLocal_cases (m : Machine) (name : String) (value : Value) :
    (m.callers = [] ∧
      m.setLocal name value = { m with current := m.current.setLocal name value }) ∨
    (∃ upper root, m.callers = upper ++ [root] ∧
      m.setLocal name value = { m with callers := upper ++ [root.setLocal name value] }) :=
  m.mapRoot_cases (·.setLocal name value)

/-- What every step keeps, a run keeps. The induction is on the number of steps; a run ends early
with a request, a fault or the end. -/
theorem run_induct {P : Machine → Prop} (hstep : ∀ m, P m → P m.step.1) {m : Machine} (h : P m)
    (n : Nat) : P (m.run n).1 := by
  induction n generalizing m with
  | zero => exact h
  | succ n ih =>
    have hnext := hstep m h
    unfold run
    rcases hresult : m.step with ⟨m', (fault | progress)⟩
    · rw [hresult] at hnext
      -- a fault ends the run with this step
      exact hnext
    · rw [hresult] at hnext
      cases progress with
      | continued => exact ih hnext
      -- a request does so too, unless the step has gone on
      | suspended r => exact hnext

/-! ### Answers -/

/-- Without an open request an answer is refused and changes nothing. So an answer that comes too
late, or twice, does no harm. -/
theorem resume_refused (reply : Except Fault Reply) (h : m.current.awaiting = none) :
    (m.resume reply).1 = m := by
  unfold resume
  rw [h]

/-- An answer that is a fault closes the request, and the fault is to be raised. It is raised by the
next step, and taking the answer succeeds. -/
theorem resume_error {r : Request} {fault : Fault} (h : m.current.awaiting = some r) :
    m.resume (.error fault)
      = ({ m with current := { m.current with awaiting := none }.raise fault }, .ok ()) := by
  unfold resume
  rw [h]

/-- Any other answer closes the request and is delivered. Whether it fits the request is seen only
when it is delivered. -/
theorem resume_ok {r : Request} {reply : Reply} (h : m.current.awaiting = some r) :
    m.resume (.ok reply)
      = (({ m with current := { m.current with awaiting := none } } : Machine).deliver r reply,
          .ok ()) := by
  unfold resume
  rw [h]

/-- A machine at its beginning: one frame, at the beginning of its script. -/
def Fresh (n : Machine) : Prop := ∃ f, n = start f ∧ f.Fresh

/-- A frame at its beginning is a machine at its beginning. -/
theorem fresh_start {f : Frame} (h : f.Fresh) : (start f).Fresh := ⟨f, rfl, h⟩

/-- **All that an answer can do:** it is logged, or raised as a fault in the next step, or it brings
a machine that goes on top of the frame that asked. -/
theorem deliver_cases (m : Machine) (r : Request) (reply : Reply) :
    (∃ v, m.deliver r reply = { m with current := m.current.logReply v }) ∨
    (∃ fault, fault ≠ .endOfScript ∧
      m.deliver r reply = { m with current := m.current.raise fault }) ∨
    (∃ callee, reply = .frame callee ∧ m.current.depth + 1 ≤ m.current.maxDepth ∧
      m.deliver r reply = (callee.mapRoot (·.calledFrom m.current)).onto m) := by
  cases r with
  | getProp object name =>
    cases reply with
    | value v => exact .inl ⟨v, rfl⟩
    | done => exact .inr (.inl ⟨.unexpectedReply _, nofun, rfl⟩)
    | frame f => exact .inr (.inl ⟨.unexpectedReply _, nofun, rfl⟩)
  | setProp object name value =>
    cases reply with
    | value v => exact .inl ⟨.null, rfl⟩
    | done => exact .inl ⟨.null, rfl⟩
    | frame f => exact .inr (.inl ⟨.unexpectedReply _, nofun, rfl⟩)
  | resolveAlias name =>
    cases reply with
    | value v => exact .inl ⟨v, rfl⟩
    | done => exact .inr (.inl ⟨.unexpectedReply _, nofun, rfl⟩)
    | frame f => exact .inr (.inl ⟨.unexpectedReply _, nofun, rfl⟩)
  | call object args =>
    cases reply with
    | value v => exact .inl ⟨v, rfl⟩
    | done => exact .inr (.inl ⟨.unexpectedReply _, nofun, rfl⟩)
    | frame f =>
      -- the only answer that brings a machine, and only if the limit admits one level more
      by_cases hd : m.current.maxDepth < m.current.depth + 1
      · exact .inr (.inl ⟨.callDepthExceeded m.current.maxDepth, nofun, if_pos hd⟩)
      · exact .inr (.inr ⟨f, rfl, Nat.le_of_not_lt hd, if_neg hd⟩)

end Machine

end VerbScript
