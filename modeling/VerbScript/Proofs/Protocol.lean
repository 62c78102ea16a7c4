import VerbScript.Proofs.MachineSteps

/-!
# The protocol between a machine and its host

A host steps a machine, runs it, answers it and sets variables, in any order, and it may answer
wrongly, too often or too early. Whatever it does, the stack of frames stays in order.

* `Machine.Orderly limit m` — the invariant. Depths count the frames from the outermost one, all
  frames have the limit of the outermost one and are within it, and whoever waits for a called frame
  holds neither a request nor a fault and is not finished. The executing frame holds at most one of
  them, and none when it is finished.
* `Frame.Sound.step`, `Machine.Orderly.step`, `Machine.Orderly.resume` — every operation keeps it. A
  step that asks something leaves exactly this request open, and no other step leaves one open.
* `Conversation` — a machine with what its host has seen of it: the last request it was asked, and
  whether it has answered since. `Conversation.protocol` says that this is all there is to know
  about the open request.
-/

namespace VerbScript

/-! ### Frames -/

namespace Frame

/-- The frame holds at most one of a request and a fault, and none of them at its end. Frames begin
like this, and every step and every answer leaves them so. -/
structure Sound (f : Frame) : Prop where
  exclusive : f.awaiting = none ∨ f.failure = none
  ended : f.finished = true → f.awaiting = none ∧ f.failure = none

/-- A frame that is free to work holds neither a request nor a fault, so it is sound. -/
theorem Ready.sound {f : Frame} (h : f.Ready) : f.Sound :=
  ⟨.inl h.awaiting, fun _ => ⟨h.awaiting, h.failure⟩⟩

/-- A sound frame with an open request is otherwise free to work: it holds no fault, and it is not
finished. So once the request is answered, it can go on. -/
theorem Sound.ready_of_awaiting {f : Frame} {r : Request} (h : f.Sound)
    (hr : f.awaiting = some r) : ({ f with awaiting := none } : Frame).Ready := by
  have hopen : f.awaiting ≠ none := by rw [hr]; exact nofun
  refine ⟨rfl, ?_, ?_⟩
  · exact h.exclusive.resolve_left hopen
  · -- at its end the frame would have no request
    cases hfin : f.finished with
    | false => rfl
    | true => exact absurd (h.ended hfin).1 hopen

/-- What is left of `f` after a step: a sound frame of the same depth that waits for an answer
exactly if the step has asked for it. -/
structure Stepped (f : Frame) (x : Frame × Except Fault Step) : Prop where
  depth : x.1.depth = f.depth
  maxDepth : x.1.maxDepth = f.maxDepth
  sound : x.1.Sound
  awaiting : ∀ r, x.1.awaiting = some r ↔ x.2 = .ok (.suspended r)

/-- A step that asks nothing and leaves nothing open. Most steps are of this kind, whatever else
they come to. -/
theorem Stepped.quiet {f : Frame} {x : Frame × Except Fault Step} (hdepth : x.1.depth = f.depth)
    (hmax : x.1.maxDepth = f.maxDepth) (hawaiting : x.1.awaiting = none)
    (hfailure : x.1.failure = none) (hresult : ∀ r, x.2 ≠ .ok (.suspended r)) : f.Stepped x := by
  refine ⟨hdepth, hmax, ⟨.inl hawaiting, fun _ => ⟨hawaiting, hfailure⟩⟩, fun r => ?_⟩
  rw [hawaiting]
  exact ⟨nofun, fun h => absurd h (hresult r)⟩

/-- What a frame at work comes to: of the four outcomes only a suspension leaves a request open, and
it is the one that the step has returned. -/
theorem Working.stepped {f : Frame} {x : Frame × Except Fault Step} (hready : f.Ready)
    (h : f.Working x) : f.Stepped x := by
  cases h with
  | suspended g r place =>
    refine ⟨place.depth, place.maxDepth, ⟨.inr place.failure, fun hfin => ?_⟩, fun r' => ?_⟩
    · -- a frame at work is not finished
      exact absurd (place.finished.symm.trans hfin) nofun
    · constructor
      · rintro ⟨⟩
        rfl
      · rintro ⟨⟩
        rfl
  | aborted g fault place =>
    exact .quiet place.depth place.maxDepth rfl place.failure fun _ => nofun
  -- entering a block asks nothing, and neither does coming to the next statement or the end
  | entered statement found effect => exact .quiet rfl rfl rfl hready.failure fun _ => nofun
  | arrived g next place search =>
    cases next with
    | some path => exact .quiet place.depth place.maxDepth rfl place.failure fun _ => nofun
    | none => exact .quiet place.depth place.maxDepth rfl place.failure fun _ => nofun

/-- **A step of a sound frame** leaves a sound frame of the same depth. A held fault is raised and a
held request is repeated; otherwise the frame is at its end or works. -/
theorem Sound.step {f : Frame} (h : f.Sound) : f.Stepped f.step := by
  rcases f.step_cases with ⟨fault, -, heq⟩ | ⟨r, -, hawaiting, heq⟩ |
    ⟨hfailure, hawaiting, heq⟩ | hready
  · rw [heq]
    exact .quiet rfl rfl rfl rfl fun _ => nofun
  · -- the frame is as it was, and what it repeats is the request it holds
    rw [heq]
    refine ⟨rfl, rfl, h, fun r' => ?_⟩
    rw [hawaiting]
    constructor
    · rintro ⟨⟩
      rfl
    · rintro ⟨⟩
      rfl
  · rw [heq]
    exact .quiet rfl rfl hawaiting hfailure fun _ => nofun
  · exact hready.working.stepped hready

end Frame

/-! ### Stacks -/

namespace Machine

/-- **The stack is in order.** The frames are listed from the outermost one, so the executing frame
comes last. -/
structure Orderly (limit : Nat) (m : Machine) : Prop where
  /-- The `k`-th frame from the outermost one has the depth `k`. -/
  depths : m.frames.map Frame.depth = List.range m.frameCount
  limits : ∀ f ∈ m.frames, f.maxDepth = limit
  count : m.frameCount ≤ 1 + limit
  /-- A frame that waits for a called one holds no request and no fault, and is not finished. -/
  callers : ∀ f ∈ m.callers, f.Ready
  current : m.current.Sound

variable {m : Machine} {limit : Nat}

/-- The depths of the stack, with the executing frame apart: it is as deep as there are callers. The
invariant says this of all frames at once; a step or an answer changes one end of the stack, and
needs the two parts. -/
theorem Orderly.depths_split (h : m.Orderly limit) :
    m.callers.reverse.map Frame.depth = List.range m.callers.length ∧
      m.current.depth = m.callers.length := by
  have hall : m.callers.reverse.map Frame.depth ++ [m.current.depth]
      = List.range m.callers.length ++ [m.callers.length] := by
    calc m.callers.reverse.map Frame.depth ++ [m.current.depth]
        = m.frames.map Frame.depth := by rw [frames_eq, List.map_append]; rfl
      _ = List.range (m.callers.length + 1) := h.depths
      _ = List.range m.callers.length ++ [m.callers.length] := List.range_succ
  -- both lists end with one element, so they are equal part by part
  obtain ⟨hcallers, hcurrent⟩ := List.append_inj' hall rfl
  exact ⟨hcallers, List.head_eq_of_cons_eq hcurrent⟩

/-- The stack with another executing frame of the same depth and limit. Nothing is asked of the
frame but that it is sound. -/
theorem Orderly.replace (h : m.Orderly limit) {g : Frame} (hdepth : g.depth = m.current.depth)
    (hmax : g.maxDepth = m.current.maxDepth) (hsound : g.Sound) :
    ({ m with current := g } : Machine).Orderly limit := by
  refine ⟨?_, ?_, h.count, h.callers, hsound⟩
  · have hdepths := h.depths
    -- the executing frame is the last one, and only its depth counts here
    rw [frames_eq, List.map_append] at hdepths ⊢
    rw [List.map_singleton, hdepth]
    exact hdepths
  · intro f hf
    rw [frames_eq] at hf
    rcases List.mem_append.1 hf with hf | hf
    · exact h.limits f (mem_frames_of_mem_callers (List.mem_reverse.1 hf))
    · rw [List.mem_singleton.1 hf, hmax]
      exact h.limits m.current m.current_mem_frames

/-- The stack of one frame. -/
theorem Orderly.start {f : Frame} (hdepth : f.depth = 0) (hmax : f.maxDepth = limit)
    (hsound : f.Sound) : (start f).Orderly limit := by
  refine ⟨?_, ?_, Nat.le_add_right 1 limit, fun g hg => absurd hg List.not_mem_nil, hsound⟩
  · change [f.depth] = [0]
    rw [hdepth]
  · intro g hg
    rw [List.mem_singleton.1 (show g ∈ [f] from hg), hmax]

/-- The stack with the frame below the executing one on top, which has been given the returned
value. It has waited without a request or a fault, so it is sound. -/
theorem Orderly.pop (h : m.Orderly limit) {caller : Frame} {callers : List Frame}
    (hcallers : m.callers = caller :: callers) (v : Value) :
    ({ current := caller.logReply v, callers } : Machine).Orderly limit := by
  have hready : caller.Ready := h.callers caller (by rw [hcallers]; exact List.mem_cons_self)
  have hdepths := h.depths_split.1
  -- the depths of the callers end with that of the frame that comes on top
  rw [hcallers, List.reverse_cons, List.map_append] at hdepths
  have hcount := h.count
  refine ⟨?_, ?_, ?_, ?_, (hready.logReply v).sound⟩
  · rw [frames_eq, List.map_append]
    exact hdepths
  · intro f hf
    rw [frames_eq] at hf
    rcases List.mem_append.1 hf with hf | hf
    · refine h.limits f (mem_frames_of_mem_callers ?_)
      rw [hcallers]
      exact List.mem_cons_of_mem _ (List.mem_reverse.1 hf)
    · rw [List.mem_singleton.1 hf]
      refine h.limits caller (mem_frames_of_mem_callers ?_)
      rw [hcallers]
      exact List.mem_cons_self
  · unfold frameCount at hcount
    rw [hcallers, List.length_cons] at hcount
    change callers.length + 1 ≤ 1 + limit
    omega
  · intro f hf
    refine h.callers f ?_
    rw [hcallers]
    exact List.mem_cons_of_mem _ hf

/-- The stack with a further frame, if the limit admits one. The frame that was on top becomes a
caller, which is why it has to be free of requests and faults. -/
theorem Orderly.push (h : m.Orderly limit) (hready : m.current.Ready) {f : Frame} (hf : f.Ready)
    (hdeep : m.current.depth + 1 ≤ m.current.maxDepth) :
    ({ current := f.calledFrom m.current, callers := m.current :: m.callers } :
      Machine).Orderly limit := by
  have hdepth := h.depths_split.2
  have hmax : m.current.maxDepth = limit := h.limits m.current m.current_mem_frames
  refine ⟨?_, ?_, ?_, ?_, Frame.Ready.sound ⟨hf.awaiting, hf.failure, hf.finished⟩⟩
  · rw [frames_eq, List.map_append]
    change m.frames.map Frame.depth ++ [m.current.depth + 1] = List.range (m.frameCount + 1)
    rw [h.depths, List.range_succ, hdepth]
    rfl
  · intro g hg
    rw [frames_eq] at hg
    rcases List.mem_append.1 hg with hg | hg
    · exact h.limits g hg
    · rw [List.mem_singleton.1 hg]
      exact hmax
  · -- the frame on top is as deep as it has callers, and its own limit admits one more
    change m.callers.length + 1 + 1 ≤ 1 + limit
    omega
  · intro g hg
    rcases List.mem_cons.1 hg with rfl | hg
    · exact hready
    · exact h.callers g hg

/-- A fault that has aborted the machine discards all frames but the outermost one, whose request is
closed. The depth of that frame is zero, so it is a stack in order on its own. -/
theorem Orderly.unwind (h : m.Orderly limit) : m.unwind.Orderly limit := by
  rcases m.unwind_cases with ⟨-, heq⟩ | ⟨upper, root, hcallers, heq⟩
  · rw [heq]
    exact h
  · have hroot : root ∈ m.callers := by rw [hcallers]; simp
    have hready := h.callers root hroot
    have hdepths := h.depths_split.1
    -- the outermost frame is the first one in the order of depths
    have hzero : root.depth = 0 := by
      rw [hcallers, List.reverse_append, List.length_append, List.length_singleton,
        List.range_succ_eq_map] at hdepths
      exact List.head_eq_of_cons_eq hdepths
    rw [heq]
    refine .start hzero (h.limits root (mem_frames_of_mem_callers hroot)) ?_
    exact Frame.Ready.sound ⟨rfl, hready.failure, hready.finished⟩

/-- **A step of a machine** keeps the stack in order, and leaves a request open exactly if it has
asked it. -/
theorem Orderly.step (h : m.Orderly limit) :
    m.step.1.Orderly limit ∧
      ∀ r, m.step.1.pending? = some r ↔ m.step.2 = .ok (.suspended r) := by
  -- the executing frame has taken a step of its own, which stays or is followed by a return or by
  -- an unwinding
  have hframe := h.current.step
  rcases m.step_cases with ⟨g, progress, hg, hm⟩ | ⟨g, caller, callers, hg, hcallers, hm⟩ |
    ⟨g, fault, hg, -, hm⟩
  · rw [hg] at hframe
    rw [hm]
    refine ⟨h.replace hframe.depth hframe.maxDepth hframe.sound, fun r => ?_⟩
    refine (hframe.awaiting r).trans ?_
    constructor
    · rintro ⟨⟩
      rfl
    · rintro ⟨⟩
      rfl
  · -- the caller has no open request of its own
    have hready := h.callers caller (by rw [hcallers]; exact List.mem_cons_self)
    rw [hm]
    refine ⟨h.pop hcallers g.returnValue, fun r => ?_⟩
    change caller.awaiting = some r ↔ _
    rw [hready.awaiting]
    exact ⟨nofun, nofun⟩
  · rw [hg] at hframe
    rw [hm]
    -- first the frame is replaced, then the stack is unwound
    have hnew := h.replace hframe.depth hframe.maxDepth hframe.sound
    refine ⟨hnew.unwind, fun r => ?_⟩
    -- neither the frame that was stopped nor the outermost one has an open request
    have hnone : ({ m with current := g } : Machine).unwind.pending? = none := by
      rcases Machine.unwind_cases { m with current := g } with ⟨-, heq⟩ | ⟨upper, root, -, heq⟩
      · rw [heq]
        cases hopen : g.awaiting with
        | none => exact hopen
        | some r' => exact absurd ((hframe.awaiting r').1 hopen) nofun
      · rw [heq]
        rfl
    rw [hnone]
    exact ⟨nofun, nofun⟩

/-- Stepping a machine with an open request repeats the request and changes nothing. The host may
step as often as it likes before it answers. -/
theorem Orderly.step_pending (h : m.Orderly limit) {r : Request} (hr : m.pending? = some r) :
    m.step = (m, .ok (.suspended r)) := by
  -- beside the request the frame holds no fault, which would come first
  have hfailure : m.current.failure = none := by
    refine h.current.exclusive.resolve_left ?_
    rw [show m.current.awaiting = some r from hr]
    exact nofun
  exact step_of_ok (Frame.step_waiting hfailure hr)

/-- **An answer** keeps the stack in order, if the machine it may bring is at its beginning. An
answer that comes without a request is refused; any other one closes the request first. -/
theorem Orderly.resume (h : m.Orderly limit) {reply : Except Fault Reply}
    (hreply : ∀ n, reply = .ok (.frame n) → n.Fresh) : (m.resume reply).1.Orderly limit := by
  cases hopen : m.current.awaiting with
  | none =>
    rw [resume_refused reply hopen]
    exact h
  | some r =>
    have hready := h.current.ready_of_awaiting hopen
    -- from here on the request is closed, and the frame is free to work
    have hclosed := h.replace (g := { m.current with awaiting := none }) rfl rfl hready.sound
    -- a fault that is raised takes the place of the request
    have hraise : ∀ fault, ({ m with
        current := { m.current with awaiting := none }.raise fault } : Machine).Orderly limit := by
      intro fault
      refine h.replace rfl rfl ⟨.inl rfl, fun hfin => ?_⟩
      exact absurd (hready.finished.symm.trans hfin) nofun
    cases reply with
    | error fault =>
      rw [resume_error hopen]
      exact hraise fault
    | ok reply =>
      rw [resume_ok hopen]
      rcases deliver_cases { m with current := { m.current with awaiting := none } } r reply with
        ⟨v, heq⟩ | ⟨fault, -, heq⟩ | ⟨n, hframe, hdeep, heq⟩
      · rw [heq]
        exact h.replace rfl rfl (hready.logReply v).sound
      · rw [heq]
        exact hraise fault
      · -- a machine at its beginning is one more frame
        obtain ⟨f, rfl, hfresh⟩ := hreply n (by rw [hframe])
        rw [heq]
        exact hclosed.push hready hfresh.toReady hdeep

/-- Setting a variable from outside changes the outermost frame only, and of it neither the depth
nor what it holds open. -/
theorem Orderly.setLocal (h : m.Orderly limit) (name : String) (value : Value) :
    (m.setLocal name value).Orderly limit := by
  -- the outermost frame is the executing one, or the last of the callers
  rcases m.setLocal_cases name value with ⟨-, heq⟩ | ⟨upper, root, hcallers, heq⟩
  · rw [heq]
    exact h.replace rfl rfl ⟨h.current.exclusive, h.current.ended⟩
  · -- the outermost frame is replaced by one that differs from it in a variable only
    have hroot : root ∈ m.callers := by rw [hcallers]; simp
    have hupper : ∀ f ∈ upper, f ∈ m.callers := by
      intro f hf
      rw [hcallers]
      exact List.mem_append_left _ hf
    rw [heq]
    refine ⟨?_, ?_, ?_, ?_, h.current⟩
    · -- the depths are those of before, since a variable is no part of them
      have hdepths := h.depths
      rw [frames_eq, frameCount, hcallers] at hdepths
      rw [frames_eq, frameCount]
      simp only [List.reverse_append, List.map_append, List.length_append] at hdepths ⊢
      exact hdepths
    · intro f hf
      rw [frames_eq] at hf
      rcases List.mem_append.1 hf with hf | hf
      · rcases List.mem_append.1 (List.mem_reverse.1 hf) with hf | hf
        · exact h.limits f (mem_frames_of_mem_callers (hupper f hf))
        · rw [List.mem_singleton.1 hf]
          exact h.limits root (mem_frames_of_mem_callers hroot)
      · rw [List.mem_singleton.1 hf]
        exact h.limits m.current m.current_mem_frames
    · have hcount := h.count
      unfold frameCount at hcount ⊢
      rw [hcallers, List.length_append] at hcount
      rw [List.length_append]
      exact hcount
    · intro f hf
      rcases List.mem_append.1 hf with hf | hf
      · exact h.callers f (hupper f hf)
      · have hready := h.callers root hroot
        rw [List.mem_singleton.1 hf]
        exact ⟨hready.awaiting, hready.failure, hready.finished⟩

/-- An answer is accepted exactly if a request is open, whatever the answer is. Even an answer that
does not fit the request is accepted, and becomes a fault of the script. -/
theorem resume_ok_iff (m : Machine) (reply : Except Fault Reply) :
    (m.resume reply).2 = .ok () ↔ m.pending?.isSome := by
  unfold Machine.resume pending?
  cases hopen : m.current.awaiting with
  | none => exact ⟨nofun, nofun⟩
  | some r => cases reply <;> exact ⟨fun _ => rfl, fun _ => rfl⟩

/-- An answer that is refused changes nothing. It is refused only if no request is open. -/
theorem resume_eq_of_refused (m : Machine) {fault : Fault} {reply : Except Fault Reply}
    (h : (m.resume reply).2 = .error fault) : (m.resume reply).1 = m := by
  refine resume_refused reply ?_
  cases hopen : m.current.awaiting with
  | none => rfl
  | some r =>
    have hok := (m.resume_ok_iff reply).2 (by rw [pending?, hopen]; rfl)
    exact absurd (h.symm.trans hok) nofun

/-- Once an answer is accepted, no request is open. If a machine has been brought, its own frame
executes now, and the one that has asked is among the callers. -/
theorem pending?_resume (m : Machine) {reply : Except Fault Reply}
    (hreply : ∀ n, reply = .ok (.frame n) → n.Fresh) (hok : (m.resume reply).2 = .ok ()) :
    (m.resume reply).1.pending? = none := by
  obtain ⟨r, hopen⟩ := Option.isSome_iff_exists.1 ((m.resume_ok_iff reply).1 hok)
  change m.current.awaiting = some r at hopen
  cases reply with
  | error fault =>
    rw [resume_error hopen]
    rfl
  | ok reply =>
    rw [resume_ok hopen]
    rcases deliver_cases { m with current := { m.current with awaiting := none } } r reply with
      ⟨v, heq⟩ | ⟨fault, -, heq⟩ | ⟨n, hframe, -, heq⟩
    · rw [heq]
      rfl
    · rw [heq]
      rfl
    · -- the machine that is brought is now the one that executes, and it has asked nothing yet
      obtain ⟨f, rfl, hfresh⟩ := hreply n (by rw [hframe])
      rw [heq]
      exact hfresh.awaiting

/-- Setting a variable opens no request and closes none. -/
theorem pending?_setLocal (m : Machine) (name : String) (value : Value) :
    (m.setLocal name value).pending? = m.pending? := by
  rcases m.setLocal_cases name value with ⟨-, heq⟩ | ⟨upper, root, -, heq⟩ <;> rw [heq] <;> rfl

end Machine

/-! ### Conversations -/

/-- What can be done with a machine from outside: one step, a run of at most `n` steps, an answer or
a fault in place of one, and a new value for a variable. -/
inductive Operation where
  | step
  | run (n : Nat)
  | resume (reply : Except Fault Reply)
  | setLocal (name : String) (value : Value)

/-- A machine that the operation brings is at its beginning. Operations that bring none satisfy
this. -/
def Operation.BringsFresh (op : Operation) : Prop := ∀ n, op = .resume (.ok (.frame n)) → n.Fresh

/-- A machine and what its host has seen of it. The host sees requests and whether its answers are
accepted, and nothing of the frames. -/
structure Conversation where
  machine : Machine
  /-- The last request that a step has returned. -/
  asked : Option Request := none
  /-- Whether an answer has been accepted since. -/
  answered : Bool := false

namespace Conversation

/-- Takes note of what steps have come to. A request that they return is the last one asked, and not
answered yet. -/
def hear (c : Conversation) : Machine × Except Fault Step → Conversation
  | (m, .ok (.suspended r)) => { machine := m, asked := some r, answered := false }
  | (m, _) => { c with machine := m }

/-- Takes note of whether an answer has been accepted. One that is refused leaves what was seen as
it is. -/
def settle (c : Conversation) : Machine × Except Fault Unit → Conversation
  | (m, .ok ()) => { c with machine := m, answered := true }
  | (m, .error _) => { c with machine := m }

/-- The conversation after one more operation. Steps and runs are heard, and answers are settled. -/
def perform (c : Conversation) : Operation → Conversation
  | .step => c.hear c.machine.step
  | .run n => c.hear (c.machine.run n)
  | .resume reply => c.settle (c.machine.resume reply)
  | .setLocal name value => { c with machine := c.machine.setLocal name value }

/-- The conversation with a machine of one frame after some operations, the first one first. -/
def after (f : Frame) (ops : List Operation) : Conversation :=
  ops.foldl perform { machine := .start f }

/-- The invariant: what the host has seen is all there is to know about the open request. It is the
last one asked, unless that has been answered. -/
structure Inv (limit : Nat) (c : Conversation) : Prop where
  orderly : c.machine.Orderly limit
  pending : c.machine.pending? = if c.answered then none else c.asked

variable {c : Conversation} {limit : Nat}

/-- A step keeps the invariant: it repeats an open request, and otherwise what it returns is what it
leaves open. -/
theorem Inv.step (h : c.Inv limit) : (c.hear c.machine.step).Inv limit := by
  obtain ⟨horderly, hpending⟩ := h.orderly.step
  cases hopen : c.machine.pending? with
  | some r =>
    -- the request is repeated, so the host hears what it has heard already
    rw [h.orderly.step_pending hopen]
    exact ⟨h.orderly, hopen⟩
  | none =>
    -- nothing is open, so either nothing was asked or it has been answered
    have hseen := h.pending.symm.trans hopen
    rcases hstep : c.machine.step with ⟨m, result⟩
    rw [hstep] at horderly hpending
    -- a step that asks nothing leaves nothing open, and nothing was open before
    have hquiet : (∀ r, result ≠ .ok (.suspended r)) → m.pending? = none := by
      intro hresult
      cases hm : m.pending? with
      | none => rfl
      | some r => exact absurd ((hpending r).1 hm) (hresult r)
    rcases result with fault | progress
    · exact ⟨horderly, (hquiet fun _ => nofun).trans hseen.symm⟩
    · cases progress with
      | continued => exact ⟨horderly, (hquiet fun _ => nofun).trans hseen.symm⟩
      | suspended r => exact ⟨horderly, (hpending r).2 rfl⟩

/-- Hearing of a run of several steps is hearing of the first one and then of the rest. The host is
told of the last step only, but those before it have nothing to tell. -/
theorem hear_run_succ (c : Conversation) (n : Nat) :
    c.hear (c.machine.run (n + 1)) =
      match c.machine.step.2 with
      | .ok .continued => (c.hear c.machine.step).hear ((c.hear c.machine.step).machine.run n)
      | _ => c.hear c.machine.step := by
  rw [Machine.run]
  rcases c.machine.step with ⟨m, (fault | progress)⟩
  · rfl
  · cases progress with
    | suspended r => rfl
    | continued =>
      change c.hear (m.run n) = Conversation.hear { c with machine := m } (m.run n)
      rcases m.run n with ⟨m', (fault | progress)⟩
      · rfl
      · cases progress <;> rfl

/-- So does a run of any number of steps, which ends early when a step does not just go on. The
induction is on the number of steps. -/
theorem Inv.run (h : c.Inv limit) (n : Nat) : (c.hear (c.machine.run n)).Inv limit := by
  induction n generalizing c with
  | zero => exact h
  | succ n ih =>
    rw [hear_run_succ]
    split
    · exact ih h.step
    · exact h.step

/-- An answer keeps the invariant, whether it is accepted or refused. The host takes its request for
answered in the first case only. -/
theorem Inv.resume (h : c.Inv limit) {reply : Except Fault Reply}
    (hreply : ∀ n, reply = .ok (.frame n) → n.Fresh) :
    (c.settle (c.machine.resume reply)).Inv limit := by
  have horderly := h.orderly.resume hreply
  rcases hresult : c.machine.resume reply with ⟨m, (fault | _)⟩
  · -- refused: the machine is the same, and so is what was seen of it
    have hrefused : (c.machine.resume reply).2 = .error fault := by rw [hresult]
    have hsame := c.machine.resume_eq_of_refused hrefused
    rw [hresult] at hsame
    obtain rfl : m = c.machine := hsame
    exact h
  · -- accepted: no request is open, and the host knows that it has answered
    have hok : (c.machine.resume reply).2 = .ok () := by rw [hresult]
    have hpending := c.machine.pending?_resume hreply hok
    rw [hresult] at horderly hpending
    exact ⟨horderly, hpending⟩

/-- **Every operation keeps the invariant.** The cases are the operations; a variable that is set is
no part of what is seen. -/
theorem Inv.perform (h : c.Inv limit) {op : Operation} (hop : op.BringsFresh) :
    (c.perform op).Inv limit := by
  cases op with
  | step => exact h.step
  | run n => exact h.run n
  | resume reply => exact h.resume fun n hn => hop n (by rw [hn])
  | setLocal name value =>
    refine ⟨h.orderly.setLocal name value, ?_⟩
    exact (c.machine.pending?_setLocal name value).trans h.pending

/-- **Any operations keep the invariant**, by induction on their list. -/
theorem Inv.operations (h : c.Inv limit) {ops : List Operation}
    (hops : ∀ op ∈ ops, op.BringsFresh) : (ops.foldl Conversation.perform c).Inv limit := by
  induction ops generalizing c with
  | nil => exact h
  | cons op ops ih =>
    refine ih (h.perform (hops op List.mem_cons_self)) fun op' hop' => ?_
    exact hops op' (List.mem_cons_of_mem _ hop')

/-- **The frames and the protocol.** Start a machine with a fresh frame, and step it, run it, answer
it and set its variables in any order; machines brought by answers are at their beginning. The stack
is in order, with the limit of the first frame. A request is open exactly if it is the last one a
step has returned and no answer has been accepted since; stepping then repeats it and changes
nothing. An answer is accepted exactly if a request is open, and one that is refused changes
nothing. -/
theorem protocol {f : Frame} (hfresh : f.Fresh) (houtermost : f.depth = 0) (ops : List Operation)
    (hops : ∀ op ∈ ops, op.BringsFresh) :
    let c := Conversation.after f ops
    let m := c.machine
    m.Orderly f.maxDepth ∧
    m.pending? = (if c.answered then none else c.asked) ∧
    (∀ r, m.pending? = some r → m.step = (m, .ok (.suspended r))) ∧
    (∀ reply, (m.resume reply).2 = .ok () ↔ m.pending?.isSome) ∧
    (∀ reply fault, (m.resume reply).2 = .error fault → (m.resume reply).1 = m) := by
  intro c m
  have hstart : Inv f.maxDepth { machine := Machine.start f } :=
    ⟨.start houtermost rfl hfresh.toReady.sound, hfresh.awaiting⟩
  have hinv : c.Inv f.maxDepth := hstart.operations hops
  refine ⟨hinv.orderly, hinv.pending, fun r hr => hinv.orderly.step_pending hr, ?_, ?_⟩
  · exact m.resume_ok_iff
  · exact fun reply fault hrefused => m.resume_eq_of_refused hrefused

/-- A frame that calls a verb, and may be the only one below another. -/
def relay : Frame :=
  { owner := ⟨1⟩, script := [.call ⟨"relay", none, none, none, []⟩], maxDepth := 1 }

/-- A call that is answered with a frame that calls again, with an answer too much in between: two
frames are as many as the limit admits, and the inner one has an open request. -/
theorem relay_protocol :
    let ops := [.resume (.ok .done), .run 3, .resume (.ok (.frame (.start relay))),
      .setLocal "mood" .null, .step]
    let m := (Conversation.after relay ops).machine
    m.frameCount = 2 ∧ m.pending?.map Request.ask = some (.call "relay") ∧ m.Orderly 1 ∧
      ∀ r, m.pending? = some r → m.step = (m, .ok (.suspended r)) := by
  intro ops m
  have hrelay : relay.Fresh := ⟨⟨rfl, rfl, rfl⟩, rfl, rfl, rfl⟩
  have hops : ∀ op ∈ ops, op.BringsFresh := by
    intro op hop n hn
    subst hn
    -- the only machine among the operations is the one of `relay`
    have heq : n = .start relay := by simpa [ops] using hop
    rw [heq]
    exact Machine.fresh_start hrelay
  obtain ⟨horderly, -, hstep, -⟩ := protocol hrelay rfl ops hops
  exact ⟨rfl, rfl, horderly, hstep⟩

end Conversation

end VerbScript
