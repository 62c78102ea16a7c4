import VerbScript.Proofs.Agreement
import VerbScript.Proofs.TraceHistories

/-!
# What a tick records

An enabled tracer without a filter records every event, and its buffer holds them all as long as
they are no more than its capacity. This module says which events these are, tick by tick.

* `Tracer.Records capacity past tracer` — the tracer has recorded the events `past`.
  `Tracer.Records.recordAt` adds one, and `Tracer.Records.trace_eq` reads them in the buffer.
* `Task.Tells t host events` — the next tick of the task records the events, with what this says of
  the stack of frames. There is one case for each thing that a tick can do.
* `Task.tick_tells` — the inversion lemma of a tick for all that it records.
-/

namespace VerbScript

/-! ### Recording -/

/-- Recorded events, oldest first, each with the tick it is stamped with. The numbers of the records
are left out, since they tell no more than the order does. -/
abbrev Trace : Type := List (Nat × TraceEvent)

/-- The events that a buffer holds. It may have dropped older ones. -/
def TraceBuffer.trace (b : TraceBuffer) : Trace := b.records.map fun r => (r.tick, r.event)

variable {capacity : Nat} {past : Trace}

/-- **The tracer has recorded the events** and goes on recording. Its buffer holds them all if they
are no more than its capacity. Beyond that only their number is known, which is enough to tell from
the buffer itself that it has overflowed. -/
structure Tracer.Records (capacity : Nat) (past : Trace) (tracer : Tracer) : Prop where
  enabled : tracer.enabled = true
  unfiltered : tracer.filter = []
  size : tracer.buffer.capacity = capacity
  count : tracer.buffer.nextId = past.length
  held : past.length ≤ capacity →
    tracer.buffer.newest.reverse.map (fun r => (r.tick, r.event)) = past

namespace Tracer

variable {tracer : Tracer}

/-- An enabled tracer without a filter has recorded nothing before its first event. -/
theorem Records.start (henabled : tracer.enabled = true) (hfilter : tracer.filter = [])
    (hbuffer : tracer.buffer = { capacity }) : tracer.Records capacity [] := by
  refine ⟨henabled, hfilter, ?_, ?_, fun _ => ?_⟩ <;> rw [hbuffer] <;> rfl

/-- If all events fit, the buffer has one record for each. -/
theorem Records.length_newest (h : tracer.Records capacity past) (hfits : past.length ≤ capacity) :
    tracer.buffer.newest.length = past.length := by
  calc tracer.buffer.newest.length
      = (tracer.buffer.newest.reverse.map fun r => (r.tick, r.event)).length := by
        rw [List.length_map, List.length_reverse]
    _ = past.length := by rw [h.held hfits]

/-- **An event is recorded** behind all others, at the tick that is given. The tracer has to be
enabled and to admit everything. -/
theorem Records.recordAt (h : tracer.Records capacity past) (tick : Nat) (event : TraceEvent) :
    (tracer.recordAt tick event).Records capacity (past ++ [(tick, event)]) := by
  -- the tracer is enabled and has no filter, so the event goes to the buffer
  have hrecord : tracer.recordAt tick event = ({ tracer with tick } : Tracer).record event :=
    if_pos h.enabled
  have hbuffer : (tracer.recordAt tick event).buffer = tracer.buffer.push tick event := by
    rw [hrecord, record_buffer]
    exact if_pos ⟨h.enabled, .inl h.unfiltered⟩
  have hlength : (past ++ [(tick, event)]).length = past.length + 1 := List.length_append
  refine ⟨?_, ?_, ?_, ?_, fun hfits => ?_⟩
  · rw [hrecord, record_enabled]
    exact h.enabled
  · rw [hrecord, record_filter]
    exact h.unfiltered
  · rw [hbuffer, TraceBuffer.push_capacity, h.size]
  · rw [hbuffer, TraceBuffer.push_nextId, h.count, hlength]
  · -- nothing is dropped, because all events fit
    have hnewest : (tracer.buffer.push tick event).newest
        = ⟨tracer.buffer.nextId, tick, event⟩ :: tracer.buffer.newest := by
      -- where the buffer is cut, it keeps as many records as fit, and there are no more of them
      unfold TraceBuffer.push
      dsimp only
      split
      · rfl
      · refine List.take_of_length_le ?_
        rw [List.length_cons, h.length_newest (by omega), h.size]
        omega
    rw [hbuffer, hnewest, List.reverse_cons, List.map_append, h.held (by omega)]
    rfl

/-- **The buffer holds what has been recorded**, if it has not overflowed: the number of the next
record tells how many there have been. -/
theorem Records.trace_eq (h : tracer.Records capacity past)
    (hfits : tracer.buffer.nextId ≤ tracer.buffer.capacity) : tracer.buffer.trace = past := by
  rw [h.count, h.size] at hfits
  unfold TraceBuffer.trace TraceBuffer.records
  -- nothing is hidden, since there are no more records than there is room for
  rw [List.take_of_length_le]
  · exact h.held hfits
  · rw [h.length_newest hfits, h.size]
    exact hfits

end Tracer

/-! ### The stack -/

namespace Machine

variable {m : Machine} {limit : Nat} {r : Request}

/-- The depth of the frame below the executing one: depths count the frames from the outermost
one. -/
theorem Orderly.caller_depth (h : m.Orderly limit) {caller : Frame} {callers : List Frame}
    (hcallers : m.callers = caller :: callers) : caller.depth = callers.length := by
  have hdepths := h.depths_split.1
  rw [hcallers, List.reverse_cons, List.map_append, List.length_cons, List.range_succ] at hdepths
  exact List.head_eq_of_cons_eq (List.append_inj' hdepths rfl).2

/-- A step that asks something leaves the stack as it is, with the request open. So the depth that
is recorded for the request is the one of the frame that asks. -/
theorem Orderly.suspended (h : m.Orderly limit) (hstep : m.step.2 = .ok (.suspended r)) :
    m.step.1.callers = m.callers ∧ m.step.1.current.depth = m.current.depth ∧
      m.step.1.current.awaiting = some r := by
  have hopen := (h.step.2 r).2 hstep
  have hdepth := h.current.step.depth
  -- a step with which a script returns or fails asks nothing
  rcases m.step_cases with ⟨g, progress, hg, hm⟩ | ⟨g, caller, callers, -, -, hm⟩ |
    ⟨g, fault, -, -, hm⟩
  · rw [hg] at hdepth
    rw [hm] at hopen ⊢
    exact ⟨rfl, hdepth, hopen⟩
  · rw [hm] at hstep
    cases hstep
  · rw [hm] at hstep
    cases hstep

/-- **What an answer does to the stack**: nothing, unless it brings the machine of a verb. Agreeable
hosts bring machines at their beginning, so one frame is pushed, one level deeper. -/
theorem resume_stack (hopen : m.current.awaiting = some r) {reply : Except Fault Reply}
    (hfits : ∀ a, reply = .ok a → r.Admits a) :
    (m.resume reply).1.callers = m.callers ∨
      ∃ object args n, r = .call object args ∧ reply = .ok (.frame n) ∧
        (m.resume reply).1.callers = { m.current with awaiting := none } :: m.callers ∧
        (m.resume reply).1.current.depth = m.current.depth + 1 := by
  cases reply with
  | error fault =>
    rw [resume_error hopen]
    exact .inl rfl
  | ok a =>
    rw [resume_ok hopen]
    rcases deliver_cases { m with current := { m.current with awaiting := none } } r a with
      ⟨v, heq⟩ | ⟨fault, -, heq⟩ | ⟨n, rfl, -, heq⟩
    · rw [heq]
      exact .inl rfl
    · rw [heq]
      exact .inl rfl
    · -- only a call may be answered with a machine
      have hadmits := hfits _ rfl
      obtain ⟨f, rfl, -⟩ := hadmits.fresh
      rw [heq]
      cases r with
      | call object args => exact .inr ⟨object, args, .start f, rfl, rfl, rfl, rfl⟩
      | getProp object name => cases hadmits
      | setProp object name value => cases hadmits
      | resolveAlias name => cases hadmits

end Machine

namespace Task

variable {t : Task} {limit : Nat}

/-- The tracer of the task has recorded the events. So there has to be one. -/
def Records (capacity : Nat) (past : Trace) (t : Task) : Prop :=
  ∃ tracer, t.tracer = some tracer ∧ tracer.Records capacity past

/-- An event of a task is recorded with the number of ticks as its stamp. The tracer is switched on
and admits every event, so none is left out. -/
theorem Records.trace (h : t.Records capacity past) (event : Unit → TraceEvent) :
    (t.trace event).Records capacity (past ++ [(t.ticks, event ())]) := by
  obtain ⟨tracer, htracer, hrecords⟩ := h
  refine ⟨_, ?_, hrecords.recordAt t.ticks (event ())⟩
  unfold Task.trace
  rw [htracer]
  dsimp only
  rw [if_pos hrecords.enabled]

/-- A step that does not return from a script is recorded by itself. The number of frames is
compared with the one before the step. -/
theorem Records.traceStep_moved (h : t.Records capacity past) (framesBefore : Nat)
    (hcount : framesBefore ≤ t.machine.frameCount) :
    (t.traceStep framesBefore).Records capacity
      (past ++ [(t.ticks, .step t.machine.current.depth t.machine.current.path)]) := by
  unfold Task.traceStep
  dsimp only
  rw [if_neg (Nat.not_lt.2 hcount)]
  exact h.trace _

/-- If there are fewer frames than before, the return of a verb is recorded before the step. Its
depth is that of the frame that has gone, one above its caller. -/
theorem Records.traceStep_returned (h : t.Records capacity past) (framesBefore : Nat)
    (hcount : t.machine.frameCount < framesBefore) {value : Value}
    (hvalue : t.machine.lastReply? = some value) :
    (t.traceStep framesBefore).Records capacity (past ++
      [(t.ticks, .frameReturned (t.machine.current.depth + 1) value),
        (t.ticks, .step t.machine.current.depth t.machine.current.path)]) := by
  unfold Task.traceStep
  dsimp only
  rw [if_pos hcount, hvalue, trace_machine]
  -- the two events carry the same stamp
  have hstep := (h.trace fun _ => .frameReturned (t.machine.current.depth + 1) value).trace
    fun _ => .step t.machine.current.depth t.machine.current.path
  rw [trace_ticks, List.append_assoc] at hstep
  exact hstep

variable {σ : Type} [Host σ] {host : σ} {r : Request}

/-- The task with a request and the answer to it recorded. The answer has not reached the machine
yet. -/
def conversed (t : Task) (host : σ) (r : Request) : Task :=
  (t.trace fun _ => .request t.machine.current.depth r.display).trace
    fun _ => .reply (replyKind (Host.serve host r).2)

/-- The two are recorded in this order, with the stamp of the tick. The request is recorded before
it is served, so its depth is that of the frame that has asked. -/
theorem Records.conversed (h : t.Records capacity past) (host : σ) (r : Request) :
    (t.conversed host r).Records capacity (past ++
      [(t.ticks, .request t.machine.current.depth r.display),
        (t.ticks, .reply (replyKind (Host.serve host r).2))]) := by
  have hreply := (h.trace fun _ => .request t.machine.current.depth r.display).trace
    fun _ => .reply (replyKind (Host.serve host r).2)
  rw [trace_ticks, List.append_assoc] at hreply
  exact hreply

/-- **Serving, event by event**: the request, the answer and, if there are more frames than before,
the verb that is entered. -/
theorem serve_eq (t : Task) (host : σ) (r : Request) :
    (t.serve host r).1 =
      if (t.machine.resume (Host.serve host r).2).2.isOk &&
          t.machine.frameCount < (t.machine.resume (Host.serve host r).2).1.frameCount then
        { t.conversed host r with machine := (t.machine.resume (Host.serve host r).2).1 }.trace
          fun _ => .framePushed (requestVerb r)
            (t.machine.resume (Host.serve host r).2).1.current.depth
      else { t.conversed host r with machine := (t.machine.resume (Host.serve host r).2).1 } := by
  unfold serve conversed
  simp only [trace_machine]

/-- If an answer brings no frame, the request and the answer are all that is recorded. -/
theorem Records.serve_answered (h : t.Records capacity past)
    (hcount : (t.machine.resume (Host.serve host r).2).1.frameCount ≤ t.machine.frameCount) :
    (t.serve host r).1.Records capacity (past ++
      [(t.ticks, .request t.machine.current.depth r.display),
        (t.ticks, .reply (replyKind (Host.serve host r).2))]) := by
  rw [serve_eq, if_neg (by rw [Bool.and_eq_true, decide_eq_true_eq]; omega)]
  exact h.conversed host r

/-- If there are more frames than before, the verb that is entered is recorded after the answer. Its
depth is that of the new frame. -/
theorem Records.serve_called (h : t.Records capacity past)
    (haccepted : (t.machine.resume (Host.serve host r).2).2 = .ok ())
    (hcount : t.machine.frameCount < (t.machine.resume (Host.serve host r).2).1.frameCount) :
    (t.serve host r).1.Records capacity (past ++
      [(t.ticks, .request t.machine.current.depth r.display),
        (t.ticks, .reply (replyKind (Host.serve host r).2)),
        (t.ticks, .framePushed (requestVerb r)
          (t.machine.resume (Host.serve host r).2).1.current.depth)]) := by
  -- both conditions for the third event hold
  have hpushes : ((t.machine.resume (Host.serve host r).2).2.isOk &&
      t.machine.frameCount < (t.machine.resume (Host.serve host r).2).1.frameCount) = true := by
    rw [haccepted, Bool.and_eq_true, decide_eq_true_eq]
    exact ⟨rfl, hcount⟩
  rw [serve_eq, if_pos hpushes]
  -- the machine that has taken the answer is traced like the one before
  have hpushed := Records.trace
    (t := { t.conversed host r with machine := (t.machine.resume (Host.serve host r).2).1 })
    (h.conversed host r) fun _ => .framePushed (requestVerb r)
      (t.machine.resume (Host.serve host r).2).1.current.depth
  have hticks : (t.conversed host r).ticks = t.ticks := by
    unfold Task.conversed
    rw [trace_ticks, trace_ticks]
  rw [hticks, List.append_assoc] at hpushed
  exact hpushed

/-- **What the next tick records**, by what it does, if the limit admits it. Each case says beside
its events what becomes of the stack of frames, so that a trace can be read back into a history of
calls. -/
inductive Tells (t : Task) (host : σ) : List TraceEvent → Prop where
  | moved (path : Path) (same : (t.tick host).1.machine.callers = t.machine.callers) :
      Tells t host [.step t.machine.current.depth path]
  /-- The executing frame ends, and its result is returned to the frame below it. -/
  | returned {g caller : Frame} {callers : List Frame}
      (ends : t.machine.current.step = (g, .error .endOfScript))
      (stack : t.machine.callers = caller :: callers)
      (popped : (t.tick host).1.machine.callers = callers) :
      Tells t host
        [.frameReturned (caller.depth + 1) g.returnValue, .step caller.depth caller.path]
  | answered {r : Request} (asked : t.request? = some r)
      (same : (t.tick host).1.machine.callers = t.machine.callers) :
      Tells t host [.request t.machine.current.depth r.display,
        .reply (replyKind (Host.serve host r).2)]
  /-- A verb is entered. -/
  | called {object : ObjectId} {args : CallArgs} {caller : Frame}
      (asked : t.request? = some (.call object args))
      (pushed : (t.tick host).1.machine.callers = caller :: t.machine.callers) :
      Tells t host [.request t.machine.current.depth (Request.call object args).display,
        .reply "frame", .framePushed args.verb (t.machine.current.depth + 1)]
  | finished (alone : t.machine.callers = [])
      (same : (t.tick host).1.machine.callers = t.machine.callers) :
      Tells t host [.finished (t.ticks + 1)]
  /-- All frames but the outermost are given up. -/
  | failed {fault : Fault} (alone : (t.tick host).1.machine.callers = []) :
      Tells t host [.error fault.message]

/-! ### Ticks -/

/-- The tick of a step that asks nothing and goes on. The step may be one of the executing frame, or
its last one, with which the frame below takes over. -/
theorem Records.tick_continued (h : t.machine.Settled limit) (hrecords : t.Records capacity past)
    (hlimit : t.exhausted = false) (hstep : t.machine.step.2 = .ok .continued) :
    ∃ events, t.Tells host events ∧
      (t.tick host).1.Records capacity (past ++ events.map (t.ticks + 1, ·)) := by
  have htick : (t.tick host).1 = t.stepped.traceStep t.machine.frameCount := by
    rw [tick_eq host hlimit, hstep]
  have hmachine : (t.tick host).1.machine = t.machine.step.1 := by
    rw [htick, traceStep_machine]
    rfl
  have hstepped : t.stepped.Records capacity past := hrecords
  rcases t.machine.step_cases with ⟨g, progress, hg, hm⟩ | ⟨g, caller, callers, hg, hcallers, hm⟩ |
    ⟨g, fault, -, -, hm⟩
  · -- the executing frame goes on
    have hdepth := h.orderly.current.step.depth
    rw [hg] at hdepth
    have hnew : t.stepped.machine = { t.machine with current := g } := congrArg Prod.fst hm
    refine ⟨_, .moved g.path ?_, ?_⟩
    · rw [hmachine, hm]
    · rw [htick]
      have hmoved := hstepped.traceStep_moved t.machine.frameCount
        (by rw [hnew]; exact Nat.le_refl _)
      rw [hnew] at hmoved
      rw [← show g.depth = t.machine.current.depth from hdepth]
      exact hmoved
  · -- the executing frame has come to its end
    have hnew : t.stepped.machine = Machine.returnTo caller callers g.returnValue :=
      congrArg Prod.fst hm
    refine ⟨_, .returned hg hcallers ?_, ?_⟩
    · rw [hmachine, hm]
    · rw [htick]
      have hcount : t.stepped.machine.frameCount < t.machine.frameCount := by
        rw [hnew]
        unfold Machine.frameCount
        rw [hcallers]
        exact Nat.lt_succ_self _
      have hvalue : t.stepped.machine.lastReply? = some g.returnValue := by
        rw [hnew]
        exact List.getLast?_concat
      have hreturned := hstepped.traceStep_returned t.machine.frameCount hcount hvalue
      rw [hnew] at hreturned
      exact hreturned
  · rw [hm] at hstep
    cases hstep

/-- The tick of a step that asks something. The answer either leaves the stack as it is or brings
one frame. -/
theorem Records.tick_suspended (hhost : Host.Agrees σ) (h : t.machine.Settled limit)
    (hrecords : t.Records capacity past) (hlimit : t.exhausted = false)
    (hstep : t.machine.step.2 = .ok (.suspended r)) :
    ∃ events, t.Tells host events ∧
      (t.tick host).1.Records capacity (past ++ events.map (t.ticks + 1, ·)) := by
  have hasked : t.request? = some r := by rw [request?_eq hlimit, hstep]
  have htick : (t.tick host).1 = (t.stepped.serve host r).1 := by
    rw [tick_eq host hlimit, hstep]
  have hmachine := (tick_machine_served host hasked).1
  have hstepped : t.stepped.Records capacity past := hrecords
  obtain ⟨hcallers, hdepth, hopen⟩ := h.orderly.suspended hstep
  have hdepth' : t.stepped.machine.current.depth = t.machine.current.depth := hdepth
  -- the step itself has not changed the stack, so what the answer does is what the tick does
  rcases Machine.resume_stack hopen (hhost.fits host r) with hsame |
    ⟨object, args, f, rfl, hreply, hpushed, hcallee⟩
  · refine ⟨_, .answered hasked ?_, ?_⟩
    · rw [hmachine, hsame, hcallers]
    · rw [htick, ← hdepth']
      refine hstepped.serve_answered ?_
      show (t.machine.step.1.resume _).1.callers.length + 1 ≤ t.machine.step.1.callers.length + 1
      rw [hsame]
  · -- the frame that has asked is below the new one now
    have htop : (t.tick host).1.machine.callers
        = { t.machine.step.1.current with awaiting := none } :: t.machine.callers := by
      rw [hmachine, hpushed, hcallers]
    have haccepted := (h.resume hstep (hhost.fits host _) (hhost.ordinary host _)).1
    have hcount : t.stepped.machine.frameCount
        < (t.stepped.machine.resume (Host.serve host (.call object args)).2).1.frameCount := by
      show t.machine.step.1.callers.length + 1 < (t.machine.step.1.resume _).1.callers.length + 1
      rw [hpushed, List.length_cons]
      exact Nat.lt_succ_self _
    have hcalled := hstepped.serve_called haccepted hcount
    have hnew : (t.stepped.machine.resume (Host.serve host (.call object args)).2).1.current.depth
        = t.machine.current.depth + 1 := hcallee.trans (congrArg (· + 1) hdepth)
    rw [hnew, hdepth', hreply] at hcalled
    refine ⟨_, .called hasked htop, ?_⟩
    rw [htick]
    exact hcalled

/-- **What a tick of a settled task records**, if the limit admits it. Which case applies is decided
by the outcome of the step. -/
theorem tick_tells (hhost : Host.Agrees σ) (h : t.machine.Settled limit)
    (hrecords : t.Records capacity past) (hlimit : t.exhausted = false) (host : σ) :
    ∃ events, t.Tells host events ∧
      (t.tick host).1.Records capacity (past ++ events.map (t.ticks + 1, ·)) := by
  have hstepped : t.stepped.Records capacity past := hrecords
  cases hstep : t.machine.step.2 with
  | ok progress =>
    cases progress with
    | continued => exact hrecords.tick_continued h hlimit hstep
    | suspended r => exact hrecords.tick_suspended hhost h hlimit hstep
  | error fault =>
    have hfault : t.machine.step = (t.machine.step.1, .error fault) := Prod.ext rfl hstep
    by_cases hend : fault = .endOfScript
    · -- the end of the script is recorded with the number of ticks that it took
      subst hend
      have hnil := (Machine.step_end hstep).1
      refine ⟨_, .finished hnil ?_, ?_⟩
      · rw [(tick_finished host hlimit hfault).1, Machine.step_error_callers hstep, hnil]
      · rw [tick_eq host hlimit, hstep]
        exact hstepped.trace _
    · -- any other fault gives up all frames but the outermost
      have htick : (t.tick host).1 = t.stepped.trace fun _ => .error fault.message := by
        rw [tick_eq host hlimit, hstep]
        cases fault with
        | endOfScript => exact absurd rfl hend
        | _ => rfl
      have halone : (t.tick host).1.machine.callers = [] := by
        rw [(tick_faulted host hlimit hfault hend).1]
        exact Machine.step_error_callers hstep
      refine ⟨[.error fault.message], .failed halone, ?_⟩
      rw [htick]
      exact hstepped.trace _

end Task

end VerbScript
