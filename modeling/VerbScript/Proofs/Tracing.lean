import VerbScript.Proofs.Ticks

/-!
# Tracing is inert

A tracer watches a task and nothing else: whether there is one, whether it is enabled, what its
filter admits and how much its buffer holds decides what is recorded, and never what the task does.
The argument is by erasure.

* `Task.untraced` — the task with its tracer taken away.
* `Task.trace_untraced`, `Task.traceStep_untraced`, `Task.serve_untraced` — each place of a tick at
  which an event is recorded is erased to a place at which nothing happens.
* `Task.tick_untraced`, `Task.tickTimes_untraced` — a tick of the erased task is the erased tick,
  and so are any number of ticks.
* `Task.tickTimes_inert` — two runs of a task under different tracers cannot be told apart by what
  their ticks return, by the ticks counted, by the machine or by the host.
-/

namespace VerbScript

namespace Task

variable {σ : Type} [Host σ]

/-- The task with its tracer taken away. Two tasks that differ in their tracers only are the same
without them. -/
def untraced (t : Task) : Task := { t with tracer := none }

/-- The tracer is no part of what is stepped and counted. -/
@[simp] theorem untraced_machine (t : Task) : t.untraced.machine = t.machine := rfl

@[simp] theorem untraced_ticks (t : Task) : t.untraced.ticks = t.ticks := rfl

@[simp] theorem untraced_limit (t : Task) : t.untraced.limit = t.limit := rfl

/-- A task without a tracer is known by its machine, its ticks and its limit, since these are all
that is left of it. -/
theorem eq_untraced {t t' : Task} (hmachine : t.machine = t'.machine) (hticks : t.ticks = t'.ticks)
    (hlimit : t.limit = t'.limit) (htracer : t.tracer = none) : t = t'.untraced := by
  obtain ⟨machine, ticks, limit, tracer⟩ := t
  subst hmachine hticks hlimit htracer
  rfl

/-- Nothing is recorded without a tracer. -/
@[simp] theorem untraced_trace (t : Task) (event : Unit → TraceEvent) :
    t.untraced.trace event = t.untraced := rfl

/-! ### The places where events are recorded -/

/-- What is recorded is erased with the tracer that has recorded it. -/
@[simp] theorem trace_untraced (t : Task) (event : Unit → TraceEvent) :
    (t.trace event).untraced = t.untraced := by
  rw [trace_eq]
  rfl

/-- So is what is recorded of a step. -/
@[simp] theorem traceStep_untraced (t : Task) (framesBefore : Nat) :
    (t.traceStep framesBefore).untraced = t.untraced := by
  rw [traceStep_eq]
  rfl

/-- An erased task records nothing of a step. -/
@[simp] theorem untraced_traceStep (t : Task) (framesBefore : Nat) :
    t.untraced.traceStep framesBefore = t.untraced := by
  unfold traceStep
  dsimp only
  split
  · rfl
  · rfl

/-- Serving records the request, the answer and a verb that is entered. The task sees none of
this. -/
theorem serve_untraced (t : Task) (host : σ) (r : Request) :
    t.untraced.serve host r = ((t.serve host r).1.untraced, (t.serve host r).2) := by
  -- whether a frame is pushed or not, there is still no tracer
  have htracer : (t.untraced.serve host r).1.tracer = none := by
    unfold serve
    dsimp only
    split
    · rfl
    · rfl
  have htask : (t.untraced.serve host r).1 = (t.serve host r).1.untraced := by
    refine eq_untraced ?_ ?_ ?_ htracer
    · rw [serve_machine, serve_machine, untraced_machine]
    · rw [serve_ticks, serve_ticks, untraced_ticks]
    · rw [serve_limit, serve_limit, untraced_limit]
  have hresult : (t.untraced.serve host r).2.2 = (t.serve host r).2.2 := by
    rw [serve_result, serve_result, untraced_machine]
  exact Prod.ext htask (Prod.ext rfl hresult)

/-! ### Ticks -/

/-- **A tick of the erased task is the erased tick.** The machine steps in the same way in both, so
the cases are those of one step. -/
theorem tick_untraced (t : Task) (host : σ) :
    t.untraced.tick host = ((t.tick host).1.untraced, (t.tick host).2) := by
  cases hlimit : t.exhausted with
  | true =>
    -- a task that is over its limit refuses to tick, traced or not
    have hlimit' : t.untraced.exhausted = true := hlimit
    rw [tick_refused host hlimit, tick_refused host hlimit']
    rfl
  | false =>
    have hlimit' : t.untraced.exhausted = false := hlimit
    have hstepped : t.untraced.stepped = t.stepped.untraced := rfl
    rw [tick_eq host hlimit, tick_eq host hlimit', hstepped, untraced_machine]
    -- the step fails, goes on, or asks something
    rcases t.machine.step.2 with (fault | (_ | r))
    · cases fault <;> simp only [trace_untraced, untraced_trace, untraced_ticks, untraced_machine]
    · simp only [traceStep_untraced, untraced_traceStep]
    · simp only [serve_untraced]

/-- **Any number of ticks of the erased task** are the erased ticks. The induction is on the number,
and the last tick is one of a task that has been erased before it. -/
theorem tickTimes_untraced (t : Task) (host : σ) (n : Nat) :
    t.untraced.tickTimes host n = ((t.tickTimes host n).1.untraced, (t.tickTimes host n).2) := by
  induction n with
  | zero => rfl
  | succ n ih =>
    have htick := tick_untraced (t.tickTimes host n).1 (t.tickTimes host n).2.1
    rw [tickTimes, ih]
    simp only [htick]
    rfl

/-- **Tracing is inert.** Let a task tick any number of times on any host, once under one tracer and
once under another: no tracer, a disabled one, or an enabled one with any filter and any capacity.
The ticks return the same, as many of them are counted, and they leave the same machine and the same
host. -/
theorem tickTimes_inert (t : Task) (host : σ) (tracer tracer' : Option Tracer) (n : Nat) :
    let run := { t with tracer := tracer }.tickTimes host n
    let run' := { t with tracer := tracer' }.tickTimes host n
    run.2.2 = run'.2.2 ∧ run.1.ticks = run'.1.ticks ∧ run.1.machine = run'.1.machine ∧
      run.2.1 = run'.2.1 := by
  intro run run'
  -- both runs are the run without a tracer once their tracers are erased
  have herased : (run.1.untraced, run.2) = (run'.1.untraced, run'.2) := by
    calc (run.1.untraced, run.2)
        = { t with tracer := none }.tickTimes host n := (tickTimes_untraced _ host n).symm
      _ = (run'.1.untraced, run'.2) := tickTimes_untraced { t with tracer := tracer' } host n
  obtain ⟨htask, hrest⟩ := Prod.mk.inj herased
  refine ⟨?_, ?_, ?_, ?_⟩
  · rw [hrest]
  · -- erasing keeps the ticks, and the machine below
    show run.1.untraced.ticks = run'.1.untraced.ticks
    rw [htask]
  · show run.1.untraced.machine = run'.1.untraced.machine
    rw [htask]
  · rw [hrest]

/-- Under an enabled tracer there is something to see: the request of a verb nobody defines, and the
answer to it. -/
example :
    let t : Task :=
      { machine := .start { owner := ⟨1⟩, script := [.call ⟨"wave", none, none, none, []⟩] }
        tracer := some { enabled := true } }
    (t.tickTimes ({} : World) 1).1.tracer.map (·.buffer.records.map (·.event.type))
      = some [.request, .reply] := by decide +kernel

end Task

end VerbScript
