import VerbScript.Proofs.MachineSteps
import VerbScript.Task

/-!
# What a tick of a task can do

A tick touches its host only through the request it has answered: `Task.request?` names it before
the tick is made. The other lemmas say what becomes of the host, the machine and the result, so that
no later proof opens `Task.tick`.

* `Task.tick_host` — the host after a tick.
* `Task.tick_refused`, `Task.tick_machine_served`, `Task.tick_continued`, `Task.tick_finished`,
  `Task.tick_faulted` — the machine after a tick, and its result.
* `Task.tick_eq` — what an admitted tick is; `Task.tick_counted` — that it is counted.
* `Task.tick_congr` — hosts that answer the request alike cannot be told apart by a tick.
* `Task.tickTimes` — any number of ticks, whatever they return.
-/

namespace VerbScript

namespace Task

variable {σ : Type} [Host σ] {t : Task}

/-- The limit admits no further tick. A task without a limit is never exhausted, and one that is
stays so, since refused ticks are not counted. -/
def exhausted (t : Task) : Bool := t.limit.any (· ≤ t.ticks)

/-- The request the next tick has the host answer. It is known before the tick is made, since a step
does not look at the host; what a tick does to a host can therefore be said in terms of it. -/
def request? (t : Task) : Option Request :=
  if t.limit.any (· ≤ t.ticks) then none
  else
    match t.machine.step.2 with
    | .ok (.suspended r) => some r
    | _ => none

/-- **Tracing** changes nothing but the tracer, whether there is one and whether it admits the
event. All that the other lemmas say of a traced task comes from here. -/
theorem trace_eq (t : Task) (event : Unit → TraceEvent) :
    t.trace event = { t with tracer := (t.trace event).tracer } := by
  unfold trace
  -- without a tracer nothing is recorded, nor with one that is switched off
  split
  · split <;> rfl
  · rfl

/-- So does the trace of a step, which records one event or two. It touches nothing but the tracer,
and this is how tracing is shown to be inert. -/
theorem traceStep_eq (t : Task) (framesBefore : Nat) :
    t.traceStep framesBefore = { t with tracer := (t.traceStep framesBefore).tracer } := by
  unfold traceStep
  dsimp only
  -- the number of frames tells whether a called script has returned
  split
  · rw [trace_eq, trace_eq t]
  · exact trace_eq t _

@[simp] theorem trace_machine (t : Task) (event : Unit → TraceEvent) :
    (t.trace event).machine = t.machine := by rw [trace_eq]

@[simp] theorem trace_ticks (t : Task) (event : Unit → TraceEvent) :
    (t.trace event).ticks = t.ticks := by rw [trace_eq]

@[simp] theorem trace_limit (t : Task) (event : Unit → TraceEvent) :
    (t.trace event).limit = t.limit := by rw [trace_eq]

@[simp] theorem traceStep_machine (t : Task) (framesBefore : Nat) :
    (t.traceStep framesBefore).machine = t.machine := by rw [traceStep_eq]

@[simp] theorem traceStep_ticks (t : Task) (framesBefore : Nat) :
    (t.traceStep framesBefore).ticks = t.ticks := by rw [traceStep_eq]

@[simp] theorem traceStep_limit (t : Task) (framesBefore : Nat) :
    (t.traceStep framesBefore).limit = t.limit := by rw [traceStep_eq]

/-- A tick has a request answered only if its step is suspended at this request. A tick that is
refused makes no step, and so it has no request. -/
theorem step_of_request? {r : Request} (h : t.request? = some r) :
    t.machine.step.2 = .ok (.suspended r) := by
  unfold request? at h
  split at h
  · cases h
  · -- any other outcome of the step would leave no request
    rcases hstep : t.machine.step.2 with (fault | (_ | r')) <;> rw [hstep] at h <;> cases h
    rfl

/-! ### Serving -/

/-- The machine after serving is the one that takes the host's answer. Between the two only the
tracer has been at work. -/
theorem serve_machine (t : Task) (host : σ) (r : Request) :
    (t.serve host r).1.machine = (t.machine.resume (Host.serve host r).2).1 := by
  simp only [serve, trace_machine]
  -- frames that an answer has brought are traced as well
  split <;> simp

@[simp] theorem serve_ticks (t : Task) (host : σ) (r : Request) :
    (t.serve host r).1.ticks = t.ticks := by
  simp only [serve, trace_machine]
  split <;> simp

@[simp] theorem serve_limit (t : Task) (host : σ) (r : Request) :
    (t.serve host r).1.limit = t.limit := by
  simp only [serve, trace_machine]
  split <;> simp

/-- Serving fails if the machine refuses the answer. -/
theorem serve_result (t : Task) (host : σ) (r : Request) :
    (t.serve host r).2.2 = (t.machine.resume (Host.serve host r).2).2 := by
  simp only [serve, trace_machine]

/-- Of the host, serving sees the answer only: not the state it is in, nor what becomes of it. So
two hosts that answer alike are alike for a task. -/
theorem serve_congr (t : Task) {host host' : σ} {r : Request}
    (h : (Host.serve host r).2 = (Host.serve host' r).2) :
    (t.serve host r).1 = (t.serve host' r).1 ∧ (t.serve host r).2.2 = (t.serve host' r).2.2 := by
  unfold serve
  simp only [h, and_self]

/-! ### Ticking -/

/-- A tick that the limit does not admit does nothing at all, neither to the task nor to the
host. -/
theorem tick_refused (host : σ) (h : t.limit.any (· ≤ t.ticks) = true) :
    t.tick host = (t, host, .error (.tickLimitExceeded (t.limit.getD 0))) := by
  unfold tick
  rw [if_pos h]

/-- The task with the step of the next tick made and counted. What a tick does after that depends on
how the step went. -/
def stepped (t : Task) : Task := { t with machine := t.machine.step.1, ticks := t.ticks + 1 }

/-- **What an admitted tick is**: a step, and what follows from how it went. It is the only lemma
from here on for which `tick` is unfolded with its limit decided. -/
theorem tick_eq (host : σ) (h : t.exhausted = false) :
    t.tick host = match t.machine.step.2 with
      | .ok .continued => (t.stepped.traceStep t.machine.frameCount, host, .ok .stepped)
      | .ok (.suspended r) =>
        ((t.stepped.serve host r).1, (t.stepped.serve host r).2.1,
          (t.stepped.serve host r).2.2.map fun _ => .served r.kind)
      | .error .endOfScript =>
        (t.stepped.trace (fun _ => .finished t.stepped.ticks), host,
          .ok (.finished t.stepped.machine.returnValue))
      | .error fault => (t.stepped.trace (fun _ => .error fault.message), host, .error fault) := by
  have hadmitted : ¬ t.limit.any (· ≤ t.ticks) = true := by
    rw [← exhausted, h]
    exact nofun
  unfold tick stepped
  rewrite [if_neg hadmitted]
  -- the end of the script is the one fault that a tick does not pass on
  rcases t.machine.step with ⟨m, (fault | (_ | r))⟩
  · cases fault <;> rfl
  · rfl
  · rfl

/-- A tick that the limit admits is counted, and leaves the limit. Whatever the step comes to,
neither is touched afterwards. -/
theorem tick_counted (host : σ) (h : t.exhausted = false) :
    (t.tick host).1.ticks = t.ticks + 1 ∧ (t.tick host).1.limit = t.limit := by
  rw [tick_eq host h]
  -- nothing that a tick does after the step touches the counter or the limit
  rcases t.machine.step.2 with (fault | (_ | r))
  · cases fault <;> simp [stepped]
  · simp [stepped]
  · simp [stepped]

/-- Every admitted tick is counted, also one that fails. -/
theorem tick_ticks (host : σ) (h : t.exhausted = false) :
    (t.tick host).1.ticks = t.ticks + 1 := (tick_counted host h).1

/-- No tick changes the limit. One that is refused changes nothing at all. -/
theorem tick_limit (t : Task) (host : σ) : (t.tick host).1.limit = t.limit := by
  cases h : t.exhausted with
  | true => rw [tick_refused host h]
  | false => exact (tick_counted host h).2

/-- Below the limit the request is what the step is suspended at. The request is known before the
host is asked, which is why it can be spoken of without a host. -/
theorem request?_eq (h : t.exhausted = false) :
    t.request? = match t.machine.step.2 with
      | .ok (.suspended r) => some r
      | _ => none := by
  unfold request?
  rw [if_neg (by rw [← exhausted, h]; exact nofun)]

/-- **The host after a tick** is the host after the request of the tick. A tick without a request
leaves the host alone. -/
theorem tick_host (t : Task) (host : σ) :
    (t.tick host).2.1 = match t.request? with
      | some r => (Host.serve host r).1
      | none => host := by
  unfold tick request?
  split
  · rfl
  · -- the step fails, goes on, or asks something
    rcases t.machine.step with ⟨m, (fault | (_ | r))⟩
    · cases fault <;> rfl
    · rfl
    · rfl

/-- **A tick that has a request answered** hands the answer to the machine, and fails only if the
machine does not take it. -/
theorem tick_machine_served {r : Request} (host : σ) (h : t.request? = some r) :
    (t.tick host).1.machine = (t.machine.step.1.resume (Host.serve host r).2).1 ∧
    (t.tick host).2.2
      = (t.machine.step.1.resume (Host.serve host r).2).2.map fun _ => .served r.kind := by
  unfold request? at h
  split at h
  · cases h
  · next hlimit =>
    unfold tick
    rw [if_neg hlimit]
    -- `r` is the request of the step, so the step is suspended at it
    rcases hstep : t.machine.step with ⟨m, (fault | (_ | r'))⟩ <;> rw [hstep] at h <;> cases h
    exact ⟨serve_machine _ host r, by simp only [serve_result]⟩

/-- A tick whose step goes on. The step may have been the end of a called script, whose result the
caller has by now. -/
theorem tick_continued (host : σ) {m : Machine} (hlimit : t.exhausted = false)
    (hstep : t.machine.step = (m, .ok .continued)) :
    (t.tick host).1.machine = m ∧ (t.tick host).2.2 = .ok .stepped := by
  rw [tick_eq host hlimit, stepped, hstep]
  exact ⟨traceStep_machine _ _, rfl⟩

/-- A tick whose step reaches the end of the outermost script. This is a result and no fault: the
value that the script has set, or null. -/
theorem tick_finished (host : σ) {m : Machine} (hlimit : t.exhausted = false)
    (hstep : t.machine.step = (m, .error .endOfScript)) :
    (t.tick host).1.machine = m ∧ (t.tick host).2.2 = .ok (.finished m.returnValue) := by
  rw [tick_eq host hlimit, stepped, hstep]
  exact ⟨trace_machine _ _, rfl⟩

/-- A tick whose step fails. Its fault is passed on as it is, and the machine is kept, so that the
task can be looked at afterwards. -/
theorem tick_faulted (host : σ) {m : Machine} {fault : Fault} (hlimit : t.exhausted = false)
    (hstep : t.machine.step = (m, .error fault)) (hne : fault ≠ .endOfScript) :
    (t.tick host).1.machine = m ∧ (t.tick host).2.2 = .error fault := by
  rw [tick_eq host hlimit, stepped, hstep]
  cases fault with
  | endOfScript => exact absurd rfl hne
  | _ => exact ⟨trace_machine _ _, rfl⟩

/-- A tick without a request steps the machine, if the limit admits it. Which of the two it does is
left open, for invariants that a step keeps. -/
theorem tick_machine_stepped (host : σ) (h : t.request? = none) :
    (t.tick host).1.machine = t.machine ∨ (t.tick host).1.machine = t.machine.step.1 := by
  cases hlimit : t.exhausted with
  | true =>
    left
    rw [tick_refused host hlimit]
  | false =>
    right
    rw [request?_eq hlimit] at h
    -- the step has ended or failed, or goes on; it is not suspended
    rcases hstep : t.machine.step with ⟨m, (fault | (_ | r))⟩ <;> rw [hstep] at h
    · by_cases hend : fault = .endOfScript
      · subst hend
        exact (tick_finished host hlimit hstep).1
      · exact (tick_faulted host hlimit hstep hend).1
    · exact (tick_continued host hlimit hstep).1
    · cases h

/-- **A tick sees of its host the answer only**: hosts that answer the request of the tick alike
leave the task and the result alike. Nothing is asked of hosts if the tick has no request. -/
theorem tick_congr {host host' : σ}
    (h : ∀ r, t.request? = some r → (Host.serve host r).2 = (Host.serve host' r).2) :
    (t.tick host).1 = (t.tick host').1 ∧ (t.tick host).2.2 = (t.tick host').2.2 := by
  by_cases hlimit : t.limit.any (· ≤ t.ticks) = true
  · rw [tick_refused host hlimit, tick_refused host' hlimit]
    exact ⟨rfl, rfl⟩
  · unfold request? at h
    rw [if_neg hlimit] at h
    unfold tick
    rw [if_neg hlimit, if_neg hlimit]
    -- only a suspended step has the host answer anything
    rcases hstep : t.machine.step with ⟨m, (fault | (_ | r))⟩
    · cases fault <;> exact ⟨rfl, rfl⟩
    · exact ⟨rfl, rfl⟩
    · rw [hstep] at h
      obtain ⟨htask, hresult⟩ :=
        serve_congr { t with machine := m, ticks := t.ticks + 1 } (h r rfl)
      exact ⟨htask, by simp only [hresult]⟩

/-- Ticks `n` times, whatever the ticks return, and lists what they returned. Unlike `runFor` it
goes on behind a fault and behind the end of the script. -/
def tickTimes (t : Task) (host : σ) : Nat → Task × σ × List (Except Fault Tick)
  | 0 => (t, host, [])
  | n + 1 =>
    let (t, host, results) := t.tickTimes host n
    let (t, host, result) := t.tick host
    (t, host, results ++ [result])

end Task

end VerbScript
