import VerbScript.Proofs.Protocol
import VerbScript.Proofs.Ticks
import VerbScript.Proofs.WorldAnswers
import VerbScript.Session

/-!
# Hosts and machines agree

A machine complains about an answer that does not fit its request, and about an answer that nobody
has asked for. In a task neither happens: the stores answer each request in a kind that fits it, and
a task answers every request in the tick that has asked it.

* `Request.Admits`, `Host.Agrees` — what fits, and the hosts that keep to it. `Store.agrees` and
  `Stage.agrees` say that stores do, with and without the native verbs of a session.
* `Machine.Settled` — the invariant between two ticks: the stack is in order, no request is open,
  and the fault that the next step may raise is an ordinary one.
* `Machine.Settled.step`, `Machine.Settled.resume` — a step and the answer to its request keep it.
* `Task.Agreed` — what the invariant says about the next tick and the one after it.

`Task.tickTimes_agreed` collects this for all tasks on stores and on stages.
-/

namespace VerbScript

/-! ### Answers that fit -/

/-- The answer is of a kind that the request can have; a machine is at its beginning. A written
property may be acknowledged or answered with a value, and only a call may bring a machine. -/
def Request.Admits : Request → Reply → Prop
  | .getProp .., .value _ => True
  | .setProp .., .done => True
  | .setProp .., .value _ => True
  | .resolveAlias _, .value _ => True
  | .call .., .value _ => True
  | .call .., .frame m => m.Fresh
  | _, _ => False

/-- The machine of an answer that fits is at its beginning. -/
theorem Request.Admits.fresh {r : Request} {m : Machine} (h : r.Admits (.frame m)) : m.Fresh := by
  cases r with
  | call object args => exact h
  | getProp object name => cases h
  | setProp object name value => cases h
  | resolveAlias name => cases h

/-- A host that keeps to the protocol: its answers fit, and it fails with ordinary faults only. Both
are about every state of the host, not about those it comes to. -/
structure Host.Agrees (σ : Type) [Host σ] : Prop where
  fits : ∀ (host : σ) (r : Request) (reply : Reply), (Host.serve host r).2 = .ok reply →
    r.Admits reply
  ordinary : ∀ (host : σ) (r : Request), FailsWith Fault.Ordinary (Host.serve host r).2

/-- A mapped result that is there is the image of one that was there before. -/
theorem Except.map_eq_ok {ε α β : Type} {x : Except ε α} {f : α → β} {b : β}
    (h : x.map f = .ok b) : ∃ a, x = .ok a ∧ f a = b := by
  cases x with
  | error e => cases h
  | ok a =>
    cases h
    exact ⟨a, rfl, rfl⟩

/-- **The answers of a world fit.** A read or a resolved name gives a value, a write is
acknowledged, and a call brings a machine. -/
theorem World.serve_admits {w : World} {r : Request} {reply : Reply}
    (h : (w.serve r).2 = .ok reply) : r.Admits reply := by
  cases r with
  | getProp object name =>
    -- a property that is found is a value
    obtain ⟨v, -, rfl⟩ := Except.map_eq_ok h
    trivial
  | setProp object name value =>
    -- a written property is acknowledged, if the object is there
    rw [serve_setProp] at h
    cases hobject : w.object? object with
    | none =>
      rw [hobject] at h
      cases h
    | some o =>
      rw [hobject] at h
      cases h
      trivial
  | resolveAlias name =>
    simp only [serve] at h
    split at h
    · cases h
      trivial
    · cases h
  | call object args =>
    -- a verb that is found is called with a frame of its own, at its beginning
    obtain ⟨f, hf, rfl⟩ := Except.map_eq_ok h
    exact Machine.fresh_start (callee_ok hf).1

/-- A store keeps to the protocol, because it answers as its world does. -/
theorem Store.agrees : Host.Agrees Store where
  fits _ _ _ h := World.serve_admits h
  ordinary s r := s.world.serve_ordinary r

/-- A stage answers as its world does, or has a native verb speak. So what is known of the answers
of a world carries over to those of a stage, up to the one answer a native verb can give. -/
theorem Stage.serve_cases (s : Stage) (r : Request) :
    (s.serve r).2 = (s.store.world.serve r).2 ∨
      ∃ object args, r = .call object args ∧ (s.serve r).2 = .ok (.value .null) := by
  unfold Stage.serve
  dsimp only
  split
  next object args name hreply =>
    -- a native verb speaks only where the world has found no verb
    split
    · exact .inr ⟨object, args, rfl, rfl⟩
    · exact .inl hreply.symm
  · exact .inl rfl

/-- So does a stage: what a native verb answers is a value, and it cannot fail. Every other answer
is the one of the world behind the stage. -/
theorem Stage.agrees : Host.Agrees Stage where
  fits s r reply h := by
    change (s.serve r).2 = .ok reply at h
    rcases s.serve_cases r with heq | ⟨object, args, rfl, heq⟩
    · rw [heq] at h
      exact World.serve_admits h
    · rw [heq] at h
      cases h
      trivial
  ordinary s r := by
    change FailsWith Fault.Ordinary (s.serve r).2
    rcases s.serve_cases r with heq | ⟨object, args, rfl, heq⟩
    · rw [heq]
      exact s.store.world.serve_ordinary r
    · rw [heq]
      exact .ok _

/-! ### Frames -/

namespace Frame

variable {f : Frame}

/-- A step leaves no fault to be raised. One that was there has been raised by the step itself, and
no way of working on a statement records another: only an answer of the host does that. -/
theorem step_failure (f : Frame) : f.step.1.failure = none := by
  rcases f.step_cases with ⟨fault, -, heq⟩ | ⟨r, hfailure, -, heq⟩ | ⟨hfailure, -, heq⟩ | hready
  · rw [heq]
    rfl
  · rw [heq]
    exact hfailure
  · rw [heq]
    exact hfailure
  · have hworking := hready.working
    generalize f.step = x at hworking
    cases hworking with
    | suspended g r place => exact place.failure
    | aborted g fault place => exact place.failure
    | entered statement found effect => exact hready.failure
    | arrived g next place search => cases next <;> exact place.failure

/-- The search for the next statement fails with a fault of its own, if it does not find the end.
What the search evaluates are the conditions of loops, whose faults the language has itself; the
host can fail the script only by a reply, and such a fault is raised elsewhere. -/
theorem advance_error {fault : Fault} (h : f.advance.2 = .error fault) :
    fault = .endOfScript ∨ fault.Own := by
  rw [advance_eq] at h
  cases hr : (successorPlan f.scope f.script f.path.reverse).replay f.replies with
  | suspended r =>
    rw [hr] at h
    cases h
  | failed fault' =>
    rw [hr] at h
    cases h
    exact .inr ((successorPlan_regular _ _ _).own hr)
  | done next =>
    rw [hr] at h
    cases next with
    | some path => cases h
    -- the search is through, and there is no statement left
    | none =>
      cases h
      exact .inl rfl

/-- Work on the current statement fails with a fault of its own, if it does not find the end. Either
evaluating the statement fails, or the statement is through and the search for the next one
fails. -/
theorem Ready.step_error {fault : Fault} (hready : f.Ready) (h : f.step.2 = .error fault) :
    fault = .endOfScript ∨ fault.Own := by
  cases hphase : f.phase with
  | advance =>
    rw [step_advance hready hphase] at h
    exact advance_error h
  | execute =>
    cases hfind : f.script.find? f.path with
    | none =>
      rw [step_execute_none hready hphase hfind] at h
      cases h
      exact .inl rfl
    | some statement =>
      rw [step_execute hready hphase hfind] at h
      cases hr : (statement.plan f.scope).replay f.replies with
      | suspended r =>
        rw [hr] at h
        cases h
      | failed fault' =>
        rw [hr] at h
        cases h
        exact .inr ((statement.plan_regular f.scope).own hr)
      | done effect =>
        -- a statement that is through goes on at once, unless it enters its block
        rw [hr] at h
        cases effect with
        | descend => cases h
        | next => exact advance_error h
        | write name value => exact advance_error h

/-- **The faults of a step**: the one that was to be raised, the end of the script, or one of the
script's own. -/
theorem step_error {fault : Fault} (h : f.step.2 = .error fault) :
    f.failure = some fault ∨ fault = .endOfScript ∨ fault.Own := by
  rcases f.step_cases with ⟨fault', hfailure, heq⟩ | ⟨r, -, -, heq⟩ | ⟨-, -, heq⟩ | hready
  · rw [heq] at h
    cases h
    exact .inl hfailure
  · rw [heq] at h
    cases h
  · rw [heq] at h
    cases h
    exact .inr (.inl rfl)
  · exact .inr (hready.step_error h)

end Frame

/-! ### Machines between two ticks -/

namespace Machine

variable {m : Machine} {limit : Nat}

/-- **The invariant between two ticks.** A task answers every request in the tick in which it is
asked, so this is a state in which the machine waits for nothing. -/
structure Settled (limit : Nat) (m : Machine) : Prop where
  orderly : m.Orderly limit
  /-- No request is open. -/
  idle : m.pending? = none
  /-- What the next step raises is neither the end of the script nor a complaint about an answer. -/
  ordinary : ∀ fault, m.current.failure = some fault → fault.Ordinary

/-- After a step no fault is left to be raised: the executing frame holds none, and neither do the
frames below it, one of which may be on top now. -/
theorem Orderly.step_failure (h : m.Orderly limit) : m.step.1.current.failure = none := by
  have hstep := m.current.step_failure
  rcases m.step_cases with ⟨g, progress, hg, hm⟩ | ⟨g, caller, callers, hg, hcallers, hm⟩ |
    ⟨g, fault, hg, -, hm⟩
  · rw [hg] at hstep
    rw [hm]
    exact hstep
  · rw [hm]
    exact (h.callers caller (by rw [hcallers]; exact List.mem_cons_self)).failure
  · -- whether the frame stays or gives way to the outermost one, neither holds a fault
    rw [hg] at hstep
    rw [hm]
    rcases unwind_cases { m with current := g } with ⟨-, heq⟩ | ⟨upper, root, hcallers, heq⟩
    · rw [heq]
      exact hstep
    · have hroot : root ∈ m.callers := by
        rw [show m.callers = upper ++ [root] from hcallers]
        simp
      rw [heq]
      exact (h.callers root hroot).failure

/-- **A step** that asks nothing leaves the machine settled. Its fault, if it had one to raise, has
been raised. -/
theorem Settled.step (h : m.Settled limit) (hquiet : ∀ r, m.step.2 ≠ .ok (.suspended r)) :
    m.step.1.Settled limit := by
  obtain ⟨horderly, hpending⟩ := h.orderly.step
  refine ⟨horderly, ?_, fun fault hfault => ?_⟩
  · -- an open request would be one that the step has returned
    cases hopen : m.step.1.pending? with
    | none => rfl
    | some r => exact absurd ((hpending r).1 hopen) (hquiet r)
  · rw [h.orderly.step_failure] at hfault
    cases hfault

/-- A step of a machine fails like the step of the frame that executes. The frames below it can end
no step with a fault. -/
theorem step_error {fault : Fault} (hstep : m.step.2 = .error fault) :
    m.current.failure = some fault ∨ fault = .endOfScript ∨ fault.Own := by
  rcases m.step_cases with ⟨g, progress, -, hm⟩ | ⟨g, caller, callers, -, -, hm⟩ |
    ⟨g, fault', hg, -, hm⟩
  · rw [hm] at hstep
    cases hstep
  · rw [hm] at hstep
    cases hstep
  · rw [hm] at hstep
    cases hstep
    exact Frame.step_error (by rw [hg])

/-- An answer that fits is logged or brings a machine, at whose top no fault is to be raised; it is
turned down only if the machine would be nested too deep. -/
theorem deliver_admitted (m : Machine) {r : Request} {reply : Reply} (h : r.Admits reply) :
    (∃ v, m.deliver r reply = { m with current := m.current.logReply v }) ∨
    m.deliver r reply
      = { m with current := m.current.raise (.callDepthExceeded m.current.maxDepth) } ∨
    (m.deliver r reply).current.failure = none := by
  cases r with
  | getProp object name =>
    cases reply with
    | value v => exact .inl ⟨v, rfl⟩
    | done => cases h
    | frame f => cases h
  | setProp object name value =>
    cases reply with
    | value v => exact .inl ⟨.null, rfl⟩
    | done => exact .inl ⟨.null, rfl⟩
    | frame f => cases h
  | resolveAlias name =>
    cases reply with
    | value v => exact .inl ⟨v, rfl⟩
    | done => cases h
    | frame f => cases h
  | call object args =>
    cases reply with
    | value v => exact .inl ⟨v, rfl⟩
    | done => cases h
    | frame n =>
      obtain ⟨f, rfl, hf⟩ := h.fresh
      -- the machine that is brought is one frame, and goes on top if the limit admits it
      by_cases hdeep : m.current.maxDepth < m.current.depth + 1
      · exact .inr (.inl (if_pos hdeep))
      · refine .inr (.inr ?_)
        change (m.push (.start f)).current.failure = none
        unfold push
        rw [if_neg hdeep]
        exact hf.failure

/-- The fault that is to be raised after the answer to the request of a step is the answer itself,
or an answered frame would be nested too deep. -/
theorem Settled.resume_failure (h : m.Settled limit) {r : Request}
    (hstep : m.step.2 = .ok (.suspended r)) {reply : Except Fault Reply}
    (hfits : ∀ a, reply = .ok a → r.Admits a) {fault : Fault}
    (hfault : (m.step.1.resume reply).1.current.failure = some fault) :
    reply = .error fault ∨ fault.Own := by
  -- the request of the step is open, and no fault is to be raised beside it
  have hopen : m.step.1.pending? = some r := (h.orderly.step.2 r).2 hstep
  have hnone := h.orderly.step_failure
  cases reply with
  | error fault' =>
    rw [resume_error hopen] at hfault
    cases hfault
    exact .inl rfl
  | ok a =>
    rw [resume_ok hopen] at hfault
    -- before the answer no fault was to be raised, so the answer has brought it
    rcases deliver_admitted { m.step.1 with current := { m.step.1.current with awaiting := none } }
      (hfits a rfl) with ⟨v, heq⟩ | heq | heq
    · rw [heq] at hfault
      exact absurd (hnone.symm.trans hfault) nofun
    · rw [heq] at hfault
      cases hfault
      exact .inr trivial
    · -- a machine that is brought is at its beginning, and holds no fault
      exact absurd (heq.symm.trans hfault) nofun

/-- **The answer to the request of a step**, if it fits, leaves the machine settled. It is taken, as
the request is the one that is open. -/
theorem Settled.resume (h : m.Settled limit) {r : Request} (hstep : m.step.2 = .ok (.suspended r))
    {reply : Except Fault Reply} (hfits : ∀ a, reply = .ok a → r.Admits a)
    (hordinary : FailsWith Fault.Ordinary reply) :
    (m.step.1.resume reply).2 = .ok () ∧ (m.step.1.resume reply).1.Settled limit := by
  obtain ⟨horderly, hpending⟩ := h.orderly.step
  have hopen : m.step.1.pending? = some r := (hpending r).2 hstep
  have hfresh : ∀ n, reply = .ok (.frame n) → n.Fresh := fun n hn => (hfits _ hn).fresh
  -- an open request is enough for the answer to be accepted
  have haccepted : (m.step.1.resume reply).2 = .ok () :=
    (m.step.1.resume_ok_iff reply).2 (by rw [hopen]; rfl)
  refine ⟨haccepted, horderly.resume hfresh, m.step.1.pending?_resume hfresh haccepted, ?_⟩
  intro fault hfault
  -- the fault is the answer itself, or that the frames are nested too deep
  rcases h.resume_failure hstep hfits hfault with hreply | hown
  · exact hordinary fault hreply
  · exact hown.ordinary

/-- A fault that is to be raised is what the next step fails with. The end of the script would be a
return instead, if there is a caller. -/
theorem step_of_failure {fault : Fault} (h : m.current.failure = some fault)
    (hne : fault ≠ .endOfScript) : m.step.2 = .error fault := by
  rw [step_of_fault (Frame.step_raised h) hne]

end Machine

/-! ### Tasks -/

namespace Task

variable {σ : Type} [Host σ] {t : Task} {limit : Nat}

/-- **Agreement of a task and its host.** What the next tick does is what the machine has asked for,
and it is answered in the same tick. -/
structure Agreed (t : Task) (host : σ) : Prop where
  /-- No request is open. -/
  idle : t.machine.pending? = none
  /-- The next tick does not complain about an answer. -/
  expected : ∀ detail, (t.tick host).2.2 ≠ .error (.unexpectedReply detail)
  /-- The end of the script is not reported as a failure. -/
  regular : (t.tick host).2.2 ≠ .error .endOfScript
  /-- A tick in which the machine asks something has it served. -/
  served : ∀ r, t.request? = some r → (t.tick host).2.2 = .ok (.served r.kind)
  /-- If the host fails to answer, the tick after the next one, if the limit admits it, asks
  nothing, fails with the fault of the host, and leaves the host as it is. -/
  raised : ∀ r fault, t.request? = some r → (Host.serve host r).2 = .error fault →
    (t.tick host).1.exhausted = false →
      (t.tick host).1.request? = none ∧
      ((t.tick host).1.tick (t.tick host).2.1).2 = ((t.tick host).2.1, .error fault)

/-- **A tick** leaves the machine settled. Either it asks something and is answered in the same
tick, or it asks nothing, or the limit has refused it. -/
theorem tick_settled (hhost : Host.Agrees σ) (h : t.machine.Settled limit) (host : σ) :
    (t.tick host).1.machine.Settled limit := by
  cases hr : t.request? with
  | some r =>
    rw [(tick_machine_served host hr).1]
    exact (h.resume (step_of_request? hr) (hhost.fits host r) (hhost.ordinary host r)).2
  | none =>
    cases hlimit : t.exhausted with
    | true =>
      rw [tick_refused host hlimit]
      exact h
    | false =>
      -- within the limit, a request of the step would be one of the tick
      have hquiet : ∀ r, t.machine.step.2 ≠ .ok (.suspended r) := by
        intro r hstep
        rw [request?_eq hlimit, hstep] at hr
        cases hr
      rcases tick_machine_stepped host hr with hmachine | hmachine
      · rw [hmachine]
        exact h
      · rw [hmachine]
        exact h.step hquiet

/-- So do any number of ticks, whatever they return. -/
theorem tickTimes_settled (hhost : Host.Agrees σ) (h : t.machine.Settled limit) (host : σ)
    (n : Nat) : (t.tickTimes host n).1.machine.Settled limit := by
  induction n with
  | zero => exact h
  | succ n ih => exact tick_settled hhost ih _

/-- **The faults of the ticks** of a settled machine: the one that was to be raised, or one of the
script's own. -/
theorem tick_error (hhost : Host.Agrees σ) (h : t.machine.Settled limit) (host : σ) {fault : Fault}
    (hresult : (t.tick host).2.2 = .error fault) :
    t.machine.current.failure = some fault ∨ fault.Own := by
  cases hlimit : t.exhausted with
  | true =>
    rw [tick_refused host hlimit] at hresult
    cases hresult
    exact .inr trivial
  | false =>
    rcases hstep : t.machine.step with ⟨m, (fault' | progress)⟩
    · have herror : t.machine.step.2 = .error fault' := by rw [hstep]
      by_cases hend : fault' = .endOfScript
      · -- the end of the script is no failure of the tick
        subst hend
        rw [(tick_finished host hlimit hstep).2] at hresult
        cases hresult
      · rw [(tick_faulted host hlimit hstep hend).2] at hresult
        cases hresult
        exact (Machine.step_error herror).imp_right fun h => h.resolve_left hend
    · cases progress with
      | continued =>
        rw [(tick_continued host hlimit hstep).2] at hresult
        cases hresult
      | suspended r =>
        -- the answer is accepted, because the machine waits for it
        have hsuspended : t.machine.step.2 = .ok (.suspended r) := by rw [hstep]
        have hr : t.request? = some r := by rw [request?_eq hlimit, hsuspended]
        have haccepted := (h.resume hsuspended (hhost.fits host r) (hhost.ordinary host r)).1
        rw [(tick_machine_served host hr).2, haccepted] at hresult
        cases hresult

/-- So what a tick fails with is an ordinary fault, since the fault that was to be raised is one and
the script's own are. -/
theorem tick_ordinary (hhost : Host.Agrees σ) (h : t.machine.Settled limit) (host : σ)
    {fault : Fault} (hresult : (t.tick host).2.2 = .error fault) : fault.Ordinary :=
  (tick_error hhost h host hresult).elim (h.ordinary fault) Fault.Own.ordinary

/-- **A settled machine agrees with its host.** Only the last part looks beyond the next tick: the
fault of the host is held by the machine, and the next step raises it before it does anything
else. -/
theorem agreed_of_settled (hhost : Host.Agrees σ) (h : t.machine.Settled limit) (host : σ) :
    t.Agreed host := by
  refine ⟨h.idle, fun detail hresult => ?_, fun hresult => ?_, fun r hr => ?_, ?_⟩
  · exact (tick_ordinary hhost h host hresult).ne_unexpectedReply detail rfl
  · exact (tick_ordinary hhost h host hresult).ne_end rfl
  · have haccepted :=
      (h.resume (step_of_request? hr) (hhost.fits host r) (hhost.ordinary host r)).1
    rw [(tick_machine_served host hr).2, haccepted]
    rfl
  · intro r fault hr hfault hlimit
    have hne : fault ≠ .endOfScript := (hhost.ordinary host r fault hfault).ne_end
    -- the machine has asked the request, is answered with the fault, and holds it
    have hopen : t.machine.step.1.current.awaiting = some r :=
      (h.orderly.step.2 r).2 (step_of_request? hr)
    have hmachine : (t.tick host).1.machine = { t.machine.step.1 with
        current := { t.machine.step.1.current with awaiting := none }.raise fault } := by
      rw [(tick_machine_served host hr).1, hfault, Machine.resume_error hopen]
    -- in the tick after it, the fault is raised without asking
    have hraise : (t.tick host).1.machine.step.2 = .error fault :=
      Machine.step_of_failure (by rw [hmachine]; rfl) hne
    have hquiet : (t.tick host).1.request? = none := by rw [request?_eq hlimit, hraise]
    have hhostSame : ((t.tick host).1.tick (t.tick host).2.1).2.1 = (t.tick host).2.1 := by
      rw [tick_host, hquiet]
    refine ⟨hquiet, Prod.ext hhostSame ?_⟩
    exact (tick_faulted (t.tick host).2.1 hlimit (Prod.ext rfl hraise) hne).2

/-- A task that starts with a frame at the beginning of its script is settled. -/
theorem settled_of_fresh {root : Frame} (hroot : root.Fresh) (houtermost : root.depth = 0)
    (ht : t.machine = .start root) : t.machine.Settled root.maxDepth := by
  rw [ht]
  refine ⟨.start houtermost rfl hroot.toReady.sound, hroot.awaiting, fun fault hfault => ?_⟩
  exact absurd (hroot.failure.symm.trans hfault) nofun

/-- **Stores and machines agree on the protocol.** Let a task start with a frame at the beginning of
its script that nothing has called, on any store or on any stage over a store, and tick any number
of times, whatever the ticks return. No request is then open. The next tick neither complains about
an answer nor reports the end of the script as a failure; if the machine asks something in it, it
returns that this kind of request was served; and if the store fails to answer, the tick after it
returns just this fault, if the limit admits it, without asking anything. -/
theorem tickTimes_agreed {root : Frame} (hroot : root.Fresh) (houtermost : root.depth = 0)
    (ht : t.machine = .start root) (n : Nat) :
    (∀ s : Store, (t.tickTimes s n).1.Agreed (t.tickTimes s n).2.1) ∧
    (∀ s : Stage, (t.tickTimes s n).1.Agreed (t.tickTimes s n).2.1) := by
  have hstart := settled_of_fresh hroot houtermost ht
  constructor
  · intro s
    exact agreed_of_settled Store.agrees (tickTimes_settled Store.agrees hstart s n) _
  · intro s
    exact agreed_of_settled Stage.agrees (tickTimes_settled Stage.agrees hstart s n) _

end Task

/-- A stage with one object that has no properties and no verbs of its own. -/
def bareStage : Stage :=
  { store :=
      { world := { objects := Table.ofList [(⟨1⟩, { id := ⟨1⟩ })] }
        stream := { seed := 0 } } }

/-- A task that greets by the native verb and then reads a property that is missing. -/
def speaking : Task :=
  { machine := .start
      { owner := ⟨1⟩
        script :=
          [.call ⟨"say", some [.word "hello"], none, none, [.word "hello"]⟩,
            .assign .set ⟨.var, "mood", none⟩ [.reference ⟨.prop, "mood", none⟩]] } }

/-- The native verb is answered with a value. The missing property is reported in the tick after the
one that has asked for it. -/
theorem speaking_agreed :
    (speaking.tickTimes bareStage 3).2.2
      = [.ok (.served .call), .ok .stepped, .ok (.served .getProp)] ∧
    (speaking.tickTimes bareStage 3).2.1.output = ["hello"] ∧
    (speaking.tickTimes bareStage 4).2.2.getLast? = some (.error (.propNotFound "mood")) := by
  have hagreed : (speaking.tickTimes bareStage 2).1.Agreed (speaking.tickTimes bareStage 2).2.1 :=
    (Task.tickTimes_agreed (Frame.fresh_new ⟨1⟩ _) rfl rfl 2).2 bareStage
  refine ⟨by rfl, by rfl, ?_⟩
  -- the third tick reads the property, which is missing, so the fourth one fails
  have hr : (speaking.tickTimes bareStage 2).1.request? = some (.getProp ⟨1⟩ "mood") := by rfl
  have hfault : (Host.serve (speaking.tickTimes bareStage 2).2.1 (.getProp ⟨1⟩ "mood")).2
      = .error (.propNotFound "mood") := by rfl
  have hraised := (hagreed.raised _ _ hr hfault (by rfl)).2
  calc (speaking.tickTimes bareStage 4).2.2.getLast?
      = some ((speaking.tickTimes bareStage 3).1.tick (speaking.tickTimes bareStage 3).2.1).2.2 :=
        List.getLast?_concat
    _ = some (.error (.propNotFound "mood")) := congrArg (fun x => some x.2) hraised

end VerbScript
