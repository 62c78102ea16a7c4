import VerbScript.Proofs.Agreement
import VerbScript.Proofs.Runs

/-!
# What tasks fail with

A fault that a task reports is one its script has run into by itself, or its host has answered a
request with it. So whatever can be said of the faults a host answers with, as long as it keeps some
property, can be said of the faults of all tasks on it.

* `Host.Maintains P faults` — serving keeps the property `P`, and a host that has it fails with
  `faults` only.
* `Task.tickTimes_maintained`, `Task.run_maintained` — ticking and running keep such a property.
* `Task.Raises` — the fault that the next tick may raise is one of `faults`. It is kept like the
  property of the host (`Task.tick_raises`), so `faults` are all that a run fails with
  (`Task.run_fails`).
-/

namespace VerbScript

variable {σ : Type} [Host σ]

/-- Serving keeps the property `P` of hosts, and a host that has it fails with `faults` only. A host
without the property may fail with anything. -/
structure Host.Maintains (P : σ → Prop) (faults : Fault → Prop) : Prop where
  kept : ∀ (host : σ) (r : Request), P host → P (Host.serve host r).1
  fails : ∀ (host : σ) (r : Request), P host → FailsWith faults (Host.serve host r).2

namespace Task

variable {t : Task} {host : σ} {limit : Nat} {P : σ → Prop} {faults : Fault → Prop}

/-! ### The host -/

/-- A tick reaches the host by one request at most. -/
theorem tick_maintained (hhost : Host.Maintains P faults) (h : P host) :
    P (t.tick host).2.1 := by
  rw [tick_host]
  cases t.request? with
  | some r => exact hhost.kept host r h
  | none => exact h

/-- **Ticking keeps** what serving keeps, by induction on the ticks. -/
theorem tickTimes_maintained (hhost : Host.Maintains P faults) (h : P host) (n : Nat) :
    P (t.tickTimes host n).2.1 := by
  induction n with
  | zero => exact h
  | succ n ih => exact tick_maintained hhost ih

/-- **Running keeps** what serving keeps, since a run is some number of ticks. -/
theorem run_maintained (hhost : Host.Maintains P faults) (h : P host) :
    P (t.run host).2.1 := by
  obtain ⟨n, -, heq, -⟩ := t.run_cases host
  rw [heq]
  exact tickTimes_maintained hhost h n

/-! ### The faults -/

/-- The fault that the next tick may raise is one of `faults`. It waits in the frame since the
answer that has brought it. -/
def Raises (faults : Fault → Prop) (t : Task) : Prop :=
  ∀ fault, t.machine.current.failure = some fault → faults fault

/-- **A tick leaves nothing else to be raised**: what its answer brings is an answer of the host, or
a fault of the script's own. -/
theorem tick_raises (hagrees : Host.Agrees σ) (hhost : Host.Maintains P faults)
    (hown : ∀ fault : Fault, fault.Own → faults fault) (hsettled : t.machine.Settled limit)
    (h : P host) (hraises : t.Raises faults) : (t.tick host).1.Raises faults := by
  intro fault hfault
  cases hr : t.request? with
  | none =>
    -- the tick was refused, or it was a step, which leaves no fault to be raised
    rcases tick_machine_stepped host hr with hmachine | hmachine
    · rw [hmachine] at hfault
      exact hraises fault hfault
    · rw [hmachine, hsettled.orderly.step_failure] at hfault
      cases hfault
  | some r =>
    -- no fault is left of the step, so this one has come with the answer
    rw [(tick_machine_served host hr).1] at hfault
    rcases hsettled.resume_failure (step_of_request? hr) (hagrees.fits host r) hfault with
      hanswer | hself
    · exact hhost.fails host r h fault hanswer
    · exact hown fault hself

/-- However often a task is ticked, it raises nothing else. The invariant needs the settled machine
and the kept property of the host at every tick, which both hold by their own lemmas. -/
theorem tickTimes_raises (hagrees : Host.Agrees σ) (hhost : Host.Maintains P faults)
    (hown : ∀ fault : Fault, fault.Own → faults fault) (hsettled : t.machine.Settled limit)
    (h : P host) (hraises : t.Raises faults) (n : Nat) :
    (t.tickTimes host n).1.Raises faults := by
  induction n with
  | zero => exact hraises
  | succ n ih =>
    exact tick_raises hagrees hhost hown (tickTimes_settled hagrees hsettled host n)
      (tickTimes_maintained hhost h n) ih

/-- **A run fails with what its host fails with**, or with a fault of the script's own. So a fault
that neither of them has is never reported, however the script is written. -/
theorem run_fails (hagrees : Host.Agrees σ) (hhost : Host.Maintains P faults)
    (hown : ∀ fault : Fault, fault.Own → faults fault) {root : Frame} (hroot : root.Fresh)
    (houtermost : root.depth = 0) (ht : t.machine = .start root) (h : P host) :
    FailsWith faults (t.run host).2.2 := by
  have hsettled := settled_of_fresh hroot houtermost ht
  have hraises : t.Raises faults := by
    intro fault hfault
    rw [ht] at hfault
    -- a frame that has not begun has no fault to raise
    exact absurd (hroot.failure.symm.trans hfault) nofun
  intro fault hresult
  obtain ⟨-, -, -, ⟨k, hends⟩ | ⟨limit, hlimit⟩⟩ := t.run_cases host
  · rw [hresult] at hends
    have hlast : t.resultAfter host k = .error fault := Tick.outcome?_eq_error hends.last
    rcases tick_error hagrees (tickTimes_settled hagrees hsettled host k) _ hlast with
      hraised | hself
    · -- the fault was there to be raised by the last tick, or it is the script's own
      exact tickTimes_raises hagrees hhost hown hsettled h hraises k fault hraised
    · exact hown fault hself
  · -- a run that has used up what it was given reports a limit
    rw [hresult] at hlimit
    cases hlimit
    exact hown _ trivial

end Task

end VerbScript
