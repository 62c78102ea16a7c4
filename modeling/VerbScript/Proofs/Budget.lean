import Mathlib.Control.Monad.Basic
import VerbScript.Proofs.Runs
import VerbScript.World.Store

/-!
# The tick limit cuts a run

A limit decides how far a run goes and nothing else. `Task.withLimit` puts a task under another
limit; as long as both limits admit the ticks, the two tasks tick alike, so a run under the smaller
limit is the run under the larger one, cut off where the smaller limit is used up.

* `Machine.round`, `Machine.rounds` — one step with the answer to what it asks, and any number.
* `Task.tick_withLimit`, `Task.tickTimes_withLimit` — admitted ticks do not see the limit.
* `Task.run_withLimit_within`, `Task.run_withLimit_beyond` — a run that ends, under a limit that it
  keeps and under one that it does not keep.
* `Task.run_rounds` — a run is no more rounds of the machine than its limit admits.
* `Task.run_within_budget` — the comparison of two limits, and what a limit bounds.
-/

namespace VerbScript

section Rounds

variable {σ : Type} [Host σ]

/-- One step of the machine, and the answer of the host to what the step asks. A step that asks
nothing leaves the host as it is. -/
def Machine.round (m : Machine) (host : σ) : Machine × σ :=
  match m.step with
  | (m, .ok (.suspended request)) =>
    ((m.resume (Host.serve host request).2).1, (Host.serve host request).1)
  | (m, _) => (m, host)

/-- So many steps of the machine, with the answers to what they ask. Neither a fault nor the end of
the script stops them; a run does, which is why it is compared with them tick by tick. -/
def Machine.rounds (m : Machine) (host : σ) : Nat → Machine × σ
  | 0 => (m, host)
  | n + 1 => (m.rounds host n).1.round (m.rounds host n).2

end Rounds

namespace Task

variable {σ : Type} [Host σ] {t : Task} {host : σ}

/-! ### Ticks are rounds of the machine -/

/-- An admitted tick is one round: it steps the machine once, and has the request served that the
step has made. What the tick counts and records besides is not part of the machine. -/
theorem tick_round (h : t.exhausted = false) :
    ((t.tick host).1.machine, (t.tick host).2.1) = t.machine.round host := by
  rw [tick_host]
  have hrequest := request?_eq h
  unfold Machine.round
  -- the step faults, goes on, or asks something; in each case the tick leaves the machine that the
  -- round does
  rcases hstep : t.machine.step with ⟨m, (fault | (_ | r))⟩ <;> rw [hstep] at hrequest
  · rw [hrequest]
    by_cases hend : fault = .endOfScript
    · subst hend
      rw [(tick_finished host h hstep).1]
    · rw [(tick_faulted host h hstep hend).1]
  · rw [hrequest, (tick_continued host h hstep).1]
  · rw [(tick_machine_served host hrequest).1, hrequest, hstep]

/-- So admitted ticks are as many rounds. The limit is looked at before a tick, so all of them have
to be admitted. -/
theorem tickTimes_rounds {n : Nat} (h : t.Admits n) (host : σ) :
    ((t.tickTimes host n).1.machine, (t.tickTimes host n).2.1) = t.machine.rounds host n := by
  induction n with
  | zero => rfl
  | succ n ih =>
    have hn := ih (h.mono (Nat.le_succ n))
    rw [Machine.rounds, ← hn]
    exact tick_round (tickTimes_exhausted h host)

/-! ### Tasks under another limit -/

/-- The task under another limit, with the same machine and as many ticks behind it. Two runs are
compared as runs of one task under two limits. -/
def withLimit (t : Task) (limit : Option Nat) : Task := { t with limit }

@[simp] theorem withLimit_machine (t : Task) (limit : Option Nat) :
    (t.withLimit limit).machine = t.machine := rfl

@[simp] theorem withLimit_ticks (t : Task) (limit : Option Nat) :
    (t.withLimit limit).ticks = t.ticks := rfl

@[simp] theorem withLimit_limit (t : Task) (limit : Option Nat) :
    (t.withLimit limit).limit = limit := rfl

@[simp] theorem withLimit_withLimit (t : Task) (limit limit' : Option Nat) :
    (t.withLimit limit).withLimit limit' = t.withLimit limit' := rfl

/-- Recording an event does not look at the limit. -/
theorem trace_withLimit (t : Task) (limit : Option Nat) (event : Unit → TraceEvent) :
    (t.withLimit limit).trace event = (t.trace event).withLimit limit := by
  unfold trace withLimit
  dsimp only
  split
  · split <;> rfl
  · rfl

/-- Neither does recording what a step has come to. -/
theorem traceStep_withLimit (t : Task) (limit : Option Nat) (framesBefore : Nat) :
    (t.withLimit limit).traceStep framesBefore = (t.traceStep framesBefore).withLimit limit := by
  unfold traceStep
  by_cases hreturn : t.machine.frameCount < framesBefore
  · simp only [withLimit_machine, if_pos hreturn, trace_withLimit]
  · simp only [withLimit_machine, if_neg hreturn, trace_withLimit]

/-- Nor does having a request served. The limit is compared before a tick begins, and nothing within
the tick looks at it. -/
theorem serve_withLimit (t : Task) (limit : Option Nat) (host : σ) (r : Request) :
    (t.withLimit limit).serve host r
      = ((t.serve host r).1.withLimit limit, (t.serve host r).2) := by
  have hmachine : ∀ (s : Task) (m : Machine),
      { s.withLimit limit with machine := m } = withLimit { s with machine := m } limit :=
    fun _ _ => rfl
  unfold serve
  simp only [trace_withLimit, withLimit_machine, hmachine]
  -- both tasks record the request, and the machine gets the answer
  split
  · rfl
  · rfl

/-- **A tick that both limits admit** does not see which of them holds. The limit is looked at
before anything else, and not again. -/
theorem tick_withLimit {limit : Option Nat} (host : σ) (h : t.exhausted = false)
    (h' : (t.withLimit limit).exhausted = false) :
    (t.withLimit limit).tick host = ((t.tick host).1.withLimit limit, (t.tick host).2) := by
  -- counting the tick and stepping the machine are the same, whichever limit holds
  have hstepped : (t.withLimit limit).stepped = t.stepped.withLimit limit := rfl
  rw [tick_eq host h, tick_eq host h', withLimit_machine, hstepped]
  rcases t.machine.step.2 with (fault | (_ | r))
  · cases fault <;> simp only [trace_withLimit, withLimit_ticks, withLimit_machine]
  · simp only [traceStep_withLimit]
  · simp only [serve_withLimit]

/-- Neither do any number of ticks that both limits admit. The two tasks stay equal but for their
limits, by induction on the ticks. -/
theorem tickTimes_withLimit {n : Nat} {limit : Option Nat} (h : t.Admits n)
    (h' : (t.withLimit limit).Admits n) (host : σ) :
    (t.withLimit limit).tickTimes host n
      = ((t.tickTimes host n).1.withLimit limit, (t.tickTimes host n).2) := by
  induction n with
  | zero => rfl
  | succ n ih =>
    have hn := ih (h.mono (Nat.le_succ n)) (h'.mono (Nat.le_succ n))
    -- the limit is the only difference of the two tasks, so the next tick is admitted for both
    have hnext := tickTimes_exhausted h' host
    rw [hn] at hnext
    have htick := tick_withLimit (t.tickTimes host n).2.1 (tickTimes_exhausted h host) hnext
    rw [tickTimes, hn]
    simp only [htick]
    rfl

/-- So each tick comes to the same result under both limits. The state before the tick is the same
up to the limit, and the tick is admitted by both. -/
theorem resultAfter_withLimit {n : Nat} {limit : Option Nat} (h : t.Admits (n + 1))
    (h' : (t.withLimit limit).Admits (n + 1)) (host : σ) :
    (t.withLimit limit).resultAfter host n = t.resultAfter host n := by
  have hnext := tickTimes_exhausted h' host
  have hn := tickTimes_withLimit (h.mono (Nat.le_succ n)) (h'.mono (Nat.le_succ n)) host
  unfold resultAfter
  rw [hn] at hnext ⊢
  rw [tick_withLimit _ (tickTimes_exhausted h host) hnext]

/-- Ticks that go on under one limit go on under the other. -/
theorem GoesOn.withLimit {n : Nat} {limit : Option Nat} (hgoes : t.GoesOn host n)
    (h : t.Admits n) (h' : (t.withLimit limit).Admits n) :
    (t.withLimit limit).GoesOn host n := by
  intro k hk
  rw [resultAfter_withLimit (h.mono hk) (h'.mono hk)]
  exact hgoes k hk

/-- A run that ends with a tick under one limit ends with the same tick under the other. -/
theorem Ends.withLimit {n : Nat} {limit : Option Nat} {outcome : Except Fault Value}
    (hends : t.Ends host n outcome) (h : t.Admits (n + 1))
    (h' : (t.withLimit limit).Admits (n + 1)) : (t.withLimit limit).Ends host n outcome where
  before := hends.before.withLimit (h.mono (Nat.le_succ n)) (h'.mono (Nat.le_succ n))
  last := by
    rw [resultAfter_withLimit h h']
    exact hends.last

/-! ### Runs under another limit -/

/-- A run ends alike under a limit that it keeps. The fuel of a run is one more than its limit
admits, so it is enough for its last tick. -/
theorem run_withLimit_within {n limit : Nat} {outcome : Except Fault Value}
    (hends : t.Ends host n outcome) (h : t.Admits (n + 1)) (hlimit : t.ticks + (n + 1) ≤ limit) :
    (t.withLimit (some limit)).run host
      = ((t.tickTimes host (n + 1)).1.withLimit (some limit),
          (t.tickTimes host (n + 1)).2.1, outcome) := by
  have h' : (t.withLimit (some limit)).Admits (n + 1) := by
    rintro _ ⟨⟩
    exact hlimit
  have hfuel : n < (t.withLimit (some limit)).fuel := by
    change n < limit - t.ticks + 1
    omega
  rw [run_of_ends (hends.withLimit h h') hfuel, tickTimes_withLimit h h']

/-- A run that goes on is cut off by a limit, in the state in which the limit is used up. The world
is left as the last admitted tick has left it, and the tick that is refused adds nothing. -/
theorem run_withLimit_beyond {n : Nat} (hgoes : t.GoesOn host n) (h : t.Admits n) :
    (t.withLimit (some (t.ticks + n))).run host
      = ((t.tickTimes host n).1.withLimit (some (t.ticks + n)), (t.tickTimes host n).2.1,
          .error (.tickLimitExceeded (t.ticks + n))) := by
  have h' : (t.withLimit (some (t.ticks + n))).Admits n := by
    rintro _ ⟨⟩
    exact Nat.le_refl _
  have hticks := tickTimes_withLimit h h' host
  -- the tick after the first `n` ones is refused
  have hused : ((t.tickTimes host n).1.withLimit (some (t.ticks + n))).exhausted = true := by
    change decide (t.ticks + n ≤ (t.tickTimes host n).1.ticks) = true
    rw [tickTimes_ticks h]
    exact decide_eq_true (Nat.le_refl _)
  have hlast := tick_refused (t.tickTimes host n).2.1 hused
  have hends : (t.withLimit (some (t.ticks + n))).Ends host n
      (.error (.tickLimitExceeded (t.ticks + n))) := by
    refine ⟨hgoes.withLimit h h', ?_⟩
    unfold resultAfter
    rw [hticks, hlast]
    rfl
  -- there is fuel for the tick that is refused
  have hfuel : n < (t.withLimit (some (t.ticks + n))).fuel := by
    change n < t.ticks + n - t.ticks + 1
    omega
  rw [run_of_ends hends hfuel, tickTimes, hticks]
  simp only [hlast]

/-- A run with a limit comes to the state after some number of admitted ticks. A last tick that was
refused is not among them, since it has changed nothing. -/
theorem run_limited {limit : Nat} (hlimit : t.limit = some limit) (h : t.Admits 0) (host : σ) :
    ∃ n, t.Admits n ∧ (t.run host).1 = (t.tickTimes host n).1 ∧
      (t.run host).2.1 = (t.tickTimes host n).2.1 := by
  obtain ⟨n, outcome, hends, hn⟩ := exists_ends hlimit h host
  have hadmits := hends.before.admits h
  rw [run_of_ends hends hn]
  cases hnext : (t.tickTimes host n).1.exhausted with
  | false => exact ⟨n + 1, hadmits.succ hnext, rfl, rfl⟩
  | true =>
    have hlast := tick_refused (t.tickTimes host n).2.1 hnext
    exact ⟨n, hadmits, congrArg Prod.fst hlast, congrArg (fun x => x.2.1) hlast⟩

/-- A run that comes to an end of its own, under another limit: it ends alike if it keeps that, and
otherwise is cut off where that is used up. -/
theorem run_cut {L M : Nat} (hnew : t.ticks = 0)
    (hown : ∀ n, ((t.withLimit (some M)).run host).2.2 ≠ .error (.tickLimitExceeded n)) :
    (((t.withLimit (some M)).run host).1.ticks ≤ L →
      (t.withLimit (some L)).run host
        = (((t.withLimit (some M)).run host).1.withLimit (some L),
            ((t.withLimit (some M)).run host).2)) ∧
    (L < ((t.withLimit (some M)).run host).1.ticks → ∃ t' host',
      (t.withLimit (some M)).runFor host L = (t', host', none) ∧ t'.ticks = L ∧
      (t.withLimit (some L)).run host
        = (t'.withLimit (some L), host', .error (.tickLimitExceeded L))) := by
  have hzero : (t.withLimit (some M)).Admits 0 := admits_zero hnew
  -- the run ends in its tick `n + 1`, which its limit admits
  obtain ⟨n, outcome, hends, hn⟩ := exists_ends (withLimit_limit t (some M)) hzero host
  have hrun := run_of_ends hends hn
  rw [hrun] at hown ⊢
  have hadmits := hends.admits hzero hown
  have hticks : ((t.withLimit (some M)).tickTimes host (n + 1)).1.ticks = n + 1 := by
    rw [tickTimes_ticks hadmits, withLimit_ticks, hnew, Nat.zero_add]
  simp only [hticks]
  refine ⟨fun hle => ?_, fun hlt => ?_⟩
  · -- the run keeps the smaller limit, so the same tick ends it there
    have hbound : (t.withLimit (some M)).ticks + (n + 1) ≤ L := by
      rw [withLimit_ticks, hnew, Nat.zero_add]
      exact hle
    exact run_withLimit_within hends hadmits hbound
  · -- the first `L` ticks are before the last one, so all of them go on
    have hgoes : (t.withLimit (some M)).GoesOn host L := fun k hk => hends.before k (by omega)
    have hL : (t.withLimit (some M)).Admits L := hadmits.mono (by omega)
    have hcut := run_withLimit_beyond hgoes hL
    rw [withLimit_ticks, hnew, Nat.zero_add, withLimit_withLimit] at hcut
    refine ⟨_, _, runFor_of_goesOn hgoes, ?_, hcut⟩
    rw [tickTimes_ticks hL, withLimit_ticks, hnew, Nat.zero_add]

/-- A run with a limit is no more rounds of the machine than the limit admits, and it counts each of
them as a tick. -/
theorem run_rounds {limit : Nat} (hlimit : t.limit = some limit) (hnew : t.ticks = 0) (host : σ) :
    (t.run host).1.ticks ≤ limit ∧
    ((t.run host).1.machine, (t.run host).2.1) = t.machine.rounds host (t.run host).1.ticks := by
  obtain ⟨n, hadmits, htask, hhost⟩ := run_limited hlimit (admits_zero hnew) host
  have hticks : (t.run host).1.ticks = n := by
    rw [htask, tickTimes_ticks hadmits, hnew, Nat.zero_add]
  have hbound : t.ticks + n ≤ limit := hadmits limit hlimit
  constructor
  · omega
  · rw [hticks, htask, hhost]
    exact tickTimes_rounds hadmits host

/-- A tick beyond the limit is refused, and changes neither the task nor the host. -/
theorem tick_beyond {limit : Nat} (hlimit : t.limit = some limit) (h : limit ≤ t.ticks) :
    t.tick host = (t, host, .error (.tickLimitExceeded limit)) := by
  have hused : t.exhausted = true := by
    unfold exhausted
    rw [hlimit]
    exact decide_eq_true h
  rw [tick_refused host hused, hlimit]
  rfl

/-- **The tick limit cuts a run without changing it.** Take two limits `L` and `M` for a task that
has not ticked yet, and let the run under `M` come to an end of its own, with a value or a fault. If
it uses at most `L` ticks, then under `L` it comes to the same end in the same state. If it uses
more, then it is still going after `L` ticks, and the run under `L` ends in this state, with the
limit exceeded. Under any limit `L`, a run is at most `L` rounds of the machine, each of which steps
it once, whichever frame executes, and a tick beyond the limit changes nothing. -/
theorem run_within_budget (t : Task) (host : σ) {L M : Nat} (hnew : t.ticks = 0) :
    let long := (t.withLimit (some M)).run host
    let short := (t.withLimit (some L)).run host
    ((∀ n, long.2.2 ≠ .error (.tickLimitExceeded n)) →
      (long.1.ticks ≤ L → short = (long.1.withLimit (some L), long.2)) ∧
      (L < long.1.ticks → ∃ t' host',
        (t.withLimit (some M)).runFor host L = (t', host', none) ∧ t'.ticks = L ∧
        short = (t'.withLimit (some L), host', .error (.tickLimitExceeded L)))) ∧
    short.1.ticks ≤ L ∧
    (short.1.machine, short.2.1) = t.machine.rounds host short.1.ticks ∧
    ∀ (t' : Task) (host' : σ), t'.limit = some L → L ≤ t'.ticks →
      t'.tick host' = (t', host', .error (.tickLimitExceeded L)) := by
  intro long short
  obtain ⟨hbound, hrounds⟩ := run_rounds (withLimit_limit t (some L)) hnew host
  exact ⟨fun hown => run_cut hnew hown, hbound, hrounds,
    fun t' host' hlimit hle => tick_beyond hlimit hle⟩

end Task

/-- A store with one object and a verb of two statements. -/
def workshop : Store :=
  { world :=
      { objects := Table.ofList
          [(⟨1⟩, { id := ⟨1⟩, verbs := Table.ofList [("build", "$a = 'x'\n$_return = $a")] })] }
    stream := { seed := 0 } }

/-- A task that calls the verb. -/
def building : Task :=
  { machine := .start { owner := ⟨1⟩, script := [.call ⟨"build", none, none, none, []⟩] } }

/-- The call, the two statements of the verb and the end of the call are four ticks. A limit of four
is enough for the run, and a limit of two cuts it off in the verb. -/
theorem building_within_budget :
    (building.withLimit (some 4)).run workshop
      = (((building.withLimit (some 9)).run workshop).1.withLimit (some 4),
          ((building.withLimit (some 9)).run workshop).2.1, .ok .null) ∧
    ((building.withLimit (some 2)).run workshop).2.2 = .error (.tickLimitExceeded 2) ∧
    ((building.withLimit (some 2)).run workshop).1.machine.frameCount = 2 := by
  -- under the larger limit the run is through with a value after four ticks
  have hvalue : ((building.withLimit (some 9)).run workshop).2.2 = .ok .null := by decide +kernel
  have hticks : ((building.withLimit (some 9)).run workshop).1.ticks = 4 := by decide +kernel
  have hown : ∀ n, ((building.withLimit (some 9)).run workshop).2.2
      ≠ .error (.tickLimitExceeded n) := by
    intro n hlimit
    rw [hvalue] at hlimit
    cases hlimit
  refine ⟨?_, ?_⟩
  · rw [((Task.run_within_budget building workshop rfl).1 hown).1 (Nat.le_of_eq hticks), ← hvalue]
  · obtain ⟨t', host', hgoing, -, hshort⟩ :=
      ((Task.run_within_budget building workshop (L := 2) rfl).1 hown).2 (by rw [hticks]; decide)
    have hframes : ((building.withLimit (some 9)).runFor workshop 2).1.machine.frameCount = 2 := by
      decide +kernel
    rw [hgoing] at hframes
    rw [hshort]
    exact ⟨rfl, hframes⟩

end VerbScript
