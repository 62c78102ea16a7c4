import VerbScript.Proofs.Ticks

/-!
# Runs of tasks

`Task.run` ticks until a tick ends the script or fails. This module describes a run by the ticks
that it consists of, so that facts about single ticks carry over to it.

* `Tick.outcome?` — what a tick means for its run: the outcome of the run, or that it goes on.
* `Task.Ends t host n outcome` — the first `n` ticks go on, and the one after them ends the run with
  `outcome`. Ticks are deterministic, so there is at most one such `n` (`Task.Ends.unique`).
* `Task.runFor_cases` — a run either ends so, or has used up what it was given.
* `Task.run_cases`, `Task.run_of_ends`, `Task.ends_of_run`, `Task.exists_ends` — a run and its end
  determine each other, and a run with a limit always ends.
-/

namespace VerbScript

/-- What a tick means for the run it is part of: its outcome, or none if the run goes on. A request
that was served is no outcome, and a fault always is one. -/
def Tick.outcome? : Except Fault Tick → Option (Except Fault Value)
  | .ok (.finished v) => some (.ok v)
  | .ok _ => none
  | .error fault => some (.error fault)

/-- A run results in a value only by the tick that ends its script. No other tick carries a
value. -/
theorem Tick.outcome?_eq_ok {result : Except Fault Tick} {v : Value}
    (h : Tick.outcome? result = some (.ok v)) : result = .ok (.finished v) := by
  rcases result with fault | (_ | kind | v')
  · cases h
  · cases h
  · cases h
  · cases h
    rfl

/-- A run fails as its last tick does. The fault is handed on as it is, be it one of the script or
of the limit. -/
theorem Tick.outcome?_eq_error {result : Except Fault Tick} {fault : Fault}
    (h : Tick.outcome? result = some (.error fault)) : result = .error fault := by
  rcases result with fault' | (_ | kind | v)
  · cases h
    rfl
  · cases h
  · cases h
  · cases h

namespace Task

variable {σ : Type} [Host σ] {t : Task} {host : σ}

/-! ### Ticks in a row -/

/-- What the tick after the first `n` ones returns. It is looked at whether or not the run would
have come to it. -/
def resultAfter (t : Task) (host : σ) (n : Nat) : Except Fault Tick :=
  ((t.tickTimes host n).1.tick (t.tickTimes host n).2.1).2.2

theorem tickTimes_succ_task (t : Task) (host : σ) (n : Nat) :
    (t.tickTimes host (n + 1)).1
      = ((t.tickTimes host n).1.tick (t.tickTimes host n).2.1).1 := rfl

/-- Ticking once and then `n` times is ticking `n + 1` times. Ticks are counted from the end by
definition and from the beginning by runs, and this lemma goes between the two. -/
theorem tickTimes_tick (t : Task) (host : σ) (n : Nat) :
    ((t.tick host).1.tickTimes (t.tick host).2.1 n).1 = (t.tickTimes host (n + 1)).1 ∧
    ((t.tick host).1.tickTimes (t.tick host).2.1 n).2.1 = (t.tickTimes host (n + 1)).2.1 := by
  induction n with
  | zero => exact ⟨rfl, rfl⟩
  | succ n ih =>
    obtain ⟨htask, hhost⟩ := ih
    rw [tickTimes, tickTimes]
    simp only [htask, hhost, and_self]

/-- The results after the first tick are those of the task that it leaves, one place later. So a
statement about a run can be proved from its first tick on. -/
theorem resultAfter_tick (t : Task) (host : σ) (n : Nat) :
    (t.tick host).1.resultAfter (t.tick host).2.1 n = t.resultAfter host (n + 1) := by
  obtain ⟨htask, hhost⟩ := t.tickTimes_tick host n
  unfold resultAfter
  rw [htask, hhost]

/-- Ticks do not change the limit. The number of ticks that are left is the difference of the limit
and the counter. -/
theorem tickTimes_limit (t : Task) (host : σ) (n : Nat) :
    (t.tickTimes host n).1.limit = t.limit := by
  induction n with
  | zero => rfl
  | succ n ih => exact (tick_limit _ _).trans ih

/-- The limit admits `n` further ticks. Without a limit there is nothing to be asked. -/
def Admits (t : Task) (n : Nat) : Prop := ∀ limit, t.limit = some limit → t.ticks + n ≤ limit

theorem admits_zero (h : t.ticks = 0) : t.Admits 0 := by
  intro limit _
  rw [h]
  exact Nat.zero_le limit

/-- Fewer ticks are admitted as well. This is how an assumption about a whole run is used for its
beginning. -/
theorem Admits.mono {n k : Nat} (h : t.Admits n) (hk : k ≤ n) : t.Admits k := by
  intro limit hlimit
  have hn := h limit hlimit
  omega

/-- A limit that admits one more tick is not exhausted. A task without a limit never is. -/
theorem Admits.exhausted_eq (h : t.Admits 1) : t.exhausted = false := by
  unfold exhausted
  cases hlimit : t.limit with
  | none => rfl
  | some limit =>
    have hle := h limit hlimit
    exact decide_eq_false (by omega)

/-- Ticks that the limit admits are counted, whatever they return. A tick that fails is counted like
any other; only one that is refused is not. -/
theorem tickTimes_ticks {n : Nat} (h : t.Admits n) (host : σ) :
    (t.tickTimes host n).1.ticks = t.ticks + n := by
  induction n with
  | zero => rfl
  | succ n ih =>
    have hn := ih (h.mono (Nat.le_succ n))
    -- the last of the ticks is admitted, because one less has been counted so far
    have hone : (t.tickTimes host n).1.Admits 1 := by
      intro limit hlimit
      rw [tickTimes_limit] at hlimit
      have hle := h limit hlimit
      omega
    calc (t.tickTimes host (n + 1)).1.ticks
        = (t.tickTimes host n).1.ticks + 1 := tick_ticks _ hone.exhausted_eq
      _ = t.ticks + (n + 1) := by rw [hn, Nat.add_assoc]

/-- After fewer ticks than the limit admits, the next one is admitted. So each tick of an admitted
run may be taken apart as one that is not refused. -/
theorem tickTimes_exhausted {n : Nat} (h : t.Admits (n + 1)) (host : σ) :
    (t.tickTimes host n).1.exhausted = false := by
  refine Admits.exhausted_eq fun limit hlimit => ?_
  rw [tickTimes_limit] at hlimit
  have hle := h limit hlimit
  rw [tickTimes_ticks (h.mono (Nat.le_succ n))]
  omega

/-- As long as the limit is not exhausted it admits one tick more. The counter says how many have
been admitted so far. -/
theorem Admits.succ {n : Nat} (h : t.Admits n)
    (hnext : (t.tickTimes host n).1.exhausted = false) : t.Admits (n + 1) := by
  intro limit hlimit
  unfold exhausted at hnext
  rw [tickTimes_limit, hlimit, tickTimes_ticks h] at hnext
  have hlt : ¬ limit ≤ t.ticks + n := of_decide_eq_false hnext
  omega

/-- A tick with which a run goes on was admitted. One that is refused reports the limit, and ends
the run. -/
theorem exhausted_of_goesOn (h : Tick.outcome? (t.tick host).2.2 = none) : t.exhausted = false := by
  cases hlimit : t.exhausted with
  | false => rfl
  | true =>
    -- a tick that is refused ends its run
    rw [tick_refused host hlimit] at h
    cases h

/-! ### How runs end -/

/-- The first `n` ticks neither end the script nor fail. This is said without a run, so it can be
compared for different limits. -/
def GoesOn (t : Task) (host : σ) (n : Nat) : Prop :=
  ∀ k < n, Tick.outcome? (t.resultAfter host k) = none

/-- The first `n` ticks go on, and the one after them ends the run with `outcome`. Nothing is said
of how many ticks the run is given. -/
structure Ends (t : Task) (host : σ) (n : Nat) (outcome : Except Fault Value) : Prop where
  before : t.GoesOn host n
  last : Tick.outcome? (t.resultAfter host n) = some outcome

/-- **A run ends once**, and with one outcome: before the tick that ends it no other one does. So
two ways of running a task to its end must agree. -/
theorem Ends.unique {n k : Nat} {outcome outcome' : Except Fault Value}
    (h : t.Ends host n outcome) (h' : t.Ends host k outcome') : n = k ∧ outcome = outcome' := by
  -- an end that came earlier would be among the ticks that go on
  have hle : n ≤ k :=
    Nat.le_of_not_lt fun hlt => absurd ((h.before k hlt).symm.trans h'.last) nofun
  have hge : k ≤ n :=
    Nat.le_of_not_lt fun hlt => absurd ((h'.before n hlt).symm.trans h.last) nofun
  obtain rfl : n = k := Nat.le_antisymm hle hge
  exact ⟨rfl, Option.some.inj (h.last.symm.trans h'.last)⟩

/-- Ticks with which a run goes on are admitted. So nothing need be assumed of the limit while a run
goes on. -/
theorem GoesOn.admits {n : Nat} (hgoes : t.GoesOn host n) (h : t.Admits 0) : t.Admits n := by
  induction n with
  | zero => exact h
  | succ n ih =>
    have hn := ih fun k hk => hgoes k (Nat.lt_succ_of_lt hk)
    exact hn.succ (exhausted_of_goesOn (hgoes n (Nat.lt_succ_self n)))

/-- So is the last tick of a run that does not end at its limit. If it were not admitted, it would
report the limit. -/
theorem Ends.admits {n : Nat} {outcome : Except Fault Value} (hends : t.Ends host n outcome)
    (h : t.Admits 0) (houtcome : ∀ k, outcome ≠ .error (.tickLimitExceeded k)) :
    t.Admits (n + 1) := by
  have hn := hends.before.admits h
  cases hnext : (t.tickTimes host n).1.exhausted with
  | false => exact hn.succ hnext
  | true =>
    have hlast := hends.last
    -- a tick beyond the limit reports the limit
    unfold resultAfter at hlast
    rw [tick_refused _ hnext] at hlast
    exact absurd (Option.some.inj hlast).symm (houtcome _)

/-- A first tick that goes on and ticks that go on behind it are one more of them. In an induction
over a run, the task and the host that the first tick has left take the place of those at the
beginning. -/
theorem GoesOn.tick {n : Nat} (hfirst : Tick.outcome? (t.tick host).2.2 = none)
    (h : (t.tick host).1.GoesOn (t.tick host).2.1 n) : t.GoesOn host (n + 1) := by
  intro k hk
  cases k with
  | zero => exact hfirst
  | succ k =>
    rw [← resultAfter_tick]
    exact h k (Nat.lt_of_succ_lt_succ hk)

/-- A run is its first tick and, if that goes on, a run of what it leaves. This is the step of every
induction over a run. -/
theorem runFor_succ (t : Task) (host : σ) (fuel : Nat) :
    t.runFor host (fuel + 1) = match Tick.outcome? (t.tick host).2.2 with
      | some outcome => ((t.tick host).1, (t.tick host).2.1, some outcome)
      | none => (t.tick host).1.runFor (t.tick host).2.1 fuel := by
  rw [runFor]
  rcases t.tick host with ⟨t', host', (fault | (_ | kind | v))⟩ <;> rfl

/-- **How a run stands after at most `fuel` ticks**: it has ended in one of them, or all of them go
on. -/
theorem runFor_cases (t : Task) (host : σ) (fuel : Nat) :
    (∃ n outcome, n < fuel ∧ t.Ends host n outcome ∧ t.runFor host fuel
      = ((t.tickTimes host (n + 1)).1, (t.tickTimes host (n + 1)).2.1, some outcome)) ∨
    (t.GoesOn host fuel ∧ t.runFor host fuel
      = ((t.tickTimes host fuel).1, (t.tickTimes host fuel).2.1, none)) := by
  induction fuel generalizing t host with
  | zero => exact .inr ⟨fun k hk => absurd hk (Nat.not_lt_zero k), rfl⟩
  | succ fuel ih =>
    rw [runFor_succ]
    cases hfirst : Tick.outcome? (t.tick host).2.2 with
    -- the first tick ends the run
    | some outcome =>
      refine .inl ⟨0, outcome, Nat.succ_pos fuel, ⟨?_, hfirst⟩, rfl⟩
      exact fun k hk => absurd hk (Nat.not_lt_zero k)
    | none =>
      -- the rest of the run is a run from the first tick on
      rcases ih (t.tick host).1 (t.tick host).2.1 with
        ⟨n, outcome, hn, hends, hrun⟩ | ⟨hgoes, hrun⟩
      · obtain ⟨htask, hhost⟩ := t.tickTimes_tick host (n + 1)
        refine .inl ⟨n + 1, outcome, Nat.succ_lt_succ hn, ⟨.tick hfirst hends.before, ?_⟩, ?_⟩
        · rw [← resultAfter_tick]
          exact hends.last
        · rw [← htask, ← hhost]
          exact hrun
      · obtain ⟨htask, hhost⟩ := t.tickTimes_tick host fuel
        refine .inr ⟨.tick hfirst hgoes, ?_⟩
        rw [← htask, ← hhost]
        exact hrun

/-- A run all of whose ticks go on has no outcome yet. It is in the state after these ticks. -/
theorem runFor_of_goesOn {n : Nat} (h : t.GoesOn host n) :
    t.runFor host n = ((t.tickTimes host n).1, (t.tickTimes host n).2.1, none) := by
  rcases t.runFor_cases host n with ⟨k, outcome, hk, hends, -⟩ | ⟨-, hrun⟩
  · exact absurd ((h k hk).symm.trans hends.last) nofun
  · exact hrun

/-- A run that ends within what it is given comes to the state after its last tick. The loop stops
there, and no tick is made beyond it. -/
theorem run_of_ends {n : Nat} {outcome : Except Fault Value} (h : t.Ends host n outcome)
    (hn : n < t.fuel) :
    t.run host = ((t.tickTimes host (n + 1)).1, (t.tickTimes host (n + 1)).2.1, outcome) := by
  rcases t.runFor_cases host t.fuel with ⟨k, outcome', -, hends, hrun⟩ | ⟨hgoes, -⟩
  · -- there is one end, and the run has come to it
    obtain ⟨rfl, rfl⟩ := h.unique hends
    unfold run
    rw [hrun]
    rfl
  · exact absurd ((hgoes n hn).symm.trans h.last) nofun

/-- **What a run comes to**: the state after some number of ticks, and the outcome of the last one,
unless it has used up what it was given. In that case it reports the limit. -/
theorem run_cases (t : Task) (host : σ) :
    ∃ n, (t.run host).1 = (t.tickTimes host n).1 ∧ (t.run host).2.1 = (t.tickTimes host n).2.1 ∧
      ((∃ k, t.Ends host k (t.run host).2.2) ∨
        ∃ limit, (t.run host).2.2 = .error (.tickLimitExceeded limit)) := by
  unfold run
  rcases t.runFor_cases host t.fuel with ⟨n, outcome, -, hends, hrun⟩ | ⟨-, hrun⟩
  · rw [hrun]
    exact ⟨n + 1, rfl, rfl, .inl ⟨n, hends⟩⟩
  · rw [hrun]
    exact ⟨t.fuel, rfl, rfl, .inr ⟨_, rfl⟩⟩

/-- A run that results in a value has ended in one of its ticks. A run that uses up what it is given
results in a fault. -/
theorem ends_of_run {v : Value} (h : (t.run host).2.2 = .ok v) :
    ∃ n, t.Ends host n (.ok v) ∧
      t.run host = ((t.tickTimes host (n + 1)).1, (t.tickTimes host (n + 1)).2.1, .ok v) := by
  rcases t.runFor_cases host t.fuel with ⟨n, outcome, hn, hends, -⟩ | ⟨-, hrun⟩
  · have hrun := run_of_ends hends hn
    rw [hrun] at h
    obtain rfl : outcome = .ok v := h
    exact ⟨n, hends, hrun⟩
  · -- what is given to a run that does not end is reported as used up
    unfold run at h
    rw [hrun] at h
    cases h

/-- **A run with a limit ends**, at the latest in the tick that the limit refuses. This is why the
fuel of a run is enough: it is more than the limit admits. -/
theorem exists_ends {limit : Nat} (hlimit : t.limit = some limit) (h : t.Admits 0) (host : σ) :
    ∃ n outcome, t.Ends host n outcome ∧ n < t.fuel := by
  rcases t.runFor_cases host t.fuel with ⟨n, outcome, hn, hends, -⟩ | ⟨hgoes, -⟩
  · exact ⟨n, outcome, hends, hn⟩
  · -- the last of these ticks would be beyond the limit
    have hle := hgoes.admits h limit hlimit
    unfold fuel at hle
    rw [hlimit] at hle
    simp only at hle
    omega

end Task

end VerbScript
