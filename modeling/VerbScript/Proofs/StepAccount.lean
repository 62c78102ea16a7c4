import Mathlib.Algebra.GroupWithZero.Nat
import Mathlib.Control.Monad.Basic
import VerbScript.Proofs.Agreement
import VerbScript.Proofs.Places
import VerbScript.Proofs.Runs

/-!
# What ticks are spent on

A task that runs to its end spends its ticks on the statements it executes, on the requests it has
answered, and on frames whose script is empty. One tick can do two of these things, and another
nothing: a statement may be through and the search for the next one may have to ask for the
condition of a loop, and the tick that goes on with the answer executes no statement.

* `Frame.executes?` — the statement that the next step of a frame executes to its end.
* `Task.account` — what the first ticks of a task have done.
* `Frame.owed` — a tick that a frame has still to spend on what the account lists already: a frame
  with an empty script has to end, and a frame that looks for its next statement has to go there.
* `Frame.Ready.pays` and `Machine.AtWork.pays` say how a step changes what is owed, and
  `Task.tick_balance` carries it over to ticks: the ticks so far and what is owed are the account.
* `Task.run_accounted` — at the end of a run nothing is owed.
-/

namespace VerbScript

/-- A step pays one tick of what is due. What is `owed` after a step that goes on makes up, with
this tick, what was due; a request is paid for by its own tick; and the end leaves nothing
unpaid. -/
def Pays {α : Type} (owed : α → Nat) (due : Nat) : α × Except Fault Step → Prop
  | (a, .ok .continued) => owed a + 1 = due
  | (a, .ok (.suspended _)) => owed a = due
  | (_, .error .endOfScript) => due = 1
  | (_, .error _) => True

/-- A fault pays nothing, since the run ends with it. The end of the script is no fault here. -/
theorem pays_of_fault {α : Type} {owed : α → Nat} {due : Nat} {fault : Fault} (a : α)
    (h : fault ≠ .endOfScript) : Pays owed due (a, .error fault) := by
  cases fault with
  | endOfScript => exact absurd rfl h
  | _ => trivial

/-! ### Frames -/

namespace Frame

variable {f : Frame}

/-- The statement that the next step executes to its end, and its path. Going on behind a statement
is not part of it, even if the condition of a loop is evaluated again on the way. -/
def executes? (f : Frame) : Option (Path × Statement) :=
  match f.failure, f.awaiting, f.finished, f.phase with
  | none, none, false, .execute =>
    match f.script.find? f.path with
    | some statement =>
      match (statement.plan f.scope).replay f.replies with
      | .done _ => some (f.path, statement)
      | _ => none
    | none => none
  | _, _, _, _ => none

/-- A frame that looks for its next statement executes none. -/
theorem executes?_advance (h : f.phase = .advance) : f.executes? = none := by
  unfold executes?
  rw [h]
  cases f.failure <;> cases f.awaiting <;> cases f.finished <;> rfl

/-- A frame on a statement executes it if the plan of the statement is through with the answers that
are there. -/
theorem executes?_found {statement : Statement} (h : f.Ready) (hphase : f.phase = .execute)
    (hfind : f.script.find? f.path = some statement) :
    f.executes? = match (statement.plan f.scope).replay f.replies with
      | .done _ => some (f.path, statement)
      | _ => none := by
  unfold executes?
  rw [h.failure, h.awaiting, h.finished, hphase, hfind]

/-- Without a statement, none is executed. -/
theorem executes?_none (hfind : f.script.find? f.path = none) : f.executes? = none := by
  unfold executes?
  rw [hfind]
  split <;> rfl

/-- The ticks that the frame has to spend without executing a statement or asking something: one to
find that an empty script is over, and one to go on behind a statement. -/
def owed (f : Frame) : Nat := if f.script = [] ∨ f.phase = .advance then 1 else 0

/-- A frame with an empty script owes the tick in which it ends. -/
theorem owed_empty (h : f.script = []) : f.owed = 1 := if_pos (.inl h)

/-- A frame that looks for its next statement owes the tick in which it goes there. -/
theorem owed_advance (h : f.phase = .advance) : f.owed = 1 := if_pos (.inr h)

/-- A frame on a statement owes nothing: the tick in which it executes it is spent on it. -/
theorem owed_execute (hscript : f.script ≠ []) (hphase : f.phase = .execute) : f.owed = 0 := by
  refine if_neg ?_
  rintro (hempty | hadvance)
  · exact hscript hempty
  · rw [hphase] at hadvance
    cases hadvance

/-- At its beginning, a frame owes a tick if its script is empty. -/
theorem Fresh.owed_eq (h : f.Fresh) : f.owed = [f].countP (·.script.isEmpty) := by
  by_cases hempty : f.script = []
  · rw [owed_empty hempty]
    simp [hempty]
  · rw [owed_execute hempty h.phase]
    simp [hempty]

/-- What a frame owes depends on its script and its phase only. -/
theorem owed_congr {g : Frame} (hscript : g.script = f.script) (hphase : g.phase = f.phase) :
    g.owed = f.owed := by
  unfold owed
  rw [hscript, hphase]

/-- **Going on** behind a statement pays the one tick that is owed for it. If the search asks
something on its way, the tick is still owed. -/
theorem advance_pays (hscript : f.script ≠ []) (hphase : f.phase = .advance) :
    Pays owed 1 f.advance := by
  rw [advance_eq]
  cases hr : (successorPlan f.scope f.script f.path.reverse).replay f.replies with
  -- a loop has to be tested, so the tick is owed still
  | suspended r => exact owed_advance hphase
  | failed fault =>
    exact pays_of_fault _ ((successorPlan_regular _ _ _).ordinary hr).ne_end
  | done next =>
    cases next with
    | some path =>
      -- the frame stands on the next statement now and owes nothing
      have hthere : owed { f with phase := .execute, path }.reset = 0 := owed_execute hscript rfl
      exact congrArg (· + 1) hthere
    | none => rfl

/-- **A step** pays for itself: what is due is what the frame owes, and the statement that the step
executes to its end. -/
theorem Ready.pays (h : f.Ready) (hplaced : f.Placed) :
    Pays owed (f.owed + f.executes?.toList.length) f.step := by
  by_cases hscript : f.script = []
  · -- there is no statement, and the step finds the end
    have hfind := hplaced.find?_eq_none_iff.2 hscript
    rw [executes?_none hfind, owed_empty hscript]
    cases hphase : f.phase with
    | execute =>
      rw [step_execute_none h hphase hfind]
      rfl
    | advance =>
      -- the search starts in an empty script, and finds its end at once
      rcases hplaced with ⟨-, hpath⟩ | hfound
      · rw [step_advance h hphase, advance_eq, hscript, hpath]
        rfl
      · rw [hfind] at hfound
        cases hfound
  · cases hphase : f.phase with
    | advance =>
      -- going on executes no statement, and the tick for it is owed
      rw [step_advance h hphase, executes?_advance hphase, owed_advance hphase]
      exact advance_pays hscript hphase
    | execute =>
      cases hfind : f.script.find? f.path with
      | none => exact absurd (hplaced.find?_eq_none_iff.1 hfind) hscript
      | some statement =>
        have howed := owed_execute hscript hphase
        rw [step_execute h hphase hfind, executes?_found h hphase hfind, howed]
        cases hr : (statement.plan f.scope).replay f.replies with
        | suspended r => exact howed
        -- a statement that fails is not executed, and the run ends with it
        | failed fault =>
          exact pays_of_fault _ ((statement.plan_regular f.scope).ordinary hr).ne_end
        | done effect =>
          -- the statement is one more that is due: entering its block pays for it at once, and
          -- going on behind it pays now or, if that has to ask something, later
          cases effect with
          | descend =>
            have hinside : owed { f with path := f.path ++ [0] }.reset = 0 :=
              owed_execute hscript hphase
            exact congrArg (· + 1) hinside
          | next => exact advance_pays hscript rfl
          | write name value => exact advance_pays hscript rfl

/-- A step that does not fail does not reach the end. To reach it is to fail with the end of the
script. -/
theorem Ready.step_unfinished {progress : Step} (h : f.Ready) (hstep : f.step.2 = .ok progress) :
    f.step.1.finished = false := by
  have hworking := h.working
  generalize f.step = x at hworking hstep
  cases hworking with
  | suspended g r place => exact place.finished
  | aborted g fault place => cases hstep
  | entered statement found effect => exact h.finished
  | arrived g next place search =>
    cases next with
    | some path => exact place.finished
    | none => cases hstep

end Frame

/-! ### Machines -/

namespace Machine

variable {m : Machine} {limit : Nat}

/-- The ticks that the frames have to spend without executing a statement or asking something. The
frames that wait count as well: one may have called from the condition of a loop that it was testing
on its way. -/
def owed (m : Machine) : Nat := m.current.owed + (m.callers.map Frame.owed).sum

/-- The frame that has been started between two states of a machine: the executing one, if there are
more frames than before. -/
def started (before after : Machine) : List Frame :=
  if before.frameCount < after.frameCount then [after.current] else []

/-- **The invariant of a task that has not come to its end**, between two ticks. The task is
settled, its frames stand on statements, and the executing frame is not at its end. -/
structure AtWork (limit : Nat) (m : Machine) : Prop extends Settled limit m where
  placed : m.Placed
  unfinished : m.current.finished = false

/-- Between two ticks nothing is asked, so without a fault to raise the executing frame can work. -/
theorem AtWork.ready (h : m.AtWork limit) (hfailure : m.current.failure = none) :
    m.current.Ready := ⟨h.idle, hfailure, h.unfinished⟩

/-- **A step of a machine** pays for itself, also when it returns to a caller. What the caller owes
has been owed all the time that it has waited. -/
theorem AtWork.pays (h : m.AtWork limit) (hfailure : m.current.failure = none) :
    Pays owed (m.owed + m.current.executes?.toList.length) m.step := by
  have hpays := (h.ready hfailure).pays (h.placed _ m.current_mem_frames)
  unfold owed
  rcases m.step_cases with ⟨g, progress, hg, hm⟩ | ⟨g, caller, callers, hg, hcallers, hm⟩ |
    ⟨g, fault, hg, hend, hm⟩
  · -- the executing frame has made the step, and what the others owe has not changed
    rw [hg] at hpays
    rw [hm]
    cases progress with
    | continued =>
      change g.owed + 1 = _ at hpays
      change g.owed + (m.callers.map Frame.owed).sum + 1 = _
      omega
    | suspended r =>
      change g.owed = _ at hpays
      change g.owed + (m.callers.map Frame.owed).sum = _
      omega
  · -- the called frame leaves with its last tick, and its caller owes what it owed
    rw [hg] at hpays
    rw [hm, hcallers, List.map_cons, List.sum_cons]
    change _ = 1 at hpays
    change caller.owed + (callers.map Frame.owed).sum + 1 = _
    omega
  · rw [hm]
    -- only the outermost frame reports the end, and there are no others that could owe something
    by_cases hfault : fault = .endOfScript
    · subst hfault
      rw [hg] at hpays
      rw [hend rfl]
      change _ = 1 at hpays
      change _ + 0 + _ = 1
      omega
    · exact pays_of_fault _ hfault

/-- A step that does not fail leaves a frame on top that is not at its end. If the frame has
returned, this is its caller, which has been waiting within its script. -/
theorem AtWork.step_unfinished (h : m.AtWork limit) (hfailure : m.current.failure = none)
    {progress : Step} (hstep : m.step.2 = .ok progress) : m.step.1.current.finished = false := by
  rcases m.step_cases with ⟨g, progress', hg, hm⟩ | ⟨g, caller, callers, -, hcallers, hm⟩ |
    ⟨g, fault, -, -, hm⟩
  · have hframe := (h.ready hfailure).step_unfinished (by rw [hg])
    rw [hg] at hframe
    rw [hm]
    exact hframe
  · rw [hm]
    exact (h.orderly.callers caller (by rw [hcallers]; exact List.mem_cons_self)).finished
  · rw [hm] at hstep
    cases hstep

/-- A step starts no frame. Frames are started by answers only, and by the task at its beginning. -/
theorem step_frameCount_le (m : Machine) : m.step.1.frameCount ≤ m.frameCount := by
  rcases m.step_cases with ⟨g, progress, -, hm⟩ | ⟨g, caller, callers, -, hcallers, hm⟩ |
    ⟨g, fault, -, -, hm⟩
  · rw [hm]
    exact Nat.le_refl _
  · rw [hm]
    unfold frameCount
    rw [hcallers]
    exact Nat.le_succ _
  · -- a fault leaves one frame, and there was one at least
    rw [hm]
    rcases unwind_cases { m with current := g } with ⟨-, heq⟩ | ⟨upper, root, -, heq⟩
    · rw [heq]
      exact Nat.le_refl _
    · rw [heq]
      exact Nat.le_add_left 1 m.callers.length

/-- A step that asks something leaves the stack as it is. So a frame that its answer brings is known
by the count of frames before and after the tick. -/
theorem step_frameCount_of_suspended {r : Request} (h : m.step.2 = .ok (.suspended r)) :
    m.step.1.frameCount = m.frameCount := by
  rcases m.step_cases with ⟨g, progress, -, hm⟩ | ⟨g, caller, callers, -, -, hm⟩ |
    ⟨g, fault, -, -, hm⟩
  · rw [hm]
    rfl
  · rw [hm] at h
    cases h
  · rw [hm] at h
    cases h

/-- **What an answer does to the stack**: it leaves all frames where they are, or starts one, which
is at the beginning of its script. -/
theorem resume_cases {r : Request} (hopen : m.current.awaiting = some r)
    {reply : Except Fault Reply} (hfresh : ∀ n, reply = .ok (.frame n) → n.Fresh) :
    (∃ g : Frame, (m.resume reply).1 = { m with current := g } ∧ g.script = m.current.script ∧
      g.phase = m.current.phase ∧ g.finished = m.current.finished) ∨
    (∃ f : Frame, (m.resume reply).1
      = { current := f, callers := { m.current with awaiting := none } :: m.callers } ∧
      f.Fresh) := by
  cases reply with
  | error fault =>
    rw [resume_error hopen]
    exact .inl ⟨_, rfl, rfl, rfl, rfl⟩
  | ok reply =>
    rw [resume_ok hopen]
    rcases deliver_cases { m with current := { m.current with awaiting := none } } r reply with
      ⟨v, heq⟩ | ⟨fault, -, heq⟩ | ⟨n, hn, -, heq⟩
    · rw [heq]
      exact .inl ⟨_, rfl, rfl, rfl, rfl⟩
    · rw [heq]
      exact .inl ⟨_, rfl, rfl, rfl, rfl⟩
    · -- the machine that is brought is a single frame at its beginning
      obtain ⟨f, rfl, hf⟩ := hfresh n (by rw [hn])
      rw [heq]
      exact .inr ⟨_, rfl, hf.calledFrom _⟩

/-- An answer adds to what is owed the frame it starts, if that has an empty script. Any other new
frame owes nothing. -/
theorem owed_resume {r : Request} (hopen : m.current.awaiting = some r)
    {reply : Except Fault Reply} (hfresh : ∀ n, reply = .ok (.frame n) → n.Fresh) :
    (m.resume reply).1.owed
      = m.owed + (m.started (m.resume reply).1).countP (·.script.isEmpty) := by
  rcases resume_cases hopen hfresh with ⟨g, heq, hscript, hphase, -⟩ | ⟨f, heq, hf⟩
  · -- without a new frame, nothing has been started and nothing more is owed
    have hnone : m.started { m with current := g } = [] := if_neg (Nat.lt_irrefl m.frameCount)
    rw [heq, hnone]
    change g.owed + _ = m.current.owed + _ + 0
    rw [Frame.owed_congr hscript hphase]
    rfl
  · -- the new frame owes a tick exactly if its script is empty
    have hnew : m.started
        { current := f, callers := { m.current with awaiting := none } :: m.callers } = [f] :=
      if_pos (Nat.lt_succ_self m.frameCount)
    rw [heq, hnew, ← hf.owed_eq]
    change f.owed + (m.current.owed + (m.callers.map Frame.owed).sum) = m.owed + f.owed
    exact Nat.add_comm _ _

end Machine

/-! ### Tasks -/

/-- What ticks have done, as lists. Only the lengths of the first two count, and of the third the
frames whose script is empty. -/
structure Account where
  /-- The statements that have been executed to their end, with their paths. -/
  executed : List (Path × Statement) := []
  /-- The requests that have been answered. -/
  served : List Request := []
  /-- The frames that have been started. -/
  started : List Frame := []

/-- The number of statements, of requests and of frames with an empty script: what ticks have been
spent on. -/
def Account.total (a : Account) : Nat :=
  a.executed.length + a.served.length + a.started.countP (·.script.isEmpty)

namespace Task

variable {σ : Type} [Host σ] {t : Task} {host : σ} {limit : Nat}

/-- The statement that the next tick executes to its end, and its path. A tick that is refused
executes nothing. -/
def executes? (t : Task) : Option (Path × Statement) :=
  if t.exhausted then none else t.machine.current.executes?

/-- In a tick that is admitted, the statement is that of the executing frame. -/
theorem executes?_eq (h : t.exhausted = false) : t.executes? = t.machine.current.executes? := by
  unfold executes?
  rw [h]
  rfl

/-- What the first `n` ticks have done. The frames of the task count as started before them, so that
an empty script is accounted for. -/
def account (t : Task) (host : σ) : Nat → Account
  | 0 => { started := t.machine.frames }
  | n + 1 =>
    let before := (t.tickTimes host n).1
    let after := (t.tickTimes host (n + 1)).1
    let account := t.account host n
    { executed := account.executed ++ before.executes?.toList
      served := account.served ++ before.request?.toList
      started := account.started ++ before.machine.started after.machine }

/-- What one tick adds to the account: at most one statement, one request and one frame. -/
def spent (t : Task) (host : σ) : Nat :=
  t.executes?.toList.length + t.request?.toList.length
    + (t.machine.started (t.tick host).1.machine).countP (·.script.isEmpty)

/-- The account grows by what each tick adds to it. -/
theorem account_total_succ (t : Task) (host : σ) (n : Nat) :
    (t.account host (n + 1)).total
      = (t.account host n).total + (t.tickTimes host n).1.spent (t.tickTimes host n).2.1 := by
  simp only [account, Account.total, List.length_append, List.countP_append]
  unfold spent
  rw [tickTimes_succ_task]
  omega

/-- A tick that does not fail is admitted, and has no fault to raise. So it is spent on the work of
the executing frame, and this is what the account is about. -/
theorem tick_unhindered (h : t.machine.AtWork limit) (host : σ)
    (hok : ∀ fault, (t.tick host).2.2 ≠ .error fault) :
    t.exhausted = false ∧ t.machine.current.failure = none := by
  -- a tick beyond the limit would fail
  have hlimit : t.exhausted = false := by
    cases hrefused : t.exhausted with
    | false => rfl
    | true => exact absurd (congrArg (fun x => x.2.2) (tick_refused host hrefused)) (hok _)
  refine ⟨hlimit, ?_⟩
  cases hfailure : t.machine.current.failure with
  | none => rfl
  -- so would one that raises a fault
  | some fault =>
    have hne := (h.ordinary fault hfailure).ne_end
    have hstep := Machine.step_of_failure hfailure hne
    exact absurd (tick_faulted host hlimit (Prod.ext rfl hstep) hne).2 (hok fault)

/-- A tick that asks nothing is spent on the statement it executes. It serves no request and starts
no frame, so the other two entries of the account stay. -/
theorem spent_of_quiet (host : σ) (hlimit : t.exhausted = false)
    (hquiet : t.request? = none) :
    t.spent host = t.machine.current.executes?.toList.length := by
  -- no frame is started, as the stack does not grow
  have hcount : (t.tick host).1.machine.frameCount ≤ t.machine.frameCount := by
    rcases tick_machine_stepped host hquiet with heq | heq
    · exact Nat.le_of_eq (congrArg Machine.frameCount heq)
    · rw [heq]
      exact t.machine.step_frameCount_le
  have hnone : t.machine.started (t.tick host).1.machine = [] := if_neg (Nat.not_lt.2 hcount)
  unfold spent
  rw [executes?_eq hlimit, hquiet, hnone]
  rfl

/-- **A tick with which a run goes on** leaves the task at work, and what it spends is itself and
the change in what is owed. -/
theorem tick_balance (hhost : Host.Agrees σ) (h : t.machine.AtWork limit)
    (hgoes : Tick.outcome? (t.tick host).2.2 = none) :
    (t.tick host).1.machine.AtWork limit ∧
    (t.tick host).1.machine.owed + 1 = t.machine.owed + t.spent host := by
  -- the run goes on, so the tick has not failed
  obtain ⟨hlimit, hfailure⟩ := tick_unhindered h host fun fault hfault => by
    rw [hfault] at hgoes
    cases hgoes
  have hsettled := tick_settled hhost h.toSettled host
  have hpays := h.pays hfailure
  have hrequest := request?_eq hlimit
  rcases hstep : t.machine.step with ⟨m, (fault | (_ | r))⟩ <;> rw [hstep] at hrequest hpays
  · -- a step that fails ends the run
    exfalso
    by_cases hend : fault = .endOfScript
    · subst hend
      rw [(tick_finished host hlimit hstep).2] at hgoes
      cases hgoes
    · rw [(tick_faulted host hlimit hstep hend).2] at hgoes
      cases hgoes
  · -- nothing is asked, so no frame is started
    have hcontinued : t.machine.step.2 = .ok .continued := by rw [hstep]
    have hfinished := h.step_unfinished hfailure hcontinued
    have hplaced := h.placed.step
    rw [spent_of_quiet host hlimit hrequest]
    rw [hstep] at hfinished hplaced
    rw [(tick_continued host hlimit hstep).1] at hsettled ⊢
    exact ⟨⟨hsettled, hplaced, hfinished⟩, hpays⟩
  · -- the request is one that the tick spends, and its answer may start a frame
    have hsuspended : t.machine.step.2 = .ok (.suspended r) := by rw [hstep]
    have hopen : t.machine.step.1.current.awaiting = some r :=
      (h.orderly.step.2 r).2 hsuspended
    have hfresh : ∀ n, (Host.serve host r).2 = .ok (.frame n) → n.Fresh :=
      fun n hn => (hhost.fits host r _ hn).fresh
    have hmachine := (tick_machine_served host hrequest).1
    refine ⟨⟨hsettled, ?_, ?_⟩, ?_⟩
    · rw [hmachine]
      exact h.placed.step.resume fun n hn => (hfresh n hn).placed
    · have hfinished := h.step_unfinished hfailure hsuspended
      rw [hmachine]
      rcases Machine.resume_cases hopen hfresh with ⟨g, heq, -, -, hsame⟩ | ⟨f, heq, hf⟩
      · rw [heq]
        exact hsame.trans hfinished
      · rw [heq]
        exact hf.finished
    · have howed := Machine.owed_resume hopen hfresh
      -- the step leaves the stack as it is, so that frames are started by the answer only
      have hstarted : t.machine.started (t.tick host).1.machine
          = t.machine.step.1.started (t.tick host).1.machine := by
        unfold Machine.started
        rw [Machine.step_frameCount_of_suspended hsuspended]
      unfold spent
      rw [hstarted, hmachine, howed, hrequest, executes?_eq hlimit, hstep]
      change m.owed = _ at hpays
      change m.owed + _ + 1 = _ + (_ + 1 + _)
      omega

/-- **The tick in which the script ends** pays for all that is owed. Nothing can be owed by other
frames, as only the outermost one is left. -/
theorem tick_balance_last (h : t.machine.AtWork limit) {v : Value}
    (hlast : (t.tick host).2.2 = .ok (.finished v)) : t.machine.owed + t.spent host = 1 := by
  obtain ⟨hlimit, hfailure⟩ := tick_unhindered h host fun fault hfault => by
    rw [hlast] at hfault
    cases hfault
  have hpays := h.pays hfailure
  have hrequest := request?_eq hlimit
  rcases hstep : t.machine.step with ⟨m, (fault | (_ | r))⟩ <;> rw [hstep] at hrequest hpays
  · -- the end of the script comes from a step that asks nothing, and all that was due is one tick
    by_cases hend : fault = .endOfScript
    · subst hend
      rw [spent_of_quiet host hlimit hrequest]
      exact hpays
    · rw [(tick_faulted host hlimit hstep hend).2] at hlast
      cases hlast
  · rw [(tick_continued host hlimit hstep).2] at hlast
    cases hlast
  · rw [(tick_machine_served host hrequest).2] at hlast
    obtain ⟨_, -, hserved⟩ := Except.map_eq_ok hlast
    cases hserved

/-- **While a run goes on**, its ticks and what is owed are the account. The induction is on the
ticks, with the balance of one tick as its step. -/
theorem GoesOn.balance {n : Nat} (hhost : Host.Agrees σ) (h : t.machine.AtWork limit)
    (hstart : t.machine.owed = (t.account host 0).total) (hgoes : t.GoesOn host n) :
    (t.tickTimes host n).1.machine.AtWork limit ∧
    n + (t.tickTimes host n).1.machine.owed = (t.account host n).total := by
  induction n with
  | zero =>
    refine ⟨h, ?_⟩
    rw [Nat.zero_add]
    exact hstart
  | succ n ih =>
    -- what the next tick spends is what it adds to the account
    obtain ⟨hwork, hbalance⟩ := ih fun k hk => hgoes k (Nat.lt_succ_of_lt hk)
    obtain ⟨hnext, htick⟩ := tick_balance hhost hwork (hgoes n (Nat.lt_succ_self n))
    refine ⟨hnext, ?_⟩
    rw [account_total_succ, tickTimes_succ_task]
    omega

/-- **The run of a task is accounted for**: it consists of as many ticks as it has counted, and what
these ticks have done adds up to their number. -/
structure Accounted (t : Task) (host : σ) : Prop where
  task_eq : (t.run host).1 = (t.tickTimes host (t.run host).1.ticks).1
  host_eq : (t.run host).2.1 = (t.tickTimes host (t.run host).1.ticks).2.1
  ticks_eq : (t.run host).1.ticks = (t.account host (t.run host).1.ticks).total

/-- A run that results in a value is accounted for. Each tick before the last one keeps the balance,
and the last one leaves no debt. -/
theorem run_balance (hhost : Host.Agrees σ) (h : t.machine.AtWork limit)
    (hstart : t.machine.owed = (t.account host 0).total) (hnew : t.ticks = 0) {v : Value}
    (hrun : (t.run host).2.2 = .ok v) : t.Accounted host := by
  obtain ⟨n, hends, heq⟩ := ends_of_run hrun
  -- the ticks before the last one go on, and all of them are admitted
  have hadmits : t.Admits (n + 1) := hends.admits (admits_zero hnew) nofun
  have hticks : (t.run host).1.ticks = n + 1 := by
    rw [heq, tickTimes_ticks hadmits, hnew, Nat.zero_add]
  obtain ⟨hwork, hbalance⟩ := hends.before.balance hhost h hstart
  -- the last tick pays for what is left
  have hlast := tick_balance_last hwork (Tick.outcome?_eq_ok hends.last)
  have htotal := t.account_total_succ host n
  refine ⟨?_, ?_, ?_⟩
  · rw [hticks, heq]
  · rw [hticks, heq]
  · rw [hticks]
    omega

/-- A task that starts with a frame at the beginning of its script is at work. This is the beginning
of the induction over its ticks. -/
theorem atWork_of_fresh {root : Frame} (hroot : root.Fresh) (houtermost : root.depth = 0)
    (ht : t.machine = .start root) : t.machine.AtWork root.maxDepth := by
  refine ⟨settled_of_fresh hroot houtermost ht, ?_, ?_⟩
  · rw [ht]
    intro f hf
    rw [List.mem_singleton.1 hf]
    exact hroot.placed
  · rw [ht]
    exact hroot.finished

/-- Before the first tick the account is what the first frame owes. It owes a tick only if its
script is empty, as there is no statement then to spend the tick on. -/
theorem owed_of_fresh {root : Frame} (hroot : root.Fresh) (ht : t.machine = .start root)
    (host : σ) : t.machine.owed = (t.account host 0).total := by
  have hstarted : (t.account host 0).started = [root] := by
    change t.machine.frames = [root]
    rw [ht]
    rfl
  have htotal : (t.account host 0).total = [root].countP (·.script.isEmpty) := by
    unfold Account.total
    rw [hstarted]
    exact Nat.zero_add _
  rw [htotal, ← hroot.owed_eq, ht]
  rfl

/-- **Ticks are accounted for.** Let a task that has not ticked yet start with a frame at the
beginning of its script that nothing has called, on any store or on any stage over a store. If it
runs to the end of the script, then the ticks it has used are as many as the statements that these
ticks have executed to their end, the requests that they have had answered, and the frames with an
empty script, the first one included, that have been started. -/
theorem run_accounted {root : Frame} (hroot : root.Fresh) (houtermost : root.depth = 0)
    (ht : t.machine = .start root) (hnew : t.ticks = 0) :
    (∀ (s : Store) (v : Value), (t.run s).2.2 = .ok v → t.Accounted s) ∧
    (∀ (s : Stage) (v : Value), (t.run s).2.2 = .ok v → t.Accounted s) := by
  -- stores and stages agree with the protocol, and that is all that is used of them
  have hwork := atWork_of_fresh hroot houtermost ht
  constructor
  · intro s v hrun
    exact run_balance Store.agrees hwork (owed_of_fresh hroot ht s) hnew hrun
  · intro s v hrun
    exact run_balance Stage.agrees hwork (owed_of_fresh hroot ht s) hnew hrun

end Task

/-- A store with one object that has an empty verb and a property that is set. -/
def waitingRoom : Store :=
  { world :=
      { objects := Table.ofList
          [(⟨1⟩, { id := ⟨1⟩, props := Table.ofList [("on", .bool true)]
                   verbs := Table.ofList [("idle", "")] })] }
    stream := { seed := 0 } }

/-- A task that calls the verb, and unsets the property as long as it is set. -/
def idling : Task :=
  { machine := .start
      { owner := ⟨1⟩
        script :=
          [.call ⟨"idle", none, none, none, []⟩,
            .whileLoop [.reference ⟨.prop, "on", none⟩]
              [.assign .set ⟨.prop, "on", none⟩ [.bool false]]] } }

/-- Three statements are executed and four requests are answered, the property being read once more
after the statement in the loop, and one frame has an empty script. -/
theorem idling_accounted :
    (idling.run waitingRoom).1.ticks = 8 ∧
    (idling.account waitingRoom 8).executed.map Prod.fst = [[0], [1], [1, 0]] ∧
    (idling.account waitingRoom 8).served.map Request.kind
      = [.call, .getProp, .setProp, .getProp] ∧
    (idling.account waitingRoom 8).started.map (·.script.length) = [2, 0] ∧
    (idling.account waitingRoom 8).total = 8 := by
  -- the run and the three lists are computed; that they add up to its ticks comes from the theorem
  have hvalue : (idling.run waitingRoom).2.2 = .ok .null := by decide +kernel
  have hticks : (idling.run waitingRoom).1.ticks = 8 := by decide +kernel
  have haccounted := (Task.run_accounted (Frame.fresh_new ⟨1⟩ _) rfl rfl rfl).1 waitingRoom _ hvalue
  refine ⟨hticks, by decide +kernel, by decide +kernel, by decide +kernel, ?_⟩
  have hbalance := haccounted.ticks_eq
  rw [hticks] at hbalance
  exact hbalance.symm

end VerbScript
