import Mathlib.Control.Monad.Basic
import VerbScript.Proofs.DirectStyle
import VerbScript.Proofs.Pursuit
import VerbScript.Proofs.WorldAnswers

/-!
# Machines refine the direct-style interpreter

Driving a machine — stepping it, and having the host answer whatever it asks — comes to the same as
interpreting its script in direct style: the same outcome, the same exchanges in the same order, the
same host at the end, and after a regular end the same variables and result.

* `Machine.drive` — rounds of stepping and answering, until a step fails.
* `Host.Proper` — what is asked of a host: its faults are no ends of scripts, and the frames it
  answers with are fresh.
* `Simulates fuel m d post x` — the invariant that carries the proof. It compares the machine `m`
  with the outcome `x` of a direct computation: if `x` is a value, driving `m` leads to a machine
  that satisfies `post`; if it is a fault, driving ends with it; and if the computation runs out of
  its fuel, driving takes more than `fuel` rounds. The last part makes the comparison work in both
  directions.
* `simulates_perform` — one plan against one frame, with the frames it calls above it.
* `simulates_block` — the rest of a block, by induction on the fuel. A round of a loop and a called
  script spend fuel in the interpreter and at least one round of the machine.
* `drive_iff_interpret` — the theorem.
-/

namespace VerbScript

variable {σ α β : Type} [Host σ]

/-! ### Driving a machine -/

/-- How the driving of a machine ended. There is no ending as long as the rounds do not suffice. -/
structure Ending (σ : Type) where
  /-- What the last step failed with; the end of the script is the regular case. -/
  fault : Fault
  machine : Machine
  dialogue : Dialogue σ

/-- Drives a machine for at most so many rounds, until a step fails. A round is a step and, if it
asked something, the answer of the host. -/
def Machine.drive : Nat → Machine → Dialogue σ → Option (Ending σ)
  | 0, _, _ => none
  | n + 1, m, d =>
    match m.step with
    | (m, .ok .continued) => m.drive n d
    | (m, .ok (.suspended r)) =>
      let (d, reply) := d.serve r
      (m.resume reply).1.drive n d
    | (m, .error fault) => some ⟨fault, m, d⟩

/-- What an ending says: the variables and the result of the outermost script after a regular end,
or else the fault, and what has been exchanged. -/
def Ending.report (e : Ending σ) :
    Except Fault (Table String Value × Value) × Dialogue σ :=
  match e.fault with
  | .endOfScript => (.ok (e.machine.root.locals, e.machine.returnValue), e.dialogue)
  | fault => (.error fault, e.dialogue)

/-- What machines expect of a host, and interpreters do as well: neither would make the same of an
answer that looks like the end of a script, or of a script that is halfway through. -/
structure Host.Proper (σ : Type) [Host σ] : Prop where
  /-- A host does not fail with the end of a script. -/
  ne_end : ∀ (host : σ) (r : Request), (Host.serve host r).2 ≠ .error .endOfScript
  /-- A machine of a host is at its beginning. -/
  fresh : ∀ (host : σ) (r : Request) (m : Machine), (Host.serve host r).2 = .ok (.frame m) → m.Fresh

namespace Machine

variable {m m' : Machine} {d d' : Dialogue σ}

/-- A round whose step goes on. -/
theorem drive_continued (h : m.step = (m', .ok .continued)) (n : Nat) :
    m.drive (n + 1) d = m'.drive n d := by
  rw [drive, h]

/-- A round whose step asks something, which the host answers. -/
theorem drive_suspended {r : Request} (h : m.step = (m', .ok (.suspended r))) (n : Nat) :
    m.drive (n + 1) d = (m'.resume (d.serve r).2).1.drive n (d.serve r).1 := by
  rw [drive, h]

/-- A round whose step fails. It is the last one. -/
theorem drive_fault {fault : Fault} (h : m.step = (m', .error fault)) (n : Nat) :
    m.drive (n + 1) d = some ⟨fault, m', d⟩ := by
  rw [drive, h]

/-- A drive that has ended has the same ending with more rounds. So the number of rounds is no part
of what a script comes to. -/
theorem drive_add {n : Nat} {e : Ending σ} (h : m.drive n d = some e) (k : Nat) :
    m.drive (n + k) d = some e := by
  induction n generalizing m d with
  | zero => cases h
  | succ n ih =>
    -- both drives make the same first round
    rw [Nat.add_right_comm]
    rcases hstep : m.step with ⟨m', _ | _ | r⟩
    · rw [drive_fault hstep] at h ⊢
      exact h
    · rw [drive_continued hstep] at h ⊢
      exact ih h
    · rw [drive_suspended hstep] at h ⊢
      exact ih h

/-- So there is one ending at most, however many rounds are driven. -/
theorem drive_unique {n k : Nat} {e e' : Ending σ} (h : m.drive n d = some e)
    (h' : m.drive k d = some e') : e = e' := by
  have hn := drive_add h k
  have hk := drive_add h' n
  rw [Nat.add_comm, hn] at hk
  exact Option.some.inj hk

/-- A machine that is still running after some rounds was so after fewer. Both directions together
let the rounds of the machine and the fuel of the interpreter be compared. -/
theorem drive_eq_none_of_le {n k : Nat} (h : m.drive n d = none) (hk : k ≤ n) :
    m.drive k d = none := by
  cases hd : m.drive k d with
  | none => rfl
  | some e =>
    have hadd := drive_add hd (n - k)
    rw [Nat.add_sub_cancel' hk, h] at hadd
    cases hadd

end Machine

/-! ### The simulation -/

/-- **A machine follows a direct computation.** The outcome of the computation with the given fuel
tells what driving the machine leads to. A fault of the computation is the ending of the drive; a
value is a machine from which the drive goes on. -/
def Simulates (fuel : Nat) (m : Machine) (d : Dialogue σ) (post : α → Machine → Prop) :
    Option (Except Fault α × Dialogue σ) → Prop
  | none => m.drive fuel d = none
  | some (.error fault, d') =>
    fault ≠ .endOfScript ∧ ∃ n m', m.drive n d = some ⟨fault, m', d'⟩
  | some (.ok a, d') => ∃ m', post a m' ∧ ∃ k, ∀ n, m.drive (k + n) d = m'.drive n d'

namespace Simulates

variable {fuel : Nat} {m m' : Machine} {d d' : Dialogue σ} {post : α → Machine → Prop}

/-- A machine that satisfies `post` already follows a computation that does nothing. -/
theorem pure {a : α} (h : post a m) :
    Simulates fuel m d post ((Pure.pure a : Direct σ α) d) :=
  ⟨m, h, 0, fun n => by rw [Nat.zero_add]⟩

/-- A simulation that is reached after some rounds. The rounds are added to those that the
simulation takes itself. -/
theorem of_leads {x : Option (Except Fault α × Dialogue σ)} {k : Nat}
    (h : ∀ n, m.drive (k + n) d = m'.drive n d') (hx : Simulates fuel m' d' post x) :
    Simulates fuel m d post x := by
  rcases x with _ | ⟨fault | a, d₁⟩
  · -- `m'` takes more than `fuel` rounds, so `m` takes more than `k + fuel`
    have hnone : m.drive (k + fuel) d = none := (h fuel).trans hx
    exact Machine.drive_eq_none_of_le hnone (Nat.le_add_left fuel k)
  · obtain ⟨hne, n, m₁, hn⟩ := hx
    exact ⟨hne, k + n, m₁, (h n).trans hn⟩
  · obtain ⟨m₁, hpost, k', hk'⟩ := hx
    refine ⟨m₁, hpost, k + k', fun n => ?_⟩
    rw [Nat.add_assoc, h, hk']

/-- **Simulations compose**, like the computations that are followed. The machine in between is the
one of which `post` is known. -/
theorem bind {x : Direct σ α} {f : α → Direct σ β} {post' : β → Machine → Prop}
    (hx : Simulates fuel m d post (x d))
    (hf : ∀ a m' d', post a m' → Simulates fuel m' d' post' (f a d')) :
    Simulates fuel m d post' ((x >>= f) d) := by
  rw [Direct.run_bind]
  -- if `x` does not come to a value, its simulation is the one of the whole
  rcases hrun : x d with _ | ⟨fault | a, d₁⟩
  · rw [hrun] at hx
    exact hx
  · rw [hrun] at hx
    exact hx
  · rw [hrun] at hx
    obtain ⟨m₁, hpost, k, hk⟩ := hx
    exact of_leads hk (hf a m₁ d₁ hpost)

/-- A round of the machine pays for one more unit of fuel. This is why the interpreter may run out
of fuel only if the machine has made as many rounds. -/
theorem later {x : Option (Except Fault α × Dialogue σ)}
    (h : ∀ n, m.drive (n + 1) d = m'.drive n d') (hx : Simulates fuel m' d' post x) :
    Simulates (fuel + 1) m d post x := by
  have hleads : ∀ n, m.drive (1 + n) d = m'.drive n d' := fun n => by rw [Nat.add_comm, h]
  rcases x with _ | ⟨fault | a, d₁⟩
  · exact (h fuel).trans hx
  · exact of_leads hleads (show Simulates fuel m' d' post _ from hx)
  · exact of_leads hleads (show Simulates fuel m' d' post _ from hx)

/-- A machine that follows a computation with more fuel follows it with less. -/
theorem of_succ {x : Option (Except Fault α × Dialogue σ)}
    (h : Simulates (fuel + 1) m d post x) : Simulates fuel m d post x := by
  rcases x with _ | ⟨fault | a, d₁⟩
  · exact Machine.drive_eq_none_of_le h (Nat.le_succ fuel)
  · exact h
  · exact h

/-- A step that fails follows a computation that fails with the same. -/
theorem fault {fault : Fault} (hne : fault ≠ .endOfScript) (h : m.step = (m', .error fault)) :
    Simulates fuel m d post (some (.error fault, d)) :=
  ⟨hne, 1, m', Machine.drive_fault h 0⟩

end Simulates

/-! ### One frame of a stack -/

/-- What the interpreter knows of the frame: on whose behalf it runs, and the depths. -/
def Home.site (b : Home) : Site := ⟨b.owner, b.depth, b.maxDepth⟩

/-- The executing frame pursues a plan, above these callers. Of the frame itself nothing else is
known, not even its path. -/
def Machine.On (m : Machine) (callers : List Frame) (b : Home) (plan : Plan Landing) : Prop :=
  m.callers = callers ∧ b.Takes plan m.current.step

/-- A fault that is waiting to be raised is raised by the next step. -/
theorem simulates_raise {fuel : Nat} {post : α → Machine → Prop} (g : Frame) (callers : List Frame)
    (d : Dialogue σ) {fault : Fault} (hne : fault ≠ .endOfScript) :
    Simulates fuel ⟨g.raise fault, callers⟩ d post ((throw fault : Direct σ α) d) :=
  .fault hne (Machine.step_of_fault (Frame.step_raised rfl) hne)

section Frames

variable {fuel : Nat} {b : Home} {callers : List Frame} {callee : Frame → Direct σ Value}

/-- **An answer and what it comes to.** Where the interpreter settles an answer to the value `v`,
the machine comes to log `v` in the frame that asked. -/
theorem simulates_settle {g : Frame} (hhome : g.home = b)
    (hcallee : ∀ f d, f.Fresh → Simulates fuel
      ⟨{ f with depth := b.depth + 1, maxDepth := b.maxDepth }, g :: callers⟩ d
      (fun v m' => m' = ⟨g.logReply v, callers⟩) (callee f d))
    (r : Request) (reply : Reply) (hfresh : ∀ m, reply = .frame m → m.Fresh) (d : Dialogue σ) :
    Simulates fuel ((⟨g, callers⟩ : Machine).deliver r reply) d
      (fun v m' => m' = ⟨g.logReply v, callers⟩) (Direct.settle b.site callee r reply d) := by
  subst hhome
  cases r with
  -- a request other than a call accepts no frame, on neither side
  | getProp object name =>
    cases reply with
    | value v => exact .pure rfl
    | done => exact simulates_raise g callers d nofun
    | frame f => exact simulates_raise g callers d nofun
  | setProp object name value =>
    cases reply with
    | value v => exact .pure rfl
    | done => exact .pure rfl
    | frame f => exact simulates_raise g callers d nofun
  | resolveAlias name =>
    cases reply with
    | value v => exact .pure rfl
    | done => exact simulates_raise g callers d nofun
    | frame f => exact simulates_raise g callers d nofun
  | call object args =>
    cases reply with
    | value v => exact .pure rfl
    | done => exact simulates_raise g callers d nofun
    | frame m =>
      -- both sides compare the depth of the callee with the same limit
      obtain ⟨f, rfl, hf⟩ := hfresh m rfl
      change Simulates fuel ((⟨g, callers⟩ : Machine).push (.start f)) d _
        ((if g.maxDepth < g.depth + 1 then throw (.callDepthExceeded g.maxDepth) else callee f :
          Direct σ Value) d)
      unfold Machine.push
      by_cases hdepth : g.maxDepth < g.depth + 1
      · rw [if_pos hdepth, if_pos hdepth]
        exact simulates_raise g callers d nofun
      · rw [if_neg hdepth, if_neg hdepth]
        exact hcallee f d hf

/-- **A request.** The machine suspends, the host answers, and the answer is settled. This takes one
round, which pays for a unit of fuel. -/
theorem simulates_request (hhost : Host.Proper σ) {m : Machine} {g : Frame} {r : Request}
    (hcallers : m.callers = callers) (hstep : m.current.step = g.suspend r) (hready : g.Ready)
    (hhome : g.home = b)
    (hcallee : ∀ f d, f.Fresh → Simulates fuel
      ⟨{ f with depth := b.depth + 1, maxDepth := b.maxDepth }, g :: callers⟩ d
      (fun v m' => m' = ⟨g.logReply v, callers⟩) (callee f d))
    (d : Dialogue σ) :
    Simulates (fuel + 1) m d (fun v m' => m' = ⟨g.logReply v, callers⟩)
      (Direct.request b.site callee r d) := by
  subst hcallers
  have hm : m.step = ({ m with current := { g with awaiting := some r } }, .ok (.suspended r)) :=
    Machine.step_of_ok hstep
  -- the answer closes the request, so the frame is again what it was before it asked
  have hclosed : { g with awaiting := none } = g := by rw [← hready.awaiting]
  refine .later (Machine.drive_suspended hm) ?_
  unfold Direct.request
  rw [Direct.run_bind, Direct.run_exchange]
  -- what a proper host answers
  have hne : (d.serve r).2 ≠ .error .endOfScript := hhost.ne_end d.host r
  have hfresh : ∀ m, (d.serve r).2 = .ok (.frame m) → m.Fresh := hhost.fresh d.host r
  cases hreply : (d.serve r).2 with
  | error fault =>
    rw [Machine.resume_error rfl]
    rw [hreply] at hne
    have hfault : fault ≠ .endOfScript := fun h => hne (by rw [h])
    simp only [hclosed]
    exact simulates_raise g m.callers _ hfault
  | ok reply =>
    rw [Machine.resume_ok rfl]
    rw [hreply] at hfresh
    simp only [hclosed]
    exact simulates_settle hhome hcallee r reply (fun f h => hfresh f (by rw [h])) _

/-- **A plan.** While the interpreter performs `p`, the machine pursues it, and both are then at
what follows it. The induction is on the plan: each of its requests is a round of the machine, and
each answer leads to a plan that is shorter. -/
theorem simulates_perform (hhost : Host.Proper σ)
    (hcallee : ∀ g f d, f.Fresh → Simulates fuel
      ⟨{ f with depth := b.depth + 1, maxDepth := b.maxDepth }, g :: callers⟩ d
      (fun v m' => m' = ⟨g.logReply v, callers⟩) (callee f d))
    {p : Plan α} {asked : Request → Prop} (hp : p.Every asked (· ≠ .endOfScript))
    (next : α → Plan Landing) {m : Machine} (hm : m.On callers b (p.bind next))
    (d : Dialogue σ) :
    Simulates (fuel + 1) m d (fun a m' => m'.On callers b (next a))
      (p.perform (Direct.request b.site callee) d) := by
  induction p generalizing m d with
  | done a => exact .pure hm
  | fail fault =>
    obtain ⟨hcallers, g, hstep⟩ := hm
    exact .fault hp (Machine.step_of_fault hstep hp)
  | ask r k ih =>
    obtain ⟨hcallers, g, hstep, hready, hhome, htakes⟩ := hm
    refine Simulates.bind
      (simulates_request hhost hcallers hstep hready hhome (hcallee g) d) ?_
    -- with the answer in its log the frame pursues what follows the request
    rintro v m' d' rfl
    exact ih v (hp.2 v) ⟨rfl, htakes v⟩ d'

end Frames

/-! ### Blocks -/

/-- What the machine does while the interpreter runs the rest of a block. It begins at the agenda of
the first statement, and ends where the block is left. -/
def SimulatesBlock (σ : Type) [Host σ] (fuel : Nat) : Prop :=
  ∀ (b : Home) (callers : List Frame) (p : Path) (i : Nat) (statement : Statement)
    (rest : List Statement) (locals : Table String Value) (m : Machine) (d : Dialogue σ),
    b.script.Stands p i (statement :: rest) → m.On callers b (b.agenda locals (p ++ [i])) →
    Simulates fuel m d (fun locals m' => m'.On callers b (b.leave locals p))
      (Direct.block fuel b.site locals (statement :: rest) d)

/-- A fresh frame is one that has landed at the first statement of its script. -/
theorem Frame.Fresh.eq_landed {f : Frame} (h : f.Fresh) : f = f.home.landed f.locals [0] := by
  obtain ⟨⟨hawaiting, hfailure, hfinished⟩, hpath, hphase, hreplies⟩ := h
  obtain ⟨owner, script, locals, path, phase, replies, awaiting, failure, finished, depth, maxDepth⟩
    := f
  simp only at hawaiting hfailure hfinished hpath hphase hreplies
  subst hawaiting hfailure hfinished hpath hphase hreplies
  rfl

section Blocks

variable {fuel : Nat} {b : Home} {callers : List Frame}

/-- **A whole script**, from a fresh frame to the end. Leaving the outermost block is the end of the
script. -/
theorem simulates_script (ih : SimulatesBlock σ fuel) {f : Frame} (hf : f.Fresh) (d : Dialogue σ) :
    Simulates fuel ⟨f, callers⟩ d (fun locals m' => m'.On callers f.home (.done (locals, none)))
      (Direct.block fuel f.home.site f.locals f.script d) := by
  have hon : (⟨f, callers⟩ : Machine).On callers f.home (f.home.agenda f.locals [0]) := by
    refine ⟨rfl, ?_⟩
    have htakes := f.home.takes_agenda f.locals [0]
    rwa [← hf.eq_landed] at htakes
  cases hscript : f.script with
  | nil =>
    -- an empty script is over at its first step
    have hagenda : f.home.agenda f.locals [0] = .done (f.locals, none) := by
      unfold Home.agenda Frame.home
      rw [hscript]
      rfl
    rw [hagenda] at hon
    unfold Direct.block
    exact .pure hon
  | cons statement rest =>
    have hstands : f.home.script.Stands [] 0 (statement :: rest) := by
      rw [← hscript]
      exact Script.stands_zero f.script
    -- the script is the outermost block
    exact ih f.home callers [] 0 statement rest f.locals ⟨f, callers⟩ d hstands hon

/-- **A called script.** When it ends, its result is logged in the frame that called it. This is the
hypothesis that requests have about calls. -/
theorem simulates_callee (ih : SimulatesBlock σ fuel) (site : Site) (g : Frame) {f : Frame}
    (hf : f.Fresh) (d : Dialogue σ) :
    Simulates fuel
      ⟨{ f with depth := site.depth + 1, maxDepth := site.maxDepth }, g :: callers⟩ d
      (fun v m' => m' = ⟨g.logReply v, callers⟩)
      (Direct.callee fuel site f d) := by
  set f' : Frame := { f with depth := site.depth + 1, maxDepth := site.maxDepth } with hf'
  have hfresh : f'.Fresh := ⟨⟨hf.awaiting, hf.failure, hf.finished⟩, hf.path, hf.phase, hf.replies⟩
  refine Simulates.bind (simulates_script ih hfresh d) ?_
  rintro locals m' d' ⟨hcallers, last, hstep, hlocals⟩
  -- the step that ends the callee is the one that returns to the caller
  have hm : m'.step = (⟨g.logReply last.returnValue, callers⟩, .ok .continued) :=
    Machine.step_of_return hstep hcallers
  refine ⟨⟨g.logReply last.returnValue, callers⟩, ?_, 1, fun n => ?_⟩
  · -- both sides take the result from the variables of the callee
    rw [Frame.returnValue, hlocals]
  · rw [Nat.add_comm, Machine.drive_continued hm]

/-- **The rest of a block**, once its first statement is done. Nothing may be left of the block, and
then it is left. -/
theorem simulates_rest (ih : SimulatesBlock σ fuel) {p : Path} {i : Nat} {statement : Statement}
    {rest : List Statement} (hstands : b.script.Stands p i (statement :: rest))
    (locals : Table String Value) {m : Machine}
    (hm : m.On callers b (b.onward locals (p ++ [i]))) (d : Dialogue σ) :
    Simulates (fuel + 1) m d (fun locals m' => m'.On callers b (b.leave locals p))
      (Direct.block fuel b.site locals rest d) := by
  cases rest with
  | nil =>
    -- there is no further statement, so the machine leaves the block
    rw [Home.onward_last hstands] at hm
    unfold Direct.block
    exact .pure hm
  | cons next rest =>
    rw [Home.onward_next hstands] at hm
    obtain ⟨hcallers, hstep⟩ := hm
    have hland : m.step = (⟨b.landed locals (p ++ [i + 1]), m.callers⟩, .ok .continued) :=
      Machine.step_of_ok hstep
    -- landing at the next statement is the round that pays for its fuel
    refine .later (Machine.drive_continued hland) ?_
    exact ih b callers p (i + 1) next rest locals _ d hstands.next
      ⟨hcallers, b.takes_agenda locals _⟩

/-- **The block of a statement**, entered by one round. The first statement of it stands one level
deeper, at the first place. -/
theorem simulates_body (ih : SimulatesBlock σ fuel) {p : Path} {i : Nat} {statement : Statement}
    {rest body : List Statement} (hstands : b.script.Stands p i (statement :: rest))
    (hblock : statement.block? = some body) (hbody : body ≠ []) (locals : Table String Value)
    {m : Machine} (hm : m.On callers b (.done (locals, some (p ++ [i] ++ [0]))))
    (d : Dialogue σ) :
    ∃ m', (∀ n, m.drive (n + 1) d = m'.drive n d) ∧
      Simulates fuel m' d (fun locals m' => m'.On callers b (b.leave locals (p ++ [i])))
        (Direct.block fuel b.site locals body d) := by
  obtain ⟨hcallers, hstep⟩ := hm
  have hland : m.step = (⟨b.landed locals (p ++ [i] ++ [0]), m.callers⟩, .ok .continued) :=
    Machine.step_of_ok hstep
  refine ⟨_, Machine.drive_continued hland, ?_⟩
  cases body with
  | nil => exact absurd rfl hbody
  | cons first body =>
    exact ih b callers (p ++ [i]) 0 first body locals _ d (hstands.enter hblock)
      ⟨hcallers, b.takes_agenda locals _⟩

end Blocks

/-! ### Statements -/

section Statements

variable {fuel : Nat} {b : Home} {callers : List Frame} {p : Path} {i : Nat}
  {rest : List Statement} {m : Machine}

/-- The agenda at a statement starts with its plan. -/
theorem agenda_eq {statement : Statement} (hstands : b.script.Stands p i (statement :: rest))
    (locals : Table String Value) :
    b.agenda locals (p ++ [i])
      = (statement.plan (b.scope locals)).bind (b.followUp locals (p ++ [i])) := by
  unfold Home.agenda
  rw [hstands.find?]

/-- The agenda at an `if` or a `while` starts with its condition. What follows depends on its truth
and on whether there is a block to enter. -/
theorem conditionPlan_bind (b : Home) (locals : Table String Value) (condition : Expr)
    (body : List Statement) (path : Path) :
    (conditionPlan (b.scope locals) condition body).bind (b.followUp locals path)
      = (condition.plan (b.scope locals)).bind fun v =>
          if v.truthy && !body.isEmpty then .done (locals, some (path ++ [0]))
          else b.onward locals path := by
  simp only [conditionPlan, Plan.bind_eq, Plan.bind_assoc]
  congr 1
  funext v
  cases v.truthy && !body.isEmpty <;> rfl

/-- **An `if`**: its condition, then its block if there is one to enter, and then the rest. Leaving
the block leads on behind the statement, as in the interpreter. -/
theorem simulates_if (hhost : Host.Proper σ) (ih : SimulatesBlock σ fuel) {condition : Expr}
    {body : List Statement} (hstands : b.script.Stands p i (.ifThen condition body :: rest))
    (locals : Table String Value) (hm : m.On callers b (b.agenda locals (p ++ [i])))
    (d : Dialogue σ) :
    Simulates (fuel + 1) m d (fun locals m' => m'.On callers b (b.leave locals p))
      (Direct.block (fuel + 1) b.site locals (.ifThen condition body :: rest) d) := by
  rw [agenda_eq hstands, Statement.plan, conditionPlan_bind] at hm
  rw [Direct.block_if]
  refine Simulates.bind (simulates_perform hhost (fun g f d hf => simulates_callee ih b.site g hf d)
    (condition.plan_scheduled (b.scope locals)).every _ hm d) ?_
  intro v m' d' hm'
  -- both sides have the value of the condition, and go into the block or behind the statement
  cases hv : v.truthy with
  | false =>
    simp only [hv, Bool.false_and, Bool.false_eq_true, if_false] at hm' ⊢
    exact simulates_rest ih hstands locals hm' d'
  | true =>
    simp only [hv, Bool.true_and, if_true] at hm' ⊢
    cases body with
    | nil =>
      -- an empty block is not entered, and running it does nothing
      rw [Direct.block_nil, pure_bind]
      exact simulates_rest ih hstands locals hm' d'
    | cons first body =>
      have hne : first :: body ≠ [] := List.cons_ne_nil first body
      obtain ⟨m₁, hround, hbody⟩ := simulates_body ih hstands rfl hne locals hm' d'
      refine .later hround (Simulates.bind hbody ?_)
      intro locals' m₂ d₂ hm₂
      rw [Home.leave_if hstands] at hm₂
      -- entering the block has paid for more than is needed
      exact (simulates_rest ih hstands locals' hm₂ d₂).of_succ

/-- **A `while`**: its condition, and then its block followed by the loop itself, or the rest. The
loop runs its block with less fuel, and then itself, so the induction is on the fuel and not on the
script. -/
theorem simulates_while (hhost : Host.Proper σ) (ih : SimulatesBlock σ fuel) {condition : Expr}
    {body : List Statement} (hstands : b.script.Stands p i (.whileLoop condition body :: rest))
    (locals : Table String Value) (hm : m.On callers b (b.agenda locals (p ++ [i])))
    (d : Dialogue σ) :
    Simulates (fuel + 1) m d (fun locals m' => m'.On callers b (b.leave locals p))
      (Direct.block (fuel + 1) b.site locals (.whileLoop condition body :: rest) d) := by
  rw [agenda_eq hstands, Statement.plan, conditionPlan_bind] at hm
  rw [Direct.block_while]
  refine Simulates.bind (simulates_perform hhost (fun g f d hf => simulates_callee ih b.site g hf d)
    (condition.plan_scheduled (b.scope locals)).every _ hm d) ?_
  intro v m' d' hm'
  cases hv : v.truthy && !body.isEmpty with
  | false =>
    simp only [hv, Bool.false_eq_true, if_false] at hm' ⊢
    exact simulates_rest ih hstands locals hm' d'
  | true =>
    simp only [hv, if_true] at hm' ⊢
    have hne : body ≠ [] := by
      rintro rfl
      simp at hv
    obtain ⟨m₁, hround, hbody⟩ := simulates_body ih hstands rfl hne locals hm' d'
    refine .later hround (Simulates.bind hbody ?_)
    intro locals' m₂ d₂ hm₂
    -- at the end of its block the loop is where it was before its condition was tested
    rw [Home.leave_while hstands hne] at hm₂
    exact ih b callers p i _ rest locals' m₂ d₂ hstands hm₂

/-- **A statement without a block.** Its agenda is a plan of the variables after it, followed by
going on. An assignment and a call are statements of this kind. -/
theorem simulates_plain (hhost : Host.Proper σ) (ih : SimulatesBlock σ fuel)
    {statement : Statement} (hstands : b.script.Stands p i (statement :: rest))
    {locals : Table String Value} {q : Plan (Table String Value)} {asked : Request → Prop}
    (hq : q.Every asked (· ≠ .endOfScript))
    (hm : m.On callers b (q.bind fun locals => b.onward locals (p ++ [i]))) (d : Dialogue σ)
    (hblock : (Direct.block (fuel + 1) b.site locals (statement :: rest) : Direct σ _)
      = q.perform (Direct.request b.site (Direct.callee fuel b.site)) >>= fun locals =>
          Direct.block fuel b.site locals rest) :
    Simulates (fuel + 1) m d (fun locals m' => m'.On callers b (b.leave locals p))
      (Direct.block (fuel + 1) b.site locals (statement :: rest) d) := by
  rw [hblock]
  refine Simulates.bind (simulates_perform hhost (fun g f d hf => simulates_callee ih b.site g hf d)
    hq _ hm d) ?_
  intro locals' m' d' hm'
  exact simulates_rest ih hstands locals' hm' d'

/-- An assignment asks on behalf of the owner, and does not fail with the end of a script. This is
the end that only the machine itself may report. -/
theorem assignLocals_every (s : Scope) (op : AssignOp) (target : Reference Node) (source : Expr) :
    (Direct.assignLocals s op target source).Every (·.IsOf s.owner) (· ≠ .endOfScript) := by
  unfold Direct.assignLocals
  refine (source.plan_scheduled s).every.bind fun value => ?_
  refine (indexed_assignedPlan_scheduled s op target value).every.bind fun result => ?_
  cases target.sigil with
  | var => trivial
  | prop => exact ⟨rfl, fun _ => trivial⟩

/-- The agenda at an assignment, by the variables after it. The machine stores the value as an
effect of the statement, and the interpreter hands the variables on; either way the next statement
sees them. -/
theorem assignPlan_bind (b : Home) (locals : Table String Value) (op : AssignOp)
    (target : Reference Node) (source : Expr) (path : Path) :
    (assignPlan (b.scope locals) op target source).bind (b.followUp locals path)
      = (Direct.assignLocals (b.scope locals) op target source).bind fun locals =>
          b.onward locals path := by
  rw [assignPlan_eq]
  -- up to the write the two plans are the same
  simp only [Direct.assignLocals, Plan.bind_assoc]
  congr 1
  funext value
  congr 1
  funext index
  congr 1
  funext result
  unfold writePlan
  cases target.sigil <;> rfl

end Statements

/-- **Blocks.** By induction on the fuel: every statement, every round of a loop and every called
script leaves less of it. -/
theorem simulates_block (hhost : Host.Proper σ) (fuel : Nat) : SimulatesBlock σ fuel := by
  induction fuel with
  | zero =>
    -- no rounds are driven and no fuel is there
    intro b callers p i statement rest locals m d _ _
    rw [Direct.block_zero]
    rfl
  | succ fuel ih =>
    intro b callers p i statement rest locals m d hstands hm
    cases statement with
    | ifThen condition body => exact simulates_if hhost ih hstands locals hm d
    | whileLoop condition body => exact simulates_while hhost ih hstands locals hm d
    | assign op target source =>
      rw [agenda_eq hstands, Statement.plan, assignPlan_bind] at hm
      exact simulates_plain hhost ih hstands (assignLocals_every _ op target source) hm d
        (Direct.block_assign fuel b.site locals rest op target source)
    | call c =>
      -- a call leaves the variables as they are, whatever it returns
      have hcall : ((Statement.call c).plan (b.scope locals)).bind (b.followUp locals (p ++ [i]))
          = ((c.plan (b.scope locals)).bind fun _ => .done locals).bind fun locals =>
              b.onward locals (p ++ [i]) := by
        simp only [Statement.plan, Plan.bind_eq, Plan.bind_assoc]
        rfl
      have hevery : ((c.plan (b.scope locals)).bind fun _ => .done locals).Every
          (·.IsOf b.owner) (· ≠ .endOfScript) :=
        (c.plan_scheduled (b.scope locals)).every.bind fun _ => trivial
      rw [agenda_eq hstands, hcall] at hm
      exact simulates_plain hhost ih hstands hevery hm d
        (Direct.block_call fuel b.site locals rest c)

/-! ### The theorem -/

/-- **A script that nothing has called**, from its beginning to what driving it reports. The machine
that is reached ends with its next step. -/
theorem simulates_interpret (hhost : Host.Proper σ) (fuel : Nat) (owner : ObjectId)
    (script : Script) (locals : Table String Value) (maxDepth : Nat) (d : Dialogue σ) :
    Simulates fuel (Machine.start { owner, script, locals, maxDepth }) d
      (fun x m' => ∃ g : Frame, m'.step = (⟨g, []⟩, .error .endOfScript) ∧
        x = (g.locals, g.returnValue))
      (Direct.interpret fuel owner script locals maxDepth d) := by
  set f : Frame := { owner, script, locals, maxDepth } with hf
  have hfresh : f.Fresh := ⟨⟨rfl, rfl, rfl⟩, rfl, rfl, rfl⟩
  refine Simulates.bind (simulates_script (simulates_block hhost fuel) hfresh d) ?_
  rintro locals' m' d' ⟨hcallers, g, hstep, rfl⟩
  -- nothing has called the script, so its end is the end of the machine
  refine .pure ⟨g, ?_, rfl⟩
  rw [Machine.step_of_end hstep hcallers, hcallers]

/-- What the interpreter comes to, driving comes to. The number of rounds is not that of the fuel,
since a statement takes a round for each of its requests. -/
theorem exists_drive_of_interpret (hhost : Host.Proper σ) {fuel : Nat} {owner : ObjectId}
    {script : Script} {locals : Table String Value} {maxDepth : Nat} {d d' : Dialogue σ}
    {outcome : Except Fault (Table String Value × Value)}
    (h : Direct.interpret fuel owner script locals maxDepth d = some (outcome, d')) :
    ∃ n e, (Machine.start { owner, script, locals, maxDepth }).drive n d = some e ∧
      e.report = (outcome, d') := by
  have hsim := simulates_interpret hhost fuel owner script locals maxDepth d
  rw [h] at hsim
  cases outcome with
  | error fault =>
    obtain ⟨hne, n, m', hn⟩ := hsim
    refine ⟨n, ⟨fault, m', d'⟩, hn, ?_⟩
    unfold Ending.report
    split
    next heq => exact absurd heq hne
    next => rfl
  | ok x =>
    -- one more round finds that the script is over
    obtain ⟨m', ⟨g, hstep, rfl⟩, k, hk⟩ := hsim
    refine ⟨k + 1, ⟨.endOfScript, ⟨g, []⟩, d'⟩, ?_, rfl⟩
    rw [hk, Machine.drive_fault hstep]

/-- With as much fuel as there are rounds to the end of a drive, the interpreter does not run out of
it. -/
theorem exists_interpret_of_drive (hhost : Host.Proper σ) {n : Nat} {owner : ObjectId}
    {script : Script} {locals : Table String Value} {maxDepth : Nat} {d : Dialogue σ}
    {e : Ending σ} (h : (Machine.start { owner, script, locals, maxDepth }).drive n d = some e) :
    ∃ x, Direct.interpret n owner script locals maxDepth d = some x := by
  have hsim := simulates_interpret hhost n owner script locals maxDepth d
  cases hrun : Direct.interpret n owner script locals maxDepth d with
  | some x => exact ⟨x, rfl⟩
  | none =>
    rw [hrun] at hsim
    -- without an outcome the drive would take more rounds than it has taken
    have hnone : (Machine.start { owner, script, locals, maxDepth }).drive n d = none := hsim
    rw [h] at hnone
    cases hnone

/-- **Machines refine the direct-style interpreter.** Let a proper host answer a machine that starts
with any script, owner, variables and depth limit. For every outcome, that is a fault or else the
variables and the result of the script, and for every dialogue, that is the exchanges with the host
and the host after them: driving the machine up to the first failing step comes to this outcome and
dialogue exactly if interpreting the script in direct style does. In particular the machine runs
forever exactly if the interpreter does. -/
theorem drive_iff_interpret (hhost : Host.Proper σ) (owner : ObjectId) (script : Script)
    (locals : Table String Value) (maxDepth : Nat) (host : σ)
    (outcome : Except Fault (Table String Value × Value)) (d : Dialogue σ) :
    (∃ n, ((Machine.start { owner, script, locals, maxDepth }).drive n { host }).map Ending.report
        = some (outcome, d)) ↔
      ∃ fuel, Direct.interpret fuel owner script locals maxDepth { host } = some (outcome, d) := by
  constructor
  · rintro ⟨n, hn⟩
    obtain ⟨e, he, hreport⟩ := Option.map_eq_some_iff.1 hn
    obtain ⟨⟨outcome', d'⟩, hrun⟩ := exists_interpret_of_drive hhost he
    obtain ⟨n', e', he', hreport'⟩ := exists_drive_of_interpret hhost hrun
    -- what the interpreter comes to is what this drive comes to, because drives are deterministic
    obtain rfl := Machine.drive_unique he he'
    rw [hreport] at hreport'
    exact ⟨n, by rw [hrun, ← hreport']⟩
  · rintro ⟨fuel, hrun⟩
    obtain ⟨n, e, he, hreport⟩ := exists_drive_of_interpret hhost hrun
    exact ⟨n, by rw [he, Option.map_some, hreport]⟩

/-- Worlds are what machines expect of a host. -/
theorem World.proper : Host.Proper World where
  ne_end w r := (w.serve_ordinary r).ne_end
  fresh w r m h := by
    obtain ⟨owner, hr⟩ := r.exists_isOf
    obtain ⟨f, rfl, hfresh, -⟩ := World.serve_frame hr h
    exact Machine.fresh_start hfresh

/-- A world in which one object can greet. -/
def greeters : World :=
  { objects := Table.ofList
      [(⟨1⟩, { id := ⟨1⟩, verbs := Table.ofList [("greet", "$_return = 'hi'")] })] }

/-- A loop that goes round once, calls a verb there and keeps its result in a property. -/
def greetOnce : Script :=
  [.whileLoop [.reference ⟨.var, "go", none⟩]
    [.assign .set ⟨.var, "go", none⟩ [.null],
      .assign .set ⟨.prop, "last", none⟩ [.call ⟨"greet", none, none, none, []⟩]],
    .assign .set ⟨.var, "_return", none⟩ [.reference ⟨.prop, "last", none⟩]]

/-- The variable that lets `greetOnce` enter its loop. -/
def going : Table String Value := Table.ofList [("go", .bool true)]

theorem greetOnce_drive :
    Host.Proper World ∧ ∃ n outcome d,
      ((Machine.start { owner := ⟨1⟩, script := greetOnce, locals := going }).drive n
        { host := greeters }).map Ending.report = some (outcome, d) ∧
      outcome.map (·.2) = .ok (.str "hi") ∧
      d.exchanges.map (·.1.ask) = [.call "greet", .setProp "last", .getProp "last"] := by
  have hrun : (Direct.interpret 10 ⟨1⟩ greetOnce going 32 { host := greeters }).map
      (fun x => (x.1.map (·.2), x.2.exchanges.map (·.1.ask)))
        = some (.ok (.str "hi"), [.call "greet", .setProp "last", .getProp "last"]) := by
    decide +kernel
  obtain ⟨⟨outcome, d⟩, hx, hreport⟩ := Option.map_eq_some_iff.1 hrun
  obtain ⟨houtcome, hexchanges⟩ := Prod.mk.inj hreport
  obtain ⟨n, hn⟩ := (drive_iff_interpret World.proper _ _ _ _ _ _ _).2 ⟨10, hx⟩
  exact ⟨World.proper, n, outcome, d, hn, houtcome, hexchanges⟩

end VerbScript
