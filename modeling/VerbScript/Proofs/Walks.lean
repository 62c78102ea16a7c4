import VerbScript.Proofs.LocalWrites

/-!
# Walks through scripts

A frame goes through its script statement by statement. What it has executed to the end makes a walk
that begins at the first statement, and in which every statement is followed by the one to which its
effect and the rules of `Script.Leads` lead.

* `Script.Walk script ps next` — the statements at the paths `ps` have been executed in this order,
  and the walk goes on at `next`, or is over.
* `Script.Walk.outermost_eq` — a walk passes the statements of the outermost level one after the
  other, each of them once. One that is over has passed them all.
* `Frame.Walked f ps` — where a frame stands that has walked through `ps`: at a statement that it
  has yet to execute, behind one that it has executed, or at the end.
* `Frame.Walked.step` — a step adds to the walk the statement that it executes.
-/

namespace VerbScript

namespace Script

variable {script : Script} {ps : List Path} {p : Path} {next : Option Path}

/-- **The walks through a script**, by the paths of the statements executed so far and the path at
which the walk goes on, if it is not over. A statement is executed when its plan is through; then
its block is entered, or the rules say what follows it. -/
inductive Walk (script : Script) : List Path → Option Path → Prop where
  | start : Walk script [] (some [0])
  /-- There is no statement to be executed. -/
  | missing {ps : List Path} {p : Path} (before : Walk script ps (some p))
      (nothing : script.find? p = none) : Walk script ps none
  | enter {ps : List Path} {p : Path} {statement : Statement} {s : Scope} {log : List Value}
      (before : Walk script ps (some p)) (found : script.find? p = some statement)
      (executed : (statement.plan s).replay log = .done .descend) :
      Walk script (ps ++ [p]) (some (p ++ [0]))
  | leave {ps : List Path} {p : Path} {statement : Statement} {s s' : Scope}
      {log log' : List Value} {effect : Effect} {next : Option Path}
      (before : Walk script ps (some p)) (found : script.find? p = some statement)
      (executed : (statement.plan s).replay log = .done effect) (through : effect ≠ .descend)
      (leads : script.Leads s' log' p next) : Walk script (ps ++ [p]) next

/-- A walk goes on at a statement, unless the script is empty and the walk is at its beginning. An
empty script has no statement, and its walk ends where it has begun. -/
theorem Walk.found (h : script.Walk ps (some p)) :
    (script.find? p).isSome ∨ script = [] ∧ p = [0] := by
  -- where a walk goes on is where its last statement has led; a block that is entered is not empty
  generalize hnext : some p = next at h
  cases h with
  | start =>
    obtain rfl := Option.some.inj hnext
    cases script with
    | nil => exact .inr ⟨rfl, rfl⟩
    | cons first rest => exact .inl rfl
  | missing before nothing => cases hnext
  | @enter ps q statement s log before found executed =>
    obtain rfl := Option.some.inj hnext
    obtain ⟨condition, block, v, hstatement, hne, -, -⟩ := Statement.of_descend executed
    have hblock : statement.block? = some block := by
      rcases hstatement with rfl | rfl <;> rfl
    exact .inl (find?_enter found hblock hne)
  | leave before found executed through leads =>
    subst hnext
    exact .inl leads.found

/-! ### The outermost level -/

/-- The place of a statement of the outermost level. A path of more than one place leads into a
block and has none. -/
def outermost? : Path → Option Nat
  | [i] => some i
  | _ => none

/-- How many statements of the outermost level have been passed on the way to a path. A statement
inside a block is behind the beginning of the one that holds it. -/
def passed (script : Script) : Option Path → Nat
  | none => script.length
  | some [] => 0
  | some [i] => i
  | some (i :: _ :: _) => i + 1

theorem passed_inside (script : Script) (i : Nat) (q : Path) (j : Nat) :
    script.passed (some (i :: q ++ [j])) = i + 1 := by
  cases q <;> rfl

/-- A statement that holds a block is found at a path that begins like those of its block. There is
no statement at the empty path, so such a path has a beginning. -/
theorem exists_cons_of_found {q rest : Path} {i k : Nat} {statement : Statement}
    (h : q ++ [k] = i :: rest) (found : script.find? q = some statement) : ∃ q', q = i :: q' := by
  cases q with
  | nil =>
    rw [show script.find? [] = none from rfl] at found
    cases found
  | cons j q' =>
    obtain ⟨rfl, -⟩ := List.cons.inj h
    exact ⟨q', rfl⟩

/-- **Leaving a statement** passes the statement of the outermost level to which it belongs, and no
other one. The induction follows the rules outwards: leaving a block is leaving the statement that
holds it, which begins at the same place of the outermost level. -/
theorem Leads.passed_eq {s : Scope} {log : List Value} {i : Nat} {rest : Path}
    (h : script.Leads s log p next) (hp : p = i :: rest) : script.passed next = i + 1 := by
  induction h generalizing rest with
  -- the next statement of the block, or of the outermost level itself
  | @sibling log q k block within more =>
    cases q with
    | nil =>
      obtain ⟨rfl, -⟩ := List.cons.inj hp
      rfl
    | cons j q' =>
      obtain ⟨rfl, -⟩ := List.cons.inj hp
      exact passed_inside script j q' (k + 1)
  -- the last statement of the outermost level has been passed
  | ends last =>
    obtain ⟨rfl, -⟩ := List.cons.inj hp
    exact last.symm
  | leaveIf holder last outer ih =>
    obtain ⟨q', rfl⟩ := exists_cons_of_found hp holder
    exact ih rfl
  | leaveWhile holder last tested fails outer ih =>
    obtain ⟨q', rfl⟩ := exists_cons_of_found hp holder
    exact ih rfl
  -- a loop is entered again: its own place is still the one that has been passed
  | again holder last tested holds =>
    obtain ⟨q', rfl⟩ := exists_cons_of_found hp holder
    exact passed_inside script i q' 0

/-- **A walk passes the outermost statements in order**, each of them once. The statements of blocks
in between do not count, however often they are passed. -/
theorem Walk.outermost_eq (h : script.Walk ps next) :
    ps.filterMap outermost? = List.range (script.passed next) := by
  -- a path of the outermost level adds its place, and a longer one adds nothing
  have hpassed : ∀ {ps : List Path} {p : Path}, p ≠ [] →
      ps.filterMap outermost? = List.range (script.passed (some p)) →
      ∀ i rest, p = i :: rest → (ps ++ [p]).filterMap outermost? = List.range (i + 1) := by
    rintro ps p - hps i rest rfl
    rw [List.filterMap_append, hps]
    cases rest with
    | nil => exact List.range_succ.symm
    | cons j rest => exact List.append_nil _
  induction h with
  | start => rfl
  -- only an empty script has no statement where its walk goes on
  | @missing ps p before nothing ih =>
    rcases before.found with hsome | ⟨rfl, rfl⟩
    · rw [nothing] at hsome
      cases hsome
    · exact ih
  | @enter ps p statement s log before found executed ih =>
    cases p with
    | nil => cases found
    | cons i rest =>
      rw [hpassed (List.cons_ne_nil i rest) ih i rest rfl]
      exact congrArg List.range (passed_inside script i rest 0).symm
  | @leave ps p statement s s' log log' effect next before found executed through leads ih =>
    cases p with
    | nil => cases found
    | cons i rest =>
      rw [hpassed (List.cons_ne_nil i rest) ih i rest rfl, leads.passed_eq rfl]

end Script

/-! ### Frames on their walk -/

namespace Frame

variable {f g : Frame} {ps : List Path}

/-- **Where a frame stands** that has walked through the statements at the paths `ps`. The three
cases are told apart by the phase and by whether the frame is finished. -/
inductive Walked (f : Frame) : List Path → Prop where
  /-- At a statement that it has yet to execute. -/
  | before {ps : List Path} (unfinished : f.finished = false) (phase : f.phase = .execute)
      (walk : f.script.Walk ps (some f.path)) : Walked f ps
  /-- Behind a statement that it has executed, on its way to the next one. -/
  | behind {ps : List Path} {statement : Statement} {s : Scope} {log : List Value}
      {effect : Effect} (unfinished : f.finished = false) (phase : f.phase = .advance)
      (walk : f.script.Walk ps (some f.path)) (found : f.script.find? f.path = some statement)
      (executed : (statement.plan s).replay log = .done effect) (through : effect ≠ .descend) :
      Walked f (ps ++ [f.path])
  /-- At the end. -/
  | ended {ps : List Path} (finished : f.finished = true) (walk : f.script.Walk ps none) :
      Walked f ps

/-- The frame is still where it was, and finished only if it was. Its log, its request and its
variables may have changed. -/
structure Keeps (f g : Frame) : Prop extends Stays f g where
  finished : g.finished = f.finished

/-- A frame keeps its own place. -/
theorem Keeps.refl (f : Frame) : f.Keeps f := ⟨.refl f, rfl⟩

/-- A frame that waits for a called one keeps its place, however the wait ends. -/
theorem Waits.keeps (h : f.Waits g) : f.Keeps g := by
  refine ⟨h.stays, ?_⟩
  cases h <;> rfl

/-- The walk is known by script, path and phase, so a frame that keeps its place keeps its walk.
Variables and answers, by contrast, may change. -/
theorem Walked.kept (h : f.Walked ps) (hkeeps : f.Keeps g) : g.Walked ps := by
  obtain ⟨⟨hscript, hpath, hphase⟩, hfinished⟩ := hkeeps
  cases h with
  | before unfinished phase walk =>
    rw [← hscript, ← hpath] at walk
    exact .before (hfinished.trans unfinished) (hphase.trans phase) walk
  | behind unfinished phase walk found executed through =>
    rw [← hscript, ← hpath] at walk found
    rw [← hpath]
    exact .behind (hfinished.trans unfinished) (hphase.trans phase) walk found executed through
  | ended finished walk =>
    rw [← hscript] at walk
    exact .ended (hfinished.trans finished) walk

/-- A fresh frame stands at its first statement. Its walk has executed nothing so far. -/
theorem Fresh.walked (h : f.Fresh) : f.Walked [] := by
  refine .before h.finished h.phase ?_
  rw [h.path]
  exact .start

/-! ### What a frame executes -/

/-- Only a frame that is free to work executes a statement. The other three are looked at first by a
step. -/
theorem ready_of_executes? {x : Path × Statement} (h : f.executes? = some x) : f.Ready := by
  unfold executes? at h
  split at h
  next hfailure hawaiting hfinished hphase => exact ⟨hawaiting, hfailure, hfinished⟩
  next => cases h

/-- A frame that waits for an answer, holds a fault or is finished executes nothing. -/
theorem executes?_idle (h : ¬f.Ready) : f.executes? = none := by
  rw [Option.eq_none_iff_forall_not_mem]
  intro x hx
  exact h (ready_of_executes? hx)

/-- What a frame executes is the statement at its path. If nothing is there, nothing is executed. -/
theorem find?_of_executes? {x : Path × Statement} (h : f.executes? = some x) :
    f.script.find? x.1 = some x.2 := by
  have hready := ready_of_executes? h
  -- on its way to the next statement a frame executes nothing
  cases hphase : f.phase with
  | advance =>
    rw [executes?_advance hphase] at h
    cases h
  | execute =>
    cases hfind : f.script.find? f.path with
    | none =>
      rw [executes?_none hfind] at h
      cases h
    | some statement =>
      rw [executes?_found hready hphase hfind] at h
      split at h
      · obtain rfl := Option.some.inj h
        exact hfind
      · cases h

/-! ### Steps -/

/-- A frame that gives up with another fault than the end of its script stays at its place. A host
that goes on after the fault has the same work begun again. -/
theorem keeps_abort {fault : Fault} (hend : fault ≠ .endOfScript) :
    f.Keeps (f.abort fault).1 := by
  refine ⟨⟨rfl, rfl, rfl⟩, ?_⟩
  show (f.finished || fault.isEnd) = f.finished
  rw [Fault.isEnd_eq_false hend, Bool.or_false]

/-- A frame on its way to the next statement arrives there, or stays where it is. It stays if the
search has to ask something, or if it fails. -/
theorem Walked.advance (h : f.Walked ps) (hphase : f.phase = .advance)
    (hunfinished : f.finished = false) : f.advance.1.Walked ps := by
  have hseeks := f.advance_seeks
  generalize f.advance = x at hseeks
  cases h with
  | before unfinished phase walk => exact absurd (phase.symm.trans hphase) nofun
  | ended finished walk => exact absurd (finished.symm.trans hunfinished) nofun
  | @behind ps statement s log effect unfinished phase walk found executed through =>
    have hstays : f.Walked (ps ++ [f.path]) :=
      .behind unfinished phase walk found executed through
    have hfound : (f.script.find? f.path).isSome := Option.isSome_of_eq_some found
    -- the search stops at a request, fails, finds the next statement or the end of the script
    cases hseeks with
    | suspended r => exact hstays.kept ⟨⟨rfl, rfl, rfl⟩, rfl⟩
    | failed fault ordinary => exact hstays.kept (keeps_abort ordinary.ne_end)
    -- what has been searched for by the replay is what the rules lead to
    | moved path search =>
      have hleads := leads_of_found hfound search
      exact .before unfinished rfl (walk.leave found executed through hleads)
    | ended search =>
      have hleads := leads_of_found hfound search
      exact .ended rfl (walk.leave found executed through hleads)

/-- Neither does the search for the next statement change the script. -/
theorem advance_script (f : Frame) : f.advance.1.script = f.script := by
  have hseeks := f.advance_seeks
  generalize f.advance = x at hseeks
  cases hseeks <;> rfl

/-- A frame executes one script. The verbs it calls are executed by frames of their own. -/
theorem step_script (f : Frame) : f.step.1.script = f.script := by
  have hsteps := f.step_steps
  generalize f.step = x at hsteps
  cases hsteps with
  | departed departs =>
    rw [advance_script]
    cases departs <;> rfl
  | _ => rfl

/-- A frame that stands on a statement it has yet to execute. The statement comes next on its
walk. -/
theorem Walked.walk_of_at (h : f.Walked ps) {statement : Statement} (here : f.At statement) :
    f.script.Walk ps (some f.path) := by
  cases h with
  | before unfinished phase walk => exact walk
  | behind unfinished phase walk found executed through =>
    exact absurd (phase.symm.trans here.phase) nofun
  | ended finished walk => exact absurd (finished.symm.trans here.finished) nofun

/-- **A frame that sets out for its next statement** has walked through the one it has executed. If
it had set out before, it executes nothing and has walked through the same ones. -/
theorem Walked.departs (h : f.Walked ps) (hdeparts : f.Departs g) :
    g.Walked (ps ++ f.executes?.toList.map Prod.fst) ∧ g.phase = .advance ∧
      g.finished = false := by
  have hexecuted : ∀ {statement effect}, f.At statement →
      (statement.plan f.scope).replay f.replies = .done effect →
      f.executes?.toList.map Prod.fst = [f.path] := by
    intro statement effect here heffect
    rw [here.executes?_eq, heffect]
    rfl
  cases hdeparts with
  -- the statement has been executed before, and the search is taken up again
  | again ready phase =>
    rw [executes?_advance phase]
    exact ⟨(List.append_nil ps).symm ▸ h, phase, ready.finished⟩
  | done here effect =>
    rw [hexecuted here effect]
    exact ⟨.behind here.finished rfl (h.walk_of_at here) here.found effect nofun, rfl,
      here.finished⟩
  | wrote here effect =>
    rw [hexecuted here effect]
    exact ⟨.behind here.finished rfl (h.walk_of_at here) here.found effect nofun, rfl,
      here.finished⟩

/-- **A step** adds to the walk what it executes, which is one statement or none. The cases are
those of all that a step of a frame comes to. -/
theorem Walked.step (h : f.Walked ps) :
    f.step.1.Walked (ps ++ f.executes?.toList.map Prod.fst) := by
  -- a step that executes nothing and leaves the frame at its place
  have hidle : ∀ {g : Frame}, f.executes? = none → f.Keeps g →
      g.Walked (ps ++ f.executes?.toList.map Prod.fst) := by
    intro g hnone hkeeps
    rw [hnone]
    exact (List.append_nil ps).symm ▸ h.kept hkeeps
  have hsteps := f.step_steps
  generalize f.step = x at hsteps
  cases hsteps with
  | raised fault failure =>
    refine hidle (executes?_idle fun hready => ?_) ⟨⟨rfl, rfl, rfl⟩, rfl⟩
    exact absurd (hready.failure.symm.trans failure) nofun
  | waiting r awaiting =>
    refine hidle (executes?_idle fun hready => ?_) (.refl f)
    exact absurd (hready.awaiting.symm.trans awaiting) nofun
  | finished ended =>
    refine hidle (executes?_idle fun hready => ?_) (.refl f)
    exact absurd (hready.finished.symm.trans ended) nofun
  -- there is no statement to execute: the walk is over
  | missing ready found =>
    rw [executes?_none found]
    cases h with
    | before unfinished phase walk =>
      refine .ended ?_ ?_
      · show (f.finished || true) = true
        exact Bool.or_true _
      · exact (List.append_nil ps).symm ▸ walk.missing found
    | behind unfinished phase walk found' executed through =>
      exact absurd (found'.symm.trans found) nofun
    | ended finished walk => exact absurd (finished.symm.trans ready.finished) nofun
  | suspended r here effect =>
    refine hidle ?_ ⟨⟨rfl, rfl, rfl⟩, rfl⟩
    rw [here.executes?_eq, effect]
  | @failed statement fault here effect =>
    refine hidle ?_ (keeps_abort ((Statement.plan_regular _ _).ordinary effect).ne_end)
    rw [here.executes?_eq, effect]
  -- the block of the statement is entered, and its first statement is the next one
  | entered here effect =>
    rw [here.executes?_eq, effect]
    exact .before here.finished here.phase ((h.walk_of_at here).enter here.found effect)
  | departed departs =>
    obtain ⟨hwalked, hphase, hunfinished⟩ := h.departs departs
    exact hwalked.advance hphase hunfinished

end Frame

end VerbScript
