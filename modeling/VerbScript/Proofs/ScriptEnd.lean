import VerbScript.Proofs.Walks

/-!
# The end of a script

A step that ends with the end of the script is the last one, with one exception. When the outermost
script has been executed to its end, its frame is finished for good: every later step says so again,
no answer is accepted, and nothing changes any more except for variables that are set from outside.
The exception is a host that answers a request of the outermost frame with the end of the script as
a fault. The next step raises it like any other fault, and the frame goes on with its statement in
the step after that.

* `Machine.AtEnd` — the outermost frame is finished and executes. `Machine.AtEnd.step_eq` and
  `Machine.AtEnd.operations`: it does nothing more, whatever is done with the machine.
* `Machine.Travels script past m` — the outermost frame of the machine is executing the script and
  has walked through the statements of `past`. `Machine.Travels.perform` is the invariant, over all
  operations and all answers.
* `Machine.executed m ops` — what the outermost frame executes in the course of some operations.
* `Machine.endOfScript_final` — the theorem.
-/

namespace VerbScript

/-- **A script has been carried out** by the statements that have been executed, each given with
its path: they make a walk through the script that is over, and have passed the statements of the
outermost level in order, each of them once. -/
structure Script.CarriedOut (script : Script) (past : List (Path × Statement)) : Prop where
  walk : script.Walk (past.map Prod.fst) none
  outermost : (past.map Prod.fst).filterMap outermost? = List.range script.length
  found : ∀ x ∈ past, script.find? x.1 = some x.2

/-! ### Frames -/

namespace Frame

variable {f : Frame}

/-- **A frame that ends its script is finished**, unless the end has been brought by an answer. All
other ways in which a step may come to a fault are excluded: evaluation fails with ordinary faults
only. -/
theorem Sound.step_end (h : f.Sound) (hstep : f.step.2 = .error .endOfScript)
    (hfailure : f.failure ≠ some .endOfScript) :
    f.step.1.finished = true ∧ f.step.1.awaiting = none ∧ f.step.1.failure = none := by
  have hsteps := f.step_steps
  generalize f.step = x at hsteps hstep
  -- each way in which a frame can step, of which three end with the end of the script
  cases hsteps with
  | raised fault failure =>
    cases hstep
    exact absurd failure hfailure
  | waiting r awaiting => cases hstep
  | finished ended => exact ⟨ended, h.ended ended⟩
  -- a path that leads to no statement ends the script as well
  | missing ready found => exact ⟨Bool.or_true _, rfl, ready.failure⟩
  | suspended r here effect => cases hstep
  | @failed statement fault here effect =>
    cases hstep
    exact absurd rfl ((statement.plan_regular f.scope).ordinary effect).ne_end
  | entered here effect => cases hstep
  -- the statement is done, and the search for the next one has come to an end
  | @departed g departs =>
    have hg : g.failure = none := by
      cases departs with
      | again ready phase => exact ready.failure
      | done here effect => exact here.failure
      | wrote here effect => exact here.failure
    -- the search may stop at a request or fail; its end is the end of the script
    have hseeks := g.advance_seeks
    generalize g.advance = y at hseeks hstep
    cases hseeks with
    | suspended r => cases hstep
    | failed fault ordinary =>
      cases hstep
      exact absurd rfl ordinary.ne_end
    | moved path search => cases hstep
    | ended search => exact ⟨rfl, rfl, hg⟩

/-- A frame that waits for a called one stays free to work: it gets an answer, or it is given up and
will execute its statement again. -/
theorem Ready.waits {g : Frame} (h : f.Ready) (hwaits : f.Waits g) : g.Ready := by
  cases hwaits with
  | still => exact h
  | answered v => exact h.logReply v
  | givenUp => exact ⟨rfl, h.failure, h.finished⟩

/-- The end that an answer has brought is raised, and does not end the frame. The step takes it for
a fault of the answer, which it is, and not for the end of this script. -/
theorem Sound.step_brought_end (h : f.Sound) (hfailure : f.failure = some .endOfScript) :
    f.step.1.finished = false := by
  rw [step_raised hfailure]
  -- the fault is taken and nothing else changes, so the frame would have been finished before
  show f.finished = false
  rw [Bool.eq_false_iff]
  intro hfinished
  exact absurd ((h.ended hfinished).2.symm.trans hfailure) nofun

end Frame

namespace Machine

variable {m : Machine} {script : Script} {past : List (Path × Statement)}

/-! ### Machines at their end -/

/-- The outermost frame executes, and it is finished. It has no request and no fault left that could
bring it to do anything else. -/
structure AtEnd (m : Machine) : Prop where
  alone : m.callers = []
  finished : m.current.finished = true
  awaiting : m.current.awaiting = none
  failure : m.current.failure = none

/-- **A step at the end** says so, and changes nothing. The same holds of an answer, of a run and of
all of these in a row. -/
theorem AtEnd.step_eq (h : m.AtEnd) : m.step = (m, .error .endOfScript) :=
  step_of_end (Frame.step_finished h.failure h.awaiting h.finished) h.alone

/-- There is no request to answer, so every answer is refused. -/
theorem AtEnd.resume_eq (h : m.AtEnd) (reply : Except Fault Reply) : (m.resume reply).1 = m :=
  resume_refused reply h.awaiting

/-- A run stops at its first step. -/
theorem AtEnd.run_eq (h : m.AtEnd) (n : Nat) : (m.run n).1 = m := by
  cases n with
  | zero => rfl
  | succ n =>
    unfold run
    rw [h.step_eq]

/-- The machine differs from another one in the variables of the executing frame only. With one
frame this is all that can be changed from outside. -/
def SameButLocals (m m' : Machine) : Prop :=
  m'.callers = m.callers ∧ m'.current = { m.current with locals := m'.current.locals }

/-- Variables have no part in whether a machine is at its end. They are what a host may still
set. -/
theorem AtEnd.of_same {m' : Machine} (h : m.AtEnd) (hsame : m.SameButLocals m') : m'.AtEnd := by
  obtain ⟨hcallers, hcurrent⟩ := hsame
  refine ⟨hcallers.trans h.alone, ?_, ?_, ?_⟩
  · rw [hcurrent]
    exact h.finished
  · rw [hcurrent]
    exact h.awaiting
  · rw [hcurrent]
    exact h.failure

/-- Whatever is done with a machine at its end, only its variables may change. A step reports the
end again, an answer is refused, and a variable is set where it would be otherwise. -/
theorem AtEnd.perform_same (h : m.AtEnd) (op : Operation) : m.SameButLocals (m.perform op) := by
  have hsame : ∀ {m' : Machine}, m' = m → m.SameButLocals m' := by
    rintro m' rfl
    exact ⟨rfl, rfl⟩
  cases op with
  | step => exact hsame (congrArg Prod.fst h.step_eq)
  | run n => exact hsame (h.run_eq n)
  | resume reply => exact hsame (h.resume_eq reply)
  | setLocal name value =>
    show m.SameButLocals (m.setLocal name value)
    -- the outermost frame is the one that executes, since there is no other
    rcases m.setLocal_cases name value with ⟨-, heq⟩ | ⟨upper, root, hcallers, -⟩
    · rw [heq]
      exact ⟨rfl, rfl⟩
    · rw [h.alone] at hcallers
      exact absurd hcallers.symm (List.append_ne_nil_of_right_ne_nil _ (List.cons_ne_nil _ _))

/-- Only a variable that is set changes anything at the end. -/
theorem AtEnd.perform_eq (h : m.AtEnd) {op : Operation}
    (hop : ∀ name value, op ≠ .setLocal name value) : m.perform op = m := by
  cases op with
  | step => exact congrArg Prod.fst h.step_eq
  | run n => exact h.run_eq n
  | resume reply => exact h.resume_eq reply
  | setLocal name value => exact absurd rfl (hop name value)

/-- **Nothing happens any more at the end**, except that variables are set from outside. They are
those of the outermost frame, the only one that there is. -/
theorem AtEnd.operations (h : m.AtEnd) (ops : List Operation) :
    m.SameButLocals (ops.foldl perform m) ∧
      ((∀ op ∈ ops, ∀ name value, op ≠ .setLocal name value) → ops.foldl perform m = m) := by
  induction ops generalizing m with
  | nil => exact ⟨⟨rfl, rfl⟩, fun _ => rfl⟩
  | cons op ops ih =>
    have hop := h.perform_same op
    -- the first operation leaves a machine at its end, of which the rest is known
    obtain ⟨⟨hcallers, hcurrent⟩, heq⟩ := ih (h.of_same hop)
    refine ⟨⟨hcallers.trans hop.1, ?_⟩, fun hops => ?_⟩
    · show (ops.foldl perform (m.perform op)).current = _
      rw [hcurrent, hop.2]
      rfl
    · have hsame := h.perform_eq (hops op List.mem_cons_self)
      rw [hsame] at heq
      show ops.foldl perform (m.perform op) = m
      rw [hsame]
      exact heq fun op' hop' => hops op' (List.mem_cons_of_mem op hop')

/-! ### The outermost frame -/

/-- The frames are listed from the outermost one. -/
theorem frames_head (m : Machine) : m.frames[0]? = some m.root := by
  obtain ⟨upper, hframes, -⟩ := m.frames_mapRoot id
  rw [hframes]
  rfl

/-- What is done to the outermost frame is done to it alone, and it stays the outermost one. -/
theorem root_mapRoot (m : Machine) (g : Frame → Frame) : (m.mapRoot g).root = g m.root := by
  obtain ⟨upper, -, hmapped⟩ := m.frames_mapRoot g
  have hhead := (m.mapRoot g).frames_head
  rw [hmapped] at hhead
  exact (Option.some.inj hhead).symm

/-- A machine on top of another does not change which frame is the outermost one. -/
theorem root_onto (n m : Machine) : (n.onto m).root = m.root := by
  have hhead : (n.onto m).frames[0]? = m.frames[0]? := by
    have hpos : 0 < m.frames.length := List.length_pos_of_mem m.current_mem_frames
    -- the frames of `m` come first in the list
    rw [frames_onto, List.getElem?_append_left hpos]
  exact Option.some.inj ((n.onto m).frames_head.symm.trans (hhead.trans m.frames_head))

/-- A frame that is alone is the outermost one, and what replaces it is so too. -/
theorem root_replaced_alone (h : m.callers = []) (x : Frame) :
    ({ m with current := x } : Machine).root = x := root_of_callers h

/-- Below other frames the outermost one is not touched. -/
theorem root_replaced (h : m.callers ≠ []) (x : Frame) :
    ({ m with current := x } : Machine).root = m.root := by
  unfold root
  rw [List.getLast?_eq_some_getLast h]
  rfl

theorem setLocal_root (m : Machine) (name : String) (value : Value) :
    (m.setLocal name value).root = m.root.setLocal name value :=
  m.root_mapRoot _

/-- A step never adds a frame; only an answer does. -/
theorem step_alone (h : m.callers = []) : m.step.1.callers = [] := by
  have hcount := m.step_frameCount_le
  unfold frameCount at hcount
  rw [h] at hcount
  exact List.length_eq_zero_iff.1 (Nat.le_zero.1 (Nat.le_of_succ_le_succ hcount))

/-- **The outermost frame is executing the script** and has walked through the statements of `past`.
As long as it waits for a called frame, it is otherwise free to work: it has neither a request nor a
fault that could be left over when the called one is given up. -/
structure Travels (script : Script) (past : List (Path × Statement)) (m : Machine) : Prop where
  runs : m.root.script = script
  found : ∀ x ∈ past, script.find? x.1 = some x.2
  walked : m.root.Walked (past.map Prod.fst)
  sound : m.root.Sound
  waiting : m.callers ≠ [] → m.root.Ready

/-- At the beginning nothing has been executed. -/
theorem Travels.start {f : Frame} (h : f.Fresh) : (start f).Travels f.script [] :=
  ⟨rfl, List.forall_mem_nil _, h.walked, h.toReady.sound, fun hne => absurd rfl hne⟩

/-- The outermost frame has stayed at its place. Whatever happens above it is of this kind. -/
theorem Travels.kept {m' : Machine} (h : m.Travels script past) (hkeeps : m.root.Keeps m'.root)
    (hsound : m'.root.Sound) (hwaiting : m'.callers ≠ [] → m'.root.Ready) :
    m'.Travels script past :=
  ⟨hkeeps.script.trans h.runs, h.found, h.walked.kept hkeeps, hsound, hwaiting⟩

/-- What the next step of the outermost frame executes, if it is the one that makes the step. While
another frame executes, the outermost one does nothing. -/
def rootExecutes? (m : Machine) : Option (Path × Statement) :=
  if m.callers = [] then m.current.executes? else none

/-- **A step** adds to the walk what the outermost frame executes in it. Where another frame
executes it adds nothing, and the outermost frame stays where it is. -/
theorem Travels.step (h : m.Travels script past) :
    m.step.1.Travels script (past ++ m.rootExecutes?.toList) := by
  unfold rootExecutes?
  obtain ⟨f, hf, ⟨hlt, hwaits⟩ | ⟨hk, hcurrent, hstepped⟩⟩ := step_stack m.step.1.frames_head
  · -- another frame makes the step
    obtain rfl : m.root = f := Option.some.inj (m.frames_head.symm.trans hf)
    have hne : m.callers ≠ [] := by
      intro hnil
      unfold frameCount at hlt
      rw [hnil] at hlt
      exact absurd hlt (Nat.lt_irrefl 1)
    have hready : m.step.1.root.Ready := (h.waiting hne).waits hwaits
    rw [if_neg hne, Option.toList_none, List.append_nil]
    exact h.kept hwaits.keeps hready.sound fun _ => hready
  · -- the outermost frame makes the step itself, and its statement joins the walk
    have hnil : m.callers = [] := List.length_eq_zero_iff.1 (Nat.succ.inj hk).symm
    have hroot : m.root = m.current := root_of_callers hnil
    obtain ⟨hscript, hfound, hwalked, hsound, -⟩ := h
    rw [hroot] at hscript hwalked hsound
    rw [if_pos hnil]
    refine ⟨?_, ?_, ?_, ?_, fun hne => absurd (step_alone hnil) hne⟩
    · rw [hstepped]
      exact m.current.step_script.trans hscript
    · rw [List.forall_mem_append]
      refine ⟨hfound, fun x hx => ?_⟩
      rw [← hscript]
      exact Frame.find?_of_executes? (Option.mem_toList.1 hx)
    · rw [hstepped, List.map_append]
      exact hwalked.step
    · rw [hstepped]
      exact hsound.step.sound

/-- The executing frame is replaced by one at the same place. If it has callers, it is not the
outermost frame, and that one is the same as before. -/
theorem Travels.replaced (h : m.Travels script past) {x : Frame} (hkeeps : m.current.Keeps x)
    (hsound : m.callers = [] → x.Sound) :
    ({ m with current := x } : Machine).Travels script past := by
  -- only a frame that is alone is the outermost one
  by_cases hnil : m.callers = []
  · have hroot : m.root = m.current := root_of_callers hnil
    refine h.kept ?_ ?_ fun hne => absurd hnil hne
    · rw [hroot, root_replaced_alone hnil x]
      exact hkeeps
    · rw [root_replaced_alone hnil x]
      exact hsound hnil
  · refine h.kept ?_ ?_ ?_
    · rw [root_replaced hnil x]
      exact .refl m.root
    · rw [root_replaced hnil x]
      exact h.sound
    · rw [root_replaced hnil x]
      exact h.waiting

/-- Once its request is closed, the outermost frame is free to work, or waits for a called one. In
either case an answer may be logged by the frame that executes. -/
theorem Travels.closed (h : m.Travels script past) {r : Request}
    (hopen : m.current.awaiting = some r) {x : Frame}
    (hx : x = { m.current with awaiting := none }) :
    ({ m with current := x } : Machine).Travels script past ∧
      ({ m with current := x } : Machine).root.Ready := by
  have hkeeps : m.current.Keeps x := by
    rw [hx]
    exact ⟨⟨rfl, rfl, rfl⟩, rfl⟩
  by_cases hnil : m.callers = []
  · have hsound := h.sound
    rw [root_of_callers hnil] at hsound
    have hready := hsound.ready_of_awaiting hopen
    rw [← hx] at hready
    refine ⟨h.replaced hkeeps fun _ => hready.sound, ?_⟩
    rw [root_replaced_alone hnil x]
    exact hready
  · refine ⟨h.replaced hkeeps fun h' => absurd h' hnil, ?_⟩
    rw [root_replaced hnil x]
    exact h.waiting hnil

/-- **An answer** leaves the outermost frame at its place, whatever it is. It may close its request,
or bring a machine that is executed before it. -/
theorem Travels.resume (h : m.Travels script past) (reply : Except Fault Reply) :
    (m.resume reply).1.Travels script past := by
  cases hopen : m.current.awaiting with
  | none =>
    rw [resume_refused reply hopen]
    exact h
  | some r =>
    obtain ⟨hclosed, hready⟩ := h.closed hopen rfl
    -- a fault comes to the executing frame, which keeps its place
    have hraise : ∀ fault, ({ m with
        current := { m.current with awaiting := none }.raise fault } : Machine).Travels
          script past := by
      intro fault
      refine h.replaced ⟨⟨rfl, rfl, rfl⟩, rfl⟩ fun hnil => ⟨.inl rfl, fun hfinished => ?_⟩
      rw [root_replaced_alone hnil] at hready
      exact absurd (hready.finished.symm.trans hfinished) nofun
    cases reply with
    | error fault =>
      rw [resume_error hopen]
      exact hraise fault
    | ok reply =>
      rw [resume_ok hopen]
      rcases deliver_cases { m with current := { m.current with awaiting := none } } r reply with
        ⟨v, heq⟩ | ⟨fault, -, heq⟩ | ⟨n, -, -, heq⟩
      · rw [heq]
        refine h.replaced ⟨⟨rfl, rfl, rfl⟩, rfl⟩ fun hnil => ?_
        rw [root_replaced_alone hnil] at hready
        exact (hready.logReply v).sound
      · rw [heq]
        exact hraise fault
      · -- the machine that is brought comes on top of the outermost frame, which is free to work
        rw [heq]
        refine hclosed.kept ?_ ?_ fun _ => ?_
        · rw [root_onto]
          exact .refl _
        · rw [root_onto]
          exact hclosed.sound
        · rw [root_onto]
          exact hready

/-- **A variable that is set** is one of the outermost frame, which stays at its place. What it
executes next may depend on the variable, but not where it is. -/
theorem Travels.setLocal (h : m.Travels script past) (name : String) (value : Value) :
    (m.setLocal name value).Travels script past := by
  have hroot := m.setLocal_root name value
  refine h.kept ?_ ?_ fun hne => ?_
  · rw [hroot]
    exact ⟨⟨rfl, rfl, rfl⟩, rfl⟩
  · rw [hroot]
    exact ⟨h.sound.exclusive, h.sound.ended⟩
  · have hwaits : m.callers ≠ [] := by
      rcases m.setLocal_cases name value with ⟨-, heq⟩ | ⟨upper, root, hcallers, -⟩
      · rw [heq] at hne
        exact hne
      · rw [hcallers]
        exact List.append_ne_nil_of_right_ne_nil upper (List.cons_ne_nil root [])
    -- setting a variable changes none of the three
    obtain ⟨hawaiting, hfailure, hfinished⟩ := h.waiting hwaits
    rw [hroot]
    exact ⟨hawaiting, hfailure, hfinished⟩

/-! ### Operations -/

/-- What the outermost frame executes in a run of at most `n` steps. A run stops at a request, a
fault or the end, and nothing is executed behind that. -/
def runExecutes (m : Machine) : Nat → List (Path × Statement)
  | 0 => []
  | n + 1 =>
    m.rootExecutes?.toList ++
      match m.step with
      | (m, .ok .continued) => m.runExecutes n
      | _ => []

/-- What the outermost frame executes in an operation. Only steps and runs execute anything. -/
def executes (m : Machine) : Operation → List (Path × Statement)
  | .step => m.rootExecutes?.toList
  | .run n => m.runExecutes n
  | .resume _ => []
  | .setLocal _ _ => []

/-- What the outermost frame executes in the course of some operations, each of which is made on
what the ones before have left. -/
def executed (m : Machine) : List Operation → List (Path × Statement)
  | [] => []
  | op :: ops => m.executes op ++ (m.perform op).executed ops

/-- A run adds what its steps add, up to the first request or fault. The induction is on the steps
that are left. -/
theorem Travels.run (h : m.Travels script past) (n : Nat) :
    (m.run n).1.Travels script (past ++ m.runExecutes n) := by
  induction n generalizing m past with
  | zero =>
    show m.Travels script (past ++ [])
    rw [List.append_nil]
    exact h
  | succ n ih =>
    have hstep := h.step
    unfold Machine.run runExecutes
    rcases hresult : m.step with ⟨m', (fault | progress)⟩
    · rw [hresult] at hstep
      rw [List.append_nil]
      exact hstep
    · rw [hresult] at hstep
      cases progress with
      -- the step goes on, and the rest of the run begins where it has led
      | continued =>
        rw [← List.append_assoc]
        exact ih hstep
      | suspended r =>
        rw [List.append_nil]
        exact hstep

/-- **Every operation** adds to the walk what the outermost frame executes in it. The cases are the
operations, with a lemma for each. -/
theorem Travels.perform (h : m.Travels script past) (op : Operation) :
    (m.perform op).Travels script (past ++ m.executes op) := by
  cases op with
  | step => exact h.step
  | run n => exact h.run n
  | resume reply =>
    show (m.resume reply).1.Travels script (past ++ [])
    rw [List.append_nil]
    exact h.resume reply
  | setLocal name value =>
    show (m.setLocal name value).Travels script (past ++ [])
    rw [List.append_nil]
    exact h.setLocal name value

/-- **The invariant over all operations**: the walk is lengthened by what the outermost frame
executes. -/
theorem Travels.operations (h : m.Travels script past) (ops : List Operation) :
    (ops.foldl Machine.perform m).Travels script (past ++ m.executed ops) := by
  induction ops generalizing m past with
  | nil =>
    show m.Travels script (past ++ [])
    rw [List.append_nil]
    exact h
  | cons op ops ih =>
    show (ops.foldl Machine.perform (m.perform op)).Travels script _
    rw [executed, ← List.append_assoc]
    exact ih (h.perform op)

/-! ### The end as a fault -/

/-- A fault of the outermost frame has been there before the executing frame was replaced, unless
it has come to the executing frame with this. -/
theorem root_failure_replaced {x : Frame} {fault : Fault} {P : Prop}
    (hx : x.failure = some fault → m.current.failure = some fault ∨ P)
    (h : ({ m with current := x } : Machine).root.failure = some fault) :
    m.root.failure = some fault ∨ P := by
  by_cases hnil : m.callers = []
  · rw [root_replaced_alone hnil x] at h
    rw [root_of_callers hnil]
    exact hx h
  · rw [root_replaced hnil x] at h
    exact .inl h

/-- No step makes the outermost frame hold a fault: a step raises the fault that is held, and a
fault that it comes to itself is returned at once. -/
theorem step_root_failure {fault : Fault} (h : m.step.1.root.failure = some fault) :
    m.root.failure = some fault := by
  obtain ⟨f, hf, ⟨-, hwaits⟩ | ⟨-, -, hstepped⟩⟩ := step_stack m.step.1.frames_head
  · obtain rfl : m.root = f := Option.some.inj (m.frames_head.symm.trans hf)
    have hkept : m.step.1.root.failure = m.root.failure := by
      generalize m.step.1.root = g at hwaits
      cases hwaits <;> rfl
    exact hkept.symm.trans h
  · rw [hstepped, m.current.step_failure] at h
    cases h

/-- **Only an answer brings the end of the script** to the outermost frame as a fault: the faults
that a machine itself finds in an answer are others. -/
theorem resume_root_failure {reply : Except Fault Reply}
    (h : (m.resume reply).1.root.failure = some .endOfScript) :
    m.root.failure = some .endOfScript ∨ reply = .error .endOfScript := by
  cases hopen : m.current.awaiting with
  | none =>
    rw [resume_refused reply hopen] at h
    exact .inl h
  | some r =>
    cases reply with
    | error fault =>
      rw [resume_error hopen] at h
      -- the fault that is held is the one of the answer
      refine root_failure_replaced (fun hfault => .inr ?_) h
      obtain rfl := Option.some.inj hfault
      rfl
    | ok reply =>
      rw [resume_ok hopen] at h
      rcases deliver_cases { m with current := { m.current with awaiting := none } } r reply with
        ⟨v, heq⟩ | ⟨fault, hend, heq⟩ | ⟨n, -, -, heq⟩
      · rw [heq] at h
        refine root_failure_replaced ?_ h
        exact .inl
      · rw [heq] at h
        exact root_failure_replaced (fun hfault => absurd (Option.some.inj hfault) hend) h
      · rw [heq, root_onto] at h
        refine root_failure_replaced ?_ h
        exact .inl

/-- **As long as no answer is the end of the script**, the outermost frame does not hold it. The
induction is on the operations. -/
theorem root_failure_ne_end {ops : List Operation} (h : m.root.failure ≠ some .endOfScript)
    (hops : ∀ op ∈ ops, op ≠ .resume (.error .endOfScript)) :
    (ops.foldl perform m).root.failure ≠ some .endOfScript := by
  induction ops generalizing m with
  | nil => exact h
  | cons op ops ih =>
    refine ih ?_ fun op' hop' => hops op' (List.mem_cons_of_mem op hop')
    cases op with
    | step => exact fun hfailure => h (step_root_failure hfailure)
    | run n =>
      -- a run is made of steps, none of which brings a fault
      exact run_induct (P := fun m => m.root.failure ≠ some .endOfScript)
        (fun _ hm hfailure => hm (step_root_failure hfailure)) h n
    | resume reply =>
      intro hfailure
      rcases resume_root_failure hfailure with hbefore | rfl
      · exact h hbefore
      · exact hops _ List.mem_cons_self rfl
    | setLocal name value =>
      show (m.setLocal name value).root.failure ≠ some .endOfScript
      rw [setLocal_root]
      exact h

/-! ### The end of the script -/

/-- A frame that is finished has executed the whole script: of the three places at which a walk may
stand, only its end belongs to a finished frame. -/
theorem Travels.carriedOut (h : m.Travels script past) (hfinished : m.root.finished = true) :
    script.CarriedOut past := by
  have hwalked := h.walked
  rw [← h.runs]
  generalize hps : past.map Prod.fst = ps at hwalked
  cases hwalked with
  | before unfinished phase walk => exact absurd (unfinished.symm.trans hfinished) nofun
  | behind unfinished phase walk found executed through =>
    exact absurd (unfinished.symm.trans hfinished) nofun
  | ended finished walk =>
    subst hps
    refine ⟨walk, walk.outermost_eq, ?_⟩
    rw [h.runs]
    exact h.found

/-- **The end of a script is final**, whatever is done with a machine that begins with a fresh
frame, and whatever it is answered. When a step ends with the end of the script, the outermost frame
is finished, unless it holds the end of the script as a fault, and this it does only if its host has
answered a request with it. If it is finished, it has carried out its script. From then on every
step ends with the end of the script and changes nothing; whatever is done, there is one frame, and
nothing of it changes but the variables that are set from outside. -/
theorem endOfScript_final {f : Frame} (hf : f.Fresh) (ops : List Operation)
    (hend : (ops.foldl perform (start f)).step.2 = .error .endOfScript) :
    let m := ops.foldl perform (start f)
    (m.step.1.root.finished = true ↔ m.root.failure ≠ some .endOfScript) ∧
    ((∀ op ∈ ops, op ≠ .resume (.error .endOfScript)) → m.root.failure ≠ some .endOfScript) ∧
    (m.root.failure ≠ some .endOfScript →
      f.script.CarriedOut ((start f).executed (ops ++ [.step])) ∧
      ∀ later : List Operation,
        let m' := later.foldl perform m.step.1
        m'.step = (m', .error .endOfScript) ∧ m.step.1.SameButLocals m' ∧
        ((∀ op ∈ later, ∀ name value, op ≠ .setLocal name value) → m' = m.step.1)) := by
  intro m
  -- only the outermost frame can end a step with the end of the script
  obtain ⟨hnil, hcurrent, hstep⟩ := step_end hend
  have hsound := ((Travels.start hf).operations ops).sound
  have hroot : m.root = m.current := root_of_callers hnil
  have hroot' : m.step.1.root = m.current.step.1 := by
    rw [hstep]
    exact root_replaced_alone hnil _
  rw [hroot, hroot']
  rw [show (ops.foldl perform (start f)).root = m.current from hroot] at hsound
  refine ⟨?_, fun hops => ?_, ?_⟩
  · -- a brought end leaves the frame unfinished; without one the frame has found its own end
    constructor
    · intro hfinished hfailure
      exact absurd ((hsound.step_brought_end hfailure).symm.trans hfinished) nofun
    · intro hfailure
      exact (hsound.step_end hcurrent hfailure).1
  · rw [← hroot]
    refine root_failure_ne_end ?_ hops
    rw [root_of_callers rfl]
    exact fun hfailure => absurd (hf.failure.symm.trans hfailure) nofun
  · intro hfailure
    obtain ⟨hfinished, hawaiting, hnone⟩ := hsound.step_end hcurrent hfailure
    have hatEnd : m.step.1.AtEnd := by
      rw [hstep]
      exact ⟨hnil, hfinished, hawaiting, hnone⟩
    constructor
    · -- the last step is counted among the operations, so what it executes is part of the walk
      have htravels := (Travels.start hf).operations (ops ++ [.step])
      rw [List.nil_append, List.foldl_append] at htravels
      exact htravels.carriedOut ((congrArg Frame.finished hroot').trans hfinished)
    · intro later
      obtain ⟨hsame, heq⟩ := hatEnd.operations later
      exact ⟨(hatEnd.of_same hsame).step_eq, hsame, heq⟩

/-- The loop of `looper` is entered once and left when it is tested again. -/
def loopedOnce : List Operation :=
  [.step, .resume (.ok (.value (.bool true))), .step, .step, .resume (.ok (.value (.bool false)))]

/-- `looper` executes its loop and the assignment in it, and then stays at its end, also if it is
answered once more. -/
theorem loopedOnce_final :
    looper.Fresh ∧
    let m := loopedOnce.foldl perform (start looper)
    m.step.2 = .error .endOfScript ∧ m.step.1.root.finished = true ∧
      looper.script.CarriedOut ((start looper).executed (loopedOnce ++ [.step])) ∧
      ((start looper).executed (loopedOnce ++ [.step])).map Prod.fst = [[0], [0, 0]] ∧
      [Operation.step, .resume (.error (.propNotFound "go")), .run 7].foldl perform m.step.1
        = m.step.1 := by
  have hfresh : looper.Fresh := ⟨⟨rfl, rfl, rfl⟩, rfl, rfl, rfl⟩
  obtain ⟨hfinished, hbrought, hthrough⟩ := endOfScript_final hfresh loopedOnce rfl
  have hfailure := hbrought (by simp [loopedOnce])
  obtain ⟨hcarriedOut, hlater⟩ := hthrough hfailure
  obtain ⟨-, -, heq⟩ := hlater [.step, .resume (.error (.propNotFound "go")), .run 7]
  refine ⟨hfresh, rfl, hfinished.2 hfailure, hcarriedOut, rfl, heq ?_⟩
  intro op hop name value hset
  subst hset
  simp at hop

/-- A script that reads a property. -/
def reader : Frame :=
  { owner := ⟨1⟩
    script := [.assign .set ⟨.var, "x", none⟩ [.reference ⟨.prop, "q", none⟩]] }

/-- If the request for the property is answered with the end of the script, the next step ends with
it. But the script of `reader` has not been executed, and the step after that asks again. -/
theorem reader_end_brought :
    reader.Fresh ∧
    let m := [Operation.step, .resume (.error .endOfScript)].foldl perform (start reader)
    m.step.2 = .error .endOfScript ∧ m.step.1.root.finished = false ∧
      m.step.1.step.2 = .ok (.suspended (.getProp ⟨1⟩ "q")) :=
  ⟨⟨⟨rfl, rfl, rfl⟩, rfl, rfl, rfl⟩, rfl, rfl, rfl⟩

end Machine

end VerbScript
