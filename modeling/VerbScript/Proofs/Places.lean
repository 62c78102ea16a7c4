import VerbScript.Proofs.Protocol
import VerbScript.Proofs.Pursuit

/-!
# Frames stand on statements

A frame keeps its place in a script as a path, which it lengthens to enter a block, and shortens and
increments to leave one. This module shows that the path always addresses a statement, and says
where a step may move it.

* `Script.Addresses script path` — the path leads to a statement through blocks that contain it.
* `Script.Leads s script log p next` — the rules by which a frame that is through with the statement
  at `p` finds the next one. `Script.leads_of_replay` shows that the search keeps to them.
* `Frame.MovesTo f g` — the two ways of moving: into the block of the statement just tested, or
  along the rules of `Script.Leads`.
* `Machine.Reached` — the machines that operations lead to from a fresh frame. Answers may bring
  such a machine, also one that has been at work already and has called others, or a part of its
  stack.

`Machine.Reached.placed` carries the invariant over all operations, and
`Machine.Reached.path_valid` collects what follows from it.
-/

namespace VerbScript

/-! ### Paths -/

namespace Script

variable {script : Script}

/-- The path leads to a statement, and each statement on the way holds the block in which the next
one is found. -/
structure Addresses (script : Script) (path : Path) : Prop where
  nonempty : path ≠ []
  found : (script.find? path).isSome
  through : ∀ p j rest, p ≠ [] → path = p ++ j :: rest →
    ∃ statement block inner, script.find? p = some statement ∧ statement.block? = some block ∧
      block[j]? = some inner ∧ script.find? (p ++ [j]) = some inner

/-- The block at the end of a path that goes on behind a statement is the block of the statement. At
the beginning of a path it is the script instead, which is why the path may not be empty. -/
theorem enclosing?_behind {p : Path} (hp : p ≠ []) (i : Nat) :
    script.enclosing? (p ++ [i]) = (script.find? p).bind Statement.block? := by
  rcases List.eq_nil_or_concat p with rfl | ⟨q, k, rfl⟩
  · exact absurd rfl hp
  · rw [List.concat_eq_append]
    exact enclosing?_concat_concat script q k i

/-- A statement that is found behind another one stands in a block of it. Only an `if` and a `while`
have one. -/
theorem exists_parent {p : Path} {i : Nat} {inner : Statement} (hp : p ≠ [])
    (h : script.find? (p ++ [i]) = some inner) :
    ∃ statement block, script.find? p = some statement ∧ statement.block? = some block ∧
      block[i]? = some inner := by
  rw [find?_concat, enclosing?_behind hp] at h
  obtain ⟨block, hblock, hinner⟩ := Option.bind_eq_some_iff.1 h
  obtain ⟨statement, hfind, hstatement⟩ := Option.bind_eq_some_iff.1 hblock
  exact ⟨statement, block, hfind, hstatement, hinner⟩

/-- The same for every place on the way to a statement, however far the path goes on from there. -/
theorem exists_through {p rest : Path} {j : Nat} (hp : p ≠ [])
    (h : (script.find? (p ++ j :: rest)).isSome) :
    ∃ statement block inner, script.find? p = some statement ∧ statement.block? = some block ∧
      block[j]? = some inner ∧ script.find? (p ++ [j]) = some inner := by
  -- the innermost statement is known; each step of the induction goes one block further out
  have hinner : ∃ inner, script.find? (p ++ [j]) = some inner := by
    induction rest generalizing p j with
    | nil => exact Option.isSome_iff_exists.1 h
    | cons k rest ih =>
      have hsplit : p ++ j :: k :: rest = (p ++ [j]) ++ k :: rest := by simp
      rw [hsplit] at h
      obtain ⟨inner, hfind⟩ := ih (by simp) h
      obtain ⟨statement, block, hstatement, -, -⟩ := exists_parent (by simp) hfind
      exact ⟨statement, hstatement⟩
  obtain ⟨inner, hfind⟩ := hinner
  obtain ⟨statement, block, hstatement, hblock, hget⟩ := exists_parent hp hfind
  exact ⟨statement, block, inner, hstatement, hblock, hget, hfind⟩

/-- A path that finds a statement addresses it: the statements on the way come with the lookup. It
cannot be empty, as every path names a place. -/
theorem addresses_of_find? {path : Path} (h : (script.find? path).isSome) :
    script.Addresses path := by
  refine ⟨?_, h, ?_⟩
  · -- the empty path finds nothing
    rintro rfl
    simp [find?] at h
  · rintro p j rest hp rfl
    exact exists_through hp h

/-- Every initial part of a path that addresses a statement has a block to be looked up in. -/
theorem enclosing?_isSome_of_isPrefix {path p : Path} (h : (script.find? path).isSome)
    (hp : p <+: path) : (script.enclosing? p).isSome := by
  obtain ⟨rest, rfl⟩ := hp
  rcases List.eq_nil_or_concat p with rfl | ⟨q, i, rfl⟩
  · rfl
  · rw [List.concat_eq_append] at h ⊢
    -- the block of a path of one place is the script; behind that, it is the block of a statement
    -- that is known to be there
    by_cases hq : q = []
    · subst hq
      rfl
    · rw [List.append_assoc, List.singleton_append] at h
      obtain ⟨statement, block, -, hfind, hblock, -, -⟩ := exists_through hq h
      rw [enclosing?_behind hq, hfind, Option.bind_some, hblock]
      rfl

/-- A block that is not empty can be entered: there is a statement at its beginning. -/
theorem find?_enter {path : Path} {statement : Statement} {block : List Statement}
    (h : script.find? path = some statement) (hblock : statement.block? = some block)
    (hne : block ≠ []) : (script.find? (path ++ [0])).isSome := by
  have hpath : path ≠ [] := by
    rintro rfl
    simp [find?] at h
  rw [find?_concat, enclosing?_behind hpath, h, Option.bind_some, hblock, Option.bind_some]
  cases block with
  | nil => exact absurd rfl hne
  | cons first rest => rfl

/-! ### The next statement -/

/-- **The rules for leaving a statement.** A frame that sees `s`, has the answers `log` and is
through with the statement at a path goes to the next place of the block. Behind the last place the
block is finished, and it goes on behind the statement that holds the block; but a `while` whose
condition still holds is entered again. -/
inductive Leads (s : Scope) (script : Script) : List Value → Path → Option Path → Prop where
  | sibling {log : List Value} {p : Path} {i : Nat} {block : List Statement}
      (within : script.enclosing? (p ++ [i]) = some block) (more : i + 1 < block.length) :
      Leads s script log (p ++ [i]) (some (p ++ [i + 1]))
  | ends {log : List Value} {i : Nat} (last : i + 1 = script.length) : Leads s script log [i] none
  | leaveIf {log : List Value} {p : Path} {i : Nat} {condition : Expr} {block : List Statement}
      {next : Option Path} (holder : script.find? p = some (.ifThen condition block))
      (last : i + 1 = block.length) (outer : Leads s script log p next) :
      Leads s script log (p ++ [i]) next
  | leaveWhile {log₁ log₂ : List Value} {p : Path} {i : Nat} {condition : Expr}
      {block : List Statement} {v : Value} {next : Option Path}
      (holder : script.find? p = some (.whileLoop condition block)) (last : i + 1 = block.length)
      (tested : (condition.plan s).Leaves log₁ (.done v)) (fails : v.truthy = false)
      (outer : Leads s script log₂ p next) : Leads s script (log₁ ++ log₂) (p ++ [i]) next
  | again {log₁ log₂ : List Value} {p : Path} {i : Nat} {condition : Expr}
      {block : List Statement} {v : Value}
      (holder : script.find? p = some (.whileLoop condition block)) (last : i + 1 = block.length)
      (tested : (condition.plan s).Leaves log₁ (.done v)) (holds : v.truthy = true) :
      Leads s script (log₁ ++ log₂) (p ++ [i]) (some (p ++ [0]))

/-- The rules lead to statements only. The induction is on the rules; a block that is entered again
has a last statement, so it has a first one too. -/
theorem Leads.found {s : Scope} {log : List Value} {p q : Path}
    (h : script.Leads s log p (some q)) : (script.find? q).isSome := by
  generalize hnext : some q = next at h
  induction h with
  | @sibling log p i block within more =>
    cases hnext
    have hget : block[i + 1]? = some (block.get ⟨i + 1, more⟩) := List.getElem?_eq_getElem more
    rw [find?_concat, enclosing?_concat script p (i + 1) i, within, Option.bind_some, hget]
    rfl
  | ends last => cases hnext
  | leaveIf holder last outer ih => exact ih hnext
  | leaveWhile holder last tested fails outer ih => exact ih hnext
  | again holder last tested holds =>
    cases hnext
    refine find?_enter holder rfl ?_
    rintro rfl
    -- the block would be empty, though it has a last statement
    cases last

/-- **The search keeps to the rules.** The induction is on the statements that hold the one that is
left, from the innermost one outwards; a loop among them tests its condition before it is left. -/
theorem leads_of_replay {s : Scope} {parents : List Nat} {i : Nat} {log : List Value}
    {next : Option Path} (hfound : (script.find? (parents.reverse ++ [i])).isSome)
    (h : (successorPlan s script (i :: parents)).replay log = .done next) :
    script.Leads s log (parents.reverse ++ [i]) next := by
  induction parents generalizing i log with
  | nil =>
    -- at the top the block is the script itself
    obtain ⟨statement, hget⟩ := Option.isSome_iff_exists.1 hfound
    have hlt : i < script.length := (List.getElem?_eq_some_iff.1 hget).1
    simp only [successorPlan, List.reverse_cons, List.reverse_nil, List.nil_append, enclosing?,
      Option.map_some, Option.getD_some, List.isEmpty_nil, if_true] at h
    by_cases hmore : i + 1 < script.length
    · rw [if_pos hmore] at h
      cases h
      have hwithin : script.enclosing? ([] ++ [i]) = some script := rfl
      exact .sibling hwithin hmore
    · rw [if_neg hmore] at h
      cases h
      exact .ends (by omega)
  | cons j parents ih =>
    have hreverse : (j :: parents).reverse = parents.reverse ++ [j] := List.reverse_cons
    rw [hreverse] at hfound ⊢
    have hp : parents.reverse ++ [j] ≠ [] := by simp
    -- the block is that of the statement at `j`, in which the place `i` has been left
    obtain ⟨inner, hinner⟩ := Option.isSome_iff_exists.1 hfound
    obtain ⟨statement, block, hfind, hblock, hget⟩ := exists_parent hp hinner
    have hlt : i < block.length := (List.getElem?_eq_some_iff.1 hget).1
    have hwithin : script.enclosing? (parents.reverse ++ [j] ++ [i]) = some block := by
      rw [enclosing?_behind hp, hfind, Option.bind_some, hblock]
    have houter : (script.find? (parents.reverse ++ [j])).isSome := by rw [hfind]; rfl
    rw [successorPlan] at h
    simp only [List.reverse_cons, hwithin, Option.map_some, Option.getD_some,
      List.isEmpty_cons, Bool.false_eq_true, if_false, hfind] at h
    by_cases hmore : i + 1 < block.length
    · rw [if_pos hmore] at h
      cases h
      exact .sibling hwithin hmore
    · -- the block is finished, and the statement that holds it decides how to go on
      have hlast : i + 1 = block.length := by omega
      rw [if_neg hmore] at h
      cases statement with
      -- a statement without a block holds none to be left
      | assign op target source => cases hblock
      | call c => cases hblock
      | ifThen condition body =>
        cases hblock
        exact .leaveIf hfind hlast (ih houter h)
      | whileLoop condition body =>
        cases hblock
        -- the condition takes the first answers, and the search further out has the others
        obtain ⟨log₁, log₂, v, rfl, htested, hrest⟩ := Plan.exists_leaves_of_bind_done h
        cases hv : v.truthy with
        | true =>
          rw [hv] at hrest
          cases hrest
          exact .again hfind hlast htested hv
        | false =>
          rw [hv] at hrest
          exact .leaveWhile hfind hlast htested hv (ih houter hrest)

end Script

/-! ### Frames -/

/-- A statement whose effect is to enter its block has just found its condition to hold, and has a
block to enter. -/
theorem Statement.of_descend {s : Scope} {statement : Statement} {log : List Value}
    (h : (statement.plan s).replay log = .done .descend) :
    ∃ condition block v, (statement = .ifThen condition block ∨
        statement = .whileLoop condition block) ∧ block ≠ [] ∧
      (condition.plan s).replay log = .done v ∧ v.truthy = true := by
  -- both statements with a block test their condition in the same way
  have hcondition : ∀ condition block,
      (conditionPlan s condition block).replay log = .done .descend →
        ∃ v, block ≠ [] ∧ (condition.plan s).replay log = .done v ∧ v.truthy = true := by
    intro condition block h
    obtain ⟨log₁, log₂, v, rfl, htested, hrest⟩ := Plan.exists_leaves_of_bind_done h
    refine ⟨v, ?_, htested.replay_append log₂, ?_⟩
    · -- an empty block is skipped, whatever the condition
      rintro rfl
      simp [Plan.replay] at hrest
    · cases hv : v.truthy with
      | true => rfl
      | false => simp [hv, Plan.replay] at hrest
  cases statement with
  | ifThen condition block =>
    obtain ⟨v, hne, htested, hv⟩ := hcondition condition block h
    exact ⟨condition, block, v, .inl rfl, hne, htested, hv⟩
  | whileLoop condition block =>
    obtain ⟨v, hne, htested, hv⟩ := hcondition condition block h
    exact ⟨condition, block, v, .inr rfl, hne, htested, hv⟩
  | call c =>
    -- a call goes on with the next statement
    obtain ⟨log₁, log₂, v, -, -, hrest⟩ := Plan.exists_leaves_of_bind_done h
    cases hrest
  | assign op target source =>
    -- the last thing an assignment does is a write
    change (assignPlan s op target source).replay log = _ at h
    rw [assignPlan_eq] at h
    obtain ⟨-, log', value, -, -, h⟩ := Plan.exists_leaves_of_bind_done h
    obtain ⟨-, log'', result, -, -, h⟩ := Plan.exists_leaves_of_bind_done h
    obtain ⟨sigil, name, index⟩ := target
    cases sigil with
    | var => cases h
    | prop =>
      obtain ⟨-, log''', v, -, -, h⟩ := Plan.exists_leaves_of_bind_done h
      cases h

namespace Frame

variable {f g : Frame}

/-- The path of the frame addresses a statement; only in an empty script there is none. A frame at
its end keeps the path of the last statement that it has executed. -/
def Placed (f : Frame) : Prop :=
  (f.script = [] ∧ f.path = [0]) ∨ (f.script.find? f.path).isSome

/-- Only the script and the path count for the place of a frame. Its phase, its variables and its
log may be any. -/
theorem Placed.of_eq (h : f.Placed) (hscript : g.script = f.script) (hpath : g.path = f.path) :
    g.Placed := by
  unfold Placed
  rw [hscript, hpath]
  exact h

/-- A frame at its beginning stands on the first statement, if there is one. If there is none, the
path leads nowhere, and this is allowed of an empty script only. -/
theorem Fresh.placed (h : f.Fresh) : f.Placed := by
  unfold Placed
  rw [h.path]
  cases f.script with
  | nil => exact .inl ⟨rfl, rfl⟩
  | cons first rest => exact .inr rfl

/-- **How a step moves a frame**: into the block of its statement, or on to the statement to which
the search has led. A frame that is at its end is not moved. -/
inductive MovesTo (f g : Frame) : Prop where
  /-- Into the block of its statement, whose condition has just been found to hold. -/
  | enters {condition : Expr} {block : List Statement} {v : Value}
      (found : f.script.find? f.path = some (.ifThen condition block) ∨
        f.script.find? f.path = some (.whileLoop condition block))
      (nonempty : block ≠ [])
      (tested : (condition.plan f.scope).replay f.replies = .done v) (holds : v.truthy = true)
      (path : g.path = f.path ++ [0])
  /-- To the next statement, with the variables as the statement leaves them. The answers are those
  the statement itself has not used. -/
  | leaves {log : List Value} (answers : log <:+ f.replies)
      (leads : f.script.Leads g.scope log f.path (some g.path))

/-- Where a frame is moved, there is a statement. It is the first one of a block that is entered, or
the one that a statement that is through leads to. -/
theorem MovesTo.found (h : f.MovesTo g) : (f.script.find? g.path).isSome := by
  cases h with
  | enters found nonempty tested holds path =>
    rw [path]
    rcases found with found | found
    · exact Script.find?_enter found rfl nonempty
    · exact Script.find?_enter found rfl nonempty
  | leaves answers leads => exact leads.found

/-- The search of a frame on a statement for the next one. -/
theorem leads_of_found (hfound : (f.script.find? f.path).isSome) {next : Option Path}
    (h : (successorPlan f.scope f.script f.path.reverse).replay f.replies = .done next) :
    f.script.Leads f.scope f.replies f.path next := by
  rcases List.eq_nil_or_concat f.path with hnil | ⟨p, i, hpath⟩
  · exact absurd hnil (Script.addresses_of_find? hfound).nonempty
  · -- the search has the path from its end, so the path is split there
    rw [List.concat_eq_append] at hpath
    rw [hpath, List.reverse_append, List.reverse_singleton, List.singleton_append] at h
    rw [hpath] at hfound ⊢
    have hp : p = p.reverse.reverse := (List.reverse_reverse p).symm
    rw [hp] at hfound ⊢
    exact Script.leads_of_replay hfound h

/-- The search of a placed frame for its next statement. An empty script has none, so its path is
never used. -/
theorem leads_of_search (hf : f.Placed) {next : Path}
    (h : (successorPlan f.scope f.script f.path.reverse).replay f.replies = .done (some next)) :
    f.script.Leads f.scope f.replies f.path (some next) := by
  rcases hf with ⟨hscript, hpath⟩ | hfound
  · rw [hscript, hpath] at h
    cases h
  · exact leads_of_found hfound h

/-- Work on a statement leaves the frame where it is, unless it goes on; then it has moved the frame
by one of the two ways. -/
theorem Working.moves {x : Frame × Except Fault Step} (hf : f.Placed) (h : f.Working x) :
    x.1.script = f.script ∧
      ((x.1.path = f.path ∧ x.2 ≠ .ok .continued) ∨ (f.MovesTo x.1 ∧ x.2 = .ok .continued)) := by
  cases h with
  | suspended g r place => exact ⟨place.script, .inl ⟨place.path, nofun⟩⟩
  | aborted g fault place => exact ⟨place.script, .inl ⟨place.path, nofun⟩⟩
  | entered statement found effect =>
    obtain ⟨condition, block, v, hstatement, hne, htested, hv⟩ := Statement.of_descend effect
    refine ⟨rfl, .inr ⟨.enters ?_ hne htested hv rfl, rfl⟩⟩
    rcases hstatement with rfl | rfl
    · exact .inl found
    · exact .inr found
  | arrived g next place search =>
    cases next with
    | none => exact ⟨place.script, .inl ⟨place.path, nofun⟩⟩
    | some path =>
      -- the place of the search is that of the frame, also after an assignment has been made
      have hleads := leads_of_search (hf.of_eq place.script place.path) search
      rw [place.script, place.path] at hleads
      exact ⟨place.script, .inr ⟨.leaves place.replies hleads, rfl⟩⟩

/-- **A step of a placed frame** either leaves it where it is or moves it. A step that goes on has
moved it, and no other step has. -/
theorem Placed.step (hf : f.Placed) :
    f.step.1.script = f.script ∧
      ((f.step.1.path = f.path ∧ f.step.2 ≠ .ok .continued) ∨
        (f.MovesTo f.step.1 ∧ f.step.2 = .ok .continued)) := by
  rcases f.step_cases with ⟨fault, -, heq⟩ | ⟨r, -, -, heq⟩ | ⟨-, -, heq⟩ | hready
  · rw [heq]
    exact ⟨rfl, .inl ⟨rfl, nofun⟩⟩
  · rw [heq]
    exact ⟨rfl, .inl ⟨rfl, nofun⟩⟩
  · rw [heq]
    exact ⟨rfl, .inl ⟨rfl, nofun⟩⟩
  · exact hready.working.moves hf

/-- So a step leaves a placed frame placed. -/
theorem Placed.step_placed (hf : f.Placed) : f.step.1.Placed := by
  obtain ⟨hscript, ⟨hpath, -⟩ | ⟨hmoves, -⟩⟩ := hf.step
  · exact hf.of_eq hscript hpath
  · refine .inr ?_
    rw [hscript]
    exact hmoves.found

/-- A placed frame finds no statement exactly if its script is empty. So a step that finds nothing
to execute is at the end of such a script. -/
theorem Placed.find?_eq_none_iff (hf : f.Placed) :
    f.script.find? f.path = none ↔ f.script = [] := by
  constructor
  · intro hnone
    rcases hf with ⟨hscript, -⟩ | hfound
    · exact hscript
    · rw [hnone] at hfound
      cases hfound
  · intro hscript
    rcases hf with ⟨-, hpath⟩ | hfound
    · rw [hscript, hpath]
      rfl
    · -- no path leads anywhere in an empty script
      rw [hscript] at hfound ⊢
      cases hpath : f.path with
      | nil => rfl
      | cons i rest => cases rest <;> rfl

/-- What can become of a frame while another one steps: nothing, or it gets the result of the frame
it has called, or its evaluation is given up. -/
inductive Waits (f : Frame) : Frame → Prop where
  | still : Waits f f
  | answered (v : Value) : Waits f (f.logReply v)
  | givenUp : Waits f f.reset

/-- A frame that waits keeps its script. -/
theorem Waits.script (h : f.Waits g) : g.script = f.script := by
  cases h <;> rfl

/-- A frame that waits keeps its path. -/
theorem Waits.path (h : f.Waits g) : g.path = f.path := by
  cases h <;> rfl

end Frame

/-! ### Machines -/

/-- The machine after one more operation. What the operation reports is dropped, since a host may go
on whatever it is told. -/
def Machine.perform (m : Machine) : Operation → Machine
  | .step => m.step.1
  | .run n => (m.run n).1
  | .resume reply => (m.resume reply).1
  | .setLocal name value => m.setLocal name value

namespace Machine

/-- The machines that operations lead to. A machine that an answer brings is one of them, at
whatever point of its work, or a part of the stack of one: some frame of it and frames that this has
called. -/
inductive Reached : Machine → Prop where
  | start {f : Frame} (fresh : f.Fresh) : Reached (start f)
  | perform {m : Machine} (before : Reached m) (op : Operation)
      (plain : ∀ n, op ≠ .resume (.ok (.frame n))) : Reached (m.perform op)
  | call {m n callee : Machine} (before : Reached m) (source : Reached n)
      (brought : callee.frames <:+: n.frames) : Reached (m.perform (.resume (.ok (.frame callee))))

variable {m : Machine}

/-- A frame of a list with one at its end is in the list or is the last one. The executing frame is
the last one of its stack. -/
theorem getElem?_concat_cases {xs : List Frame} {last g : Frame} {k : Nat}
    (h : (xs ++ [last])[k]? = some g) :
    xs[k]? = some g ∨ (k = xs.length ∧ g = last) := by
  rw [List.getElem?_append] at h
  split at h
  · exact .inl h
  · obtain ⟨hk, hg⟩ := List.getElem?_eq_some_iff.1 h
    rw [List.length_singleton] at hk
    refine .inr ⟨by omega, ?_⟩
    rw [← hg]
    simp

/-- **The frames after a step**, counted from the outermost one: the frame that has made the step,
and what has become of the others. -/
theorem step_stack {k : Nat} {g : Frame} (h : m.step.1.frames[k]? = some g) :
    ∃ f, m.frames[k]? = some f ∧
      ((k + 1 < m.frameCount ∧ f.Waits g) ∨
        (k + 1 = m.frameCount ∧ f = m.current ∧ g = m.current.step.1)) := by
  -- the executing frame is as far up as it has callers, and the frames below it are the callers
  have hcurrent : m.frames[m.callers.length]? = some m.current := by
    rw [frames_eq]
    simp
  have hbelow : ∀ {f : Frame}, m.callers.reverse[k]? = some f →
      m.frames[k]? = some f ∧ k + 1 < m.frameCount := by
    intro f hf
    have hk := (List.getElem?_eq_some_iff.1 hf).1
    rw [frames_eq, List.getElem?_append_left hk]
    rw [List.length_reverse] at hk
    exact ⟨hf, Nat.succ_lt_succ hk⟩
  -- a frame alone on the new stack that is the old current one after its step
  have hreplaced : ∀ {x : Frame}, x = m.current.step.1 →
      ({ m with current := x } : Machine).frames[k]? = some g →
      ∃ f, m.frames[k]? = some f ∧ ((k + 1 < m.frameCount ∧ f.Waits g) ∨
        (k + 1 = m.frameCount ∧ f = m.current ∧ g = m.current.step.1)) := by
    intro x hx hget
    rw [frames_eq] at hget
    rcases getElem?_concat_cases hget with hget | ⟨hk, rfl⟩
    · exact ⟨g, (hbelow hget).1, .inl ⟨(hbelow hget).2, .still⟩⟩
    · rw [List.length_reverse] at hk
      subst hk
      exact ⟨m.current, hcurrent, .inr ⟨rfl, rfl, hx⟩⟩
  rcases m.step_cases with ⟨x, progress, hx, hm⟩ | ⟨x, caller, callers, hx, hcallers, hm⟩ |
    ⟨x, fault, hx, -, hm⟩
  · rw [hm] at h
    exact hreplaced (by rw [hx]) h
  · -- the executing frame has returned, and its caller is on top now
    rw [hm, frames_eq] at h
    have hstack : m.callers.reverse = callers.reverse ++ [caller] := by
      rw [hcallers, List.reverse_cons]
    rcases getElem?_concat_cases h with hget | ⟨hk, rfl⟩
    · have hget' : m.callers.reverse[k]? = some g := by
        rw [hstack, List.getElem?_append_left (List.getElem?_eq_some_iff.1 hget).1]
        exact hget
      exact ⟨g, (hbelow hget').1, .inl ⟨(hbelow hget').2, .still⟩⟩
    · have hget' : m.callers.reverse[k]? = some caller := by
        rw [hstack, hk]
        simp
      exact ⟨caller, (hbelow hget').1, .inl ⟨(hbelow hget').2, .answered _⟩⟩
  · rw [hm] at h
    rcases unwind_cases { m with current := x } with ⟨-, heq⟩ | ⟨upper, root, hcallers, heq⟩
    · rw [heq] at h
      exact hreplaced (by rw [hx]) h
    · -- only the outermost frame is left
      rw [heq] at h
      rcases getElem?_concat_cases (show ([] ++ [_])[k]? = some g from h) with hget | ⟨hk, rfl⟩
      · cases hget
      · have hget' : m.callers.reverse[k]? = some root := by
          rw [hk, show m.callers = upper ++ [root] from hcallers]
          simp
        exact ⟨root, (hbelow hget').1, .inl ⟨(hbelow hget').2, .givenUp⟩⟩

/-- Each frame stands where it stood before a step, except for the frame that has made it. Frames
may be gone after the step, but none is new. -/
theorem step_frames {k : Nat} {g : Frame} (h : m.step.1.frames[k]? = some g) :
    ∃ f, m.frames[k]? = some f ∧
      ((g.script = f.script ∧ g.path = f.path) ∨
        (k + 1 = m.frameCount ∧ f = m.current ∧ g = m.current.step.1)) := by
  obtain ⟨f, hf, ⟨-, hwaits⟩ | hstepped⟩ := step_stack h
  · exact ⟨f, hf, .inl ⟨hwaits.script, hwaits.path⟩⟩
  · exact ⟨f, hf, .inr hstepped⟩

/-- The frames after an answer stand where they stood before, or are brought by it. -/
theorem resume_frames {reply : Except Fault Reply} {g : Frame}
    (h : g ∈ (m.resume reply).1.frames) :
    (∃ f ∈ m.frames, g.script = f.script ∧ g.path = f.path) ∨
      ∃ n, reply = .ok (.frame n) ∧ ∃ f ∈ n.frames, g.script = f.script ∧ g.path = f.path := by
  -- the stack with the executing frame replaced by one at the same place
  have hreplaced : ∀ x : Frame, x.script = m.current.script → x.path = m.current.path →
      g ∈ ({ m with current := x } : Machine).frames →
        ∃ f ∈ m.frames, g.script = f.script ∧ g.path = f.path := by
    intro x hscript hpath hg
    rw [frames_eq] at hg
    rcases List.mem_append.1 hg with hg | hg
    · exact ⟨g, mem_frames_of_mem_callers (List.mem_reverse.1 hg), rfl, rfl⟩
    · rw [List.mem_singleton.1 hg]
      exact ⟨m.current, m.current_mem_frames, hscript, hpath⟩
  cases hopen : m.current.awaiting with
  | none =>
    rw [resume_refused reply hopen] at h
    exact .inl ⟨g, h, rfl, rfl⟩
  | some r =>
    cases reply with
    | error fault =>
      rw [resume_error hopen] at h
      exact .inl (hreplaced _ (by rfl) (by rfl) h)
    | ok reply =>
      rw [resume_ok hopen] at h
      rcases deliver_cases { m with current := { m.current with awaiting := none } } r reply with
        ⟨v, heq⟩ | ⟨fault, -, heq⟩ | ⟨n, hframe, -, heq⟩
      · rw [heq] at h
        exact .inl (hreplaced _ (by rfl) (by rfl) h)
      · rw [heq] at h
        exact .inl (hreplaced _ (by rfl) (by rfl) h)
      · rw [heq, frames_onto] at h
        -- the machine that is brought stands on the stack of before
        rcases List.mem_append.1 h with h | h
        · exact .inl (hreplaced { m.current with awaiting := none } rfl rfl h)
        · -- being called moves no frame of the machine that is brought
          obtain ⟨f, hf, rfl | rfl⟩ := mem_frames_mapRoot h
          · exact .inr ⟨n, by rw [hframe], g, hf, rfl, rfl⟩
          · exact .inr ⟨n, by rw [hframe], f, hf, rfl, rfl⟩

/-- Setting a variable from outside moves no frame. The outermost one gets the variable, and keeps
its path. -/
theorem setLocal_frames {name : String} {value : Value} {g : Frame}
    (h : g ∈ (m.setLocal name value).frames) :
    ∃ f ∈ m.frames, g.script = f.script ∧ g.path = f.path := by
  obtain ⟨f, hf, rfl | rfl⟩ := mem_frames_mapRoot h
  · exact ⟨g, hf, rfl, rfl⟩
  · exact ⟨f, hf, rfl, rfl⟩

/-- Every frame stands on a statement, those that wait for a called one included. -/
def Placed (m : Machine) : Prop := ∀ f ∈ m.frames, f.Placed

/-- A machine at its beginning is placed, since its only frame is. -/
theorem Fresh.placed (h : m.Fresh) : m.Placed := by
  obtain ⟨f, rfl, hf⟩ := h
  intro g hg
  rw [List.mem_singleton.1 hg]
  exact hf.placed

/-- **A step keeps the machine placed**: one frame has stepped, and the others stand where they
stood. -/
theorem Placed.step (h : m.Placed) : m.step.1.Placed := by
  intro g hg
  obtain ⟨k, hk⟩ := List.mem_iff_getElem?.1 hg
  obtain ⟨f, hf, ⟨hscript, hpath⟩ | ⟨-, -, rfl⟩⟩ := step_frames hk
  · exact (h f (List.mem_of_getElem? hf)).of_eq hscript hpath
  · exact (h m.current m.current_mem_frames).step_placed

/-- **An answer keeps the machine placed**, if the machine it may bring is. The frame that has asked
stays where it is, below that machine. -/
theorem Placed.resume (h : m.Placed) {reply : Except Fault Reply}
    (hreply : ∀ n, reply = .ok (.frame n) → n.Placed) : (m.resume reply).1.Placed := by
  intro g hg
  rcases resume_frames hg with ⟨f, hf, hscript, hpath⟩ | ⟨n, hn, f, hf, hscript, hpath⟩
  · exact (h f hf).of_eq hscript hpath
  · exact (hreply n hn f hf).of_eq hscript hpath

/-- Setting a variable from outside keeps the machine placed. -/
theorem Placed.setLocal (h : m.Placed) (name : String) (value : Value) :
    (m.setLocal name value).Placed := by
  intro g hg
  obtain ⟨f, hf, hscript, hpath⟩ := setLocal_frames hg
  exact (h f hf).of_eq hscript hpath

/-- **Every reached machine is placed.** The induction is on how it is reached; the machines that
answers bring are reached themselves, so their frames are placed. -/
theorem Reached.placed (h : m.Reached) : m.Placed := by
  induction h with
  | start fresh => exact (fresh_start fresh).placed
  | perform before op plain ih =>
    cases op with
    | step => exact ih.step
    | run n => exact run_induct (fun _ hm => hm.step) ih n
    | setLocal name value => exact ih.setLocal name value
    | resume reply =>
      refine ih.resume fun n hn => ?_
      exact absurd (by rw [hn]) (plain n)
  -- the frames that are brought are frames of a machine that has been reached
  | call before source brought ihm ihn =>
    refine ihm.resume fun n hn => ?_
    cases hn
    exact fun f hf => ihn f (brought.subset hf)

/-- **Paths are valid.** In every reached machine, each frame stands on a statement of its script,
which its path reaches through the blocks of `if`s and `while`s; only in an empty script there is
none, and then the path is the one of the first statement. So a missing statement means an empty
script, and the search for the next statement finds the block of every path it looks at. A step
moves at most the executing frame, and moves it into the block of the statement it has just tested,
or to the statement that the rules of `Script.Leads` name. -/
theorem Reached.path_valid (h : m.Reached) :
    (∀ f ∈ m.frames,
      ((f.script = [] ∧ f.path = [0]) ∨ f.script.Addresses f.path) ∧
      (f.script.find? f.path = none ↔ f.script = []) ∧
      (∀ p, p <+: f.path → (f.script.enclosing? p).isSome)) ∧
    (∀ k f g, m.frames[k]? = some f → m.step.1.frames[k]? = some g → g.path ≠ f.path →
      k + 1 = m.frameCount ∧ f.MovesTo g) ∧
    (∀ g, m.current.step = (g, .ok .continued) → m.current.MovesTo g) := by
  have hplaced := h.placed
  refine ⟨fun f hf => ?_, ?_, ?_⟩
  · have hf := hplaced f hf
    refine ⟨hf.imp_right Script.addresses_of_find?, hf.find?_eq_none_iff, fun p hp => ?_⟩
    -- in an empty script the path is that of the first statement, and its block is the script
    rcases hf with ⟨hscript, hpath⟩ | hfound
    · rw [hpath] at hp
      rcases List.prefix_cons_iff.1 hp with rfl | ⟨q, rfl, hq⟩
      · rfl
      · rw [List.prefix_nil.1 hq]
        rfl
    · exact Script.enclosing?_isSome_of_isPrefix hfound hp
  · intro k f g hf hg hmoved
    -- a frame that has another path than before is the one that has made the step
    obtain ⟨f', hf', ⟨-, hpath⟩ | ⟨hk, hcurrent, hstep⟩⟩ := step_frames hg
    · obtain rfl : f = f' := Option.some.inj (hf.symm.trans hf')
      exact absurd hpath hmoved
    · obtain rfl : f = f' := Option.some.inj (hf.symm.trans hf')
      subst hcurrent hstep
      obtain ⟨-, ⟨hpath, -⟩ | ⟨hmoves, -⟩⟩ := (hplaced _ m.current_mem_frames).step
      · exact absurd hpath hmoved
      · exact ⟨hk, hmoves⟩
  · intro g hg
    obtain ⟨-, ⟨-, hresult⟩ | ⟨hmoves, -⟩⟩ := (hplaced _ m.current_mem_frames).step
    · rw [hg] at hresult
      exact absurd rfl hresult
    · rw [hg] at hmoves
      exact hmoves

/-- An `if` in a loop that never ends. -/
def nested : Frame :=
  { owner := ⟨1⟩
    script :=
      [.whileLoop [.bool true] [.ifThen [.bool true] [.assign .set ⟨.var, "n", none⟩ [.null]]]] }

/-- Two steps lead into both blocks of `nested`, and the next one out of the inner block and again
to the beginning of the outer one. -/
theorem nested_path_valid :
    let m := ((start nested).perform .step).perform .step
    m.Reached ∧ m.current.path = [0, 0, 0] ∧ m.current.step.1.path = [0, 0] ∧
      m.current.MovesTo m.current.step.1 := by
  intro m
  have hnested : nested.Fresh := ⟨⟨rfl, rfl, rfl⟩, rfl, rfl, rfl⟩
  have hplain : ∀ n, Operation.step ≠ .resume (.ok (.frame n)) := by
    intro n hn
    cases hn
  -- both steps are operations that bring no machine
  have hreached : m.Reached := .perform (.perform (.start hnested) .step hplain) .step hplain
  have hresult : m.current.step.2 = .ok .continued := rfl
  refine ⟨hreached, rfl, rfl, ?_⟩
  exact (hreached.path_valid).2.2 _ (Prod.ext rfl hresult)

end Machine

end VerbScript
