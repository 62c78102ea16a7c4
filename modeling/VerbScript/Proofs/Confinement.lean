import Mathlib.Control.Monad.Basic
import VerbScript.Proofs.TableLaws
import VerbScript.Proofs.Ticks
import VerbScript.Proofs.WorldAnswers

/-!
# Scripts are confined to their object

A script that runs as an object writes nothing but properties of this object, whatever verbs it
calls and however it fails.

The proof has two halves that meet in `Task.tickTimes_confined`.

* `Machine.RunsAs owner m` — the invariant of machines: every frame runs as `owner`, and waits for
  nothing but an answer to a request of `owner`. A step keeps it, because plans ask on behalf of the
  owner only (`Machine.RunsAs.step`), and so does the answer of a world, because the frame of a
  called verb runs as the object the call names (`Machine.RunsAs.resume`).
* `World.SameBut allowed w w'` — `w'` differs from `w` at most in the properties that `allowed`
  names. Nothing but a write gives rise to a difference, and a write to one property only
  (`World.setProp_sameBut`, `Task.tick_store`).
-/

namespace VerbScript

variable {owner : ObjectId}

/-! ### Frames that run as an object -/

namespace Frame

/-- The frame runs as `owner`, and waits for nothing but an answer to a request of `owner`. Both are
needed: an open request is repeated by the next step, whatever the frame runs as by then. -/
structure RunsAs (owner : ObjectId) (f : Frame) : Prop where
  owned : f.owner = owner
  awaiting : ∀ r, f.awaiting = some r → r.IsOf owner

/-- A frame of `owner` that waits for nothing runs as `owner`. This is so for every frame that has
just been made or answered. -/
theorem RunsAs.of_idle {f : Frame} (howner : f.owner = owner) (hidle : f.awaiting = none) :
    f.RunsAs owner := by
  refine ⟨howner, fun r hr => ?_⟩
  rw [hidle] at hr
  cases hr

/-- A frame at its beginning runs as its own owner. -/
theorem Fresh.runsAs {f : Frame} (h : f.Fresh) : f.RunsAs f.owner := .of_idle rfl h.awaiting

/-- The result of a step of a frame that runs as `owner`. It is about the frame and what the step
reports at once, so that steps can be put together from their parts. -/
structure StepsAs (owner : ObjectId) (x : Frame × Except Fault Step) : Prop where
  runsAs : x.1.RunsAs owner
  /-- A step that asks something leaves the frame waiting for the answer. -/
  suspended : ∀ r, x.2 = .ok (.suspended r) → x.1.awaiting = some r

/-- A step that asks nothing and leaves nothing open. -/
theorem StepsAs.of_idle {x : Frame × Except Fault Step} (howner : x.1.owner = owner)
    (hidle : x.1.awaiting = none) (hquiet : ∀ r, x.2 ≠ .ok (.suspended r)) : StepsAs owner x :=
  ⟨.of_idle howner hidle, fun r hr => absurd hr (hquiet r)⟩

variable {f : Frame}

/-- A frame that gives up its statement waits for nothing. -/
theorem RunsAs.abort (h : f.RunsAs owner) (fault : Fault) : StepsAs owner (f.abort fault) :=
  .of_idle h.owned rfl fun _ => nofun

/-- A frame that asks something on behalf of `owner` waits for the answer to just that. The request
is kept in the frame, to be repeated. -/
theorem RunsAs.suspend (h : f.RunsAs owner) {r : Request} (hr : r.IsOf owner) :
    StepsAs owner (f.suspend r) := by
  refine ⟨⟨h.owned, fun r' hr' => ?_⟩, fun r' hr' => ?_⟩
  · cases hr'
    exact hr
  · cases hr'
    rfl

/-- **A replayed plan** leaves a frame running as its owner, if the plan asks on behalf of it. That
statements and searches do so is known from their schedules. -/
theorem RunsAs.conclude {α : Type} {last : α → Frame × Except Fault Step} {p : Plan α}
    {failed : Fault → Prop} (h : f.RunsAs owner) (hp : p.Every (·.IsOf owner) failed)
    (hlast : ∀ a, StepsAs owner (last a)) (log : List Value) :
    StepsAs owner (f.conclude last (p.replay log)) := by
  cases hr : p.replay log with
  | suspended r => exact h.suspend (hp.of_suspended hr)
  | failed fault => exact h.abort fault
  | done a => exact hlast a

/-- A frame that has found its next statement, or the end, has nothing to ask. -/
theorem RunsAs.arrive (h : f.RunsAs owner) (next : Option Path) :
    StepsAs owner (f.arrive next) := by
  cases next <;> exact .of_idle h.owned rfl fun _ => nofun

/-- Going on asks what the conditions of loops need, and this on behalf of the frame. No request
names another object as the one that asks. -/
theorem RunsAs.advance (h : f.RunsAs owner) : StepsAs owner f.advance := by
  -- the plan of the search asks as the owner that its scope names
  have hp := successorPlan_every f.scope f.script f.path.reverse
  rw [show f.scope.owner = owner from h.owned] at hp
  rw [advance_eq]
  exact h.conclude hp h.arrive f.replies

/-- The effect of a statement changes the place or a variable of the frame, and neither its owner
nor what it asks. -/
theorem RunsAs.affect (h : f.RunsAs owner) (effect : Effect) : StepsAs owner (f.affect effect) := by
  cases effect with
  | descend => exact .of_idle h.owned rfl fun _ => nofun
  | next => exact RunsAs.advance (.of_idle h.owned rfl)
  | write name value => exact RunsAs.advance (.of_idle h.owned rfl)

/-- **A step of a frame** leaves it running as its owner. A held request is repeated, which is one
of the owner already; a new one comes from the plan of the statement or of the search. -/
theorem RunsAs.step (h : f.RunsAs owner) : StepsAs owner f.step := by
  rcases f.step_cases with ⟨fault, -, heq⟩ | ⟨r, -, hawaiting, heq⟩ | ⟨-, hawaiting, heq⟩ | hready
  · rw [heq]
    exact .of_idle h.owned rfl fun _ => nofun
  · rw [heq]
    refine ⟨h, fun r' hr' => ?_⟩
    cases hr'
    exact hawaiting
  · rw [heq]
    exact .of_idle h.owned hawaiting fun _ => nofun
  · cases hphase : f.phase with
    | advance =>
      rw [step_advance hready hphase]
      exact h.advance
    | execute =>
      cases hfind : f.script.find? f.path with
      | none =>
        rw [step_execute_none hready hphase hfind]
        exact h.abort .endOfScript
      | some statement =>
        -- a statement asks only on behalf of the object that its scope names
        have hp := (statement.plan_scheduled f.scope).every
        rw [show f.scope.owner = owner from h.owned] at hp
        rw [step_execute hready hphase hfind]
        exact h.conclude hp h.affect f.replies

end Frame

/-! ### Machines that run as an object -/

namespace Machine

/-- Every frame runs as `owner`, those that wait for a called one included. -/
structure RunsAs (owner : ObjectId) (m : Machine) : Prop where
  current : m.current.RunsAs owner
  callers : ∀ f ∈ m.callers, f.RunsAs owner

variable {m : Machine}

/-- The owner of every frame is the one of the machine. A verb that is found on an ancestor runs as
the object that has called it. -/
theorem RunsAs.owner_eq (h : m.RunsAs owner) {f : Frame} (hf : f ∈ m.frames) : f.owner = owner := by
  rcases List.mem_cons.1 (List.mem_reverse.1 hf) with rfl | hf
  · exact h.current.owned
  · exact (h.callers f hf).owned

/-- A machine of one frame runs as that frame does. -/
theorem RunsAs.start {f : Frame} (h : f.RunsAs owner) : (start f).RunsAs owner :=
  ⟨h, fun _ hf => nomatch hf⟩

/-- The outermost frame, if the others are given up, waits for nothing. It was waiting for their
result, and not for the host. -/
theorem RunsAs.unwind (h : m.RunsAs owner) : m.unwind.RunsAs owner := by
  unfold Machine.unwind
  cases hroot : m.callers.getLast? with
  | none => exact h
  | some root => exact .start (.of_idle (h.callers root (List.mem_of_getLast? hroot)).owned rfl)

/-- **A step of a machine** leaves all its frames running as the owner, and one that asks something
leaves the machine waiting for the answer. -/
theorem RunsAs.step (h : m.RunsAs owner) :
    m.step.1.RunsAs owner ∧
      ∀ r, m.step.2 = .ok (.suspended r) → m.step.1.current.awaiting = some r := by
  obtain ⟨hframe, hsuspended⟩ := h.current.step
  rcases hstep : m.current.step with ⟨g, (fault | progress)⟩
  · rw [hstep] at hframe
    by_cases hend : fault = .endOfScript
    · subst hend
      cases hcallers : m.callers with
      | nil =>
        rw [step_of_end hstep hcallers]
        exact ⟨⟨hframe, h.callers⟩, nofun⟩
      | cons caller callers =>
        -- the caller gets a result in its log, which no part of the invariant looks at
        rw [step_of_return hstep hcallers]
        have hcaller := h.callers caller (by rw [hcallers]; exact List.mem_cons_self)
        refine ⟨⟨⟨hcaller.owned, hcaller.awaiting⟩, fun f hf => h.callers f ?_⟩, nofun⟩
        rw [hcallers]
        exact List.mem_cons_of_mem caller hf
    · rw [step_of_fault hstep hend]
      exact ⟨RunsAs.unwind ⟨hframe, h.callers⟩, nofun⟩
  · rw [hstep] at hframe hsuspended
    rw [step_of_ok hstep]
    refine ⟨⟨hframe, h.callers⟩, fun r hr => hsuspended r ?_⟩
    cases hr
    rfl

/-- A change of the outermost frame that leaves it running as `owner` leaves the machine so. Of a
machine that is brought by a reply this is the frame that gets its caller. -/
theorem RunsAs.mapRoot (h : m.RunsAs owner) {g : Frame → Frame}
    (hg : ∀ f : Frame, f.RunsAs owner → (g f).RunsAs owner) : (m.mapRoot g).RunsAs owner := by
  rcases m.mapRoot_cases g with ⟨-, heq⟩ | ⟨upper, root, hcallers, heq⟩
  · rw [heq]
    exact ⟨hg _ h.current, h.callers⟩
  · have hall := h.callers
    rw [hcallers, List.forall_mem_append, List.forall_mem_singleton] at hall
    rw [heq]
    exact ⟨h.current,
      List.forall_mem_append.2 ⟨hall.1, List.forall_mem_singleton.2 (hg root hall.2)⟩⟩

/-- **An answer** leaves all frames running as the owner, if those it may bring do. What is logged
or raised is no part of the invariant, and the request that was open is closed. -/
theorem RunsAs.resume (h : m.RunsAs owner) {reply : Except Fault Reply}
    (hreply : ∀ n, reply = .ok (.frame n) → n.RunsAs owner) : (m.resume reply).1.RunsAs owner := by
  cases hawaiting : m.current.awaiting with
  | none =>
    rw [resume_refused reply hawaiting]
    exact h
  | some r =>
    -- the frame that has asked waits for nothing any more
    have hcurrent : ({ m.current with awaiting := none } : Frame).RunsAs owner :=
      .of_idle h.current.owned rfl
    cases reply with
    | error fault =>
      rw [resume_error hawaiting]
      exact ⟨⟨hcurrent.owned, hcurrent.awaiting⟩, h.callers⟩
    | ok reply =>
      rw [resume_ok hawaiting]
      rcases deliver_cases { m with current := { m.current with awaiting := none } } r reply with
        ⟨v, heq⟩ | ⟨fault, -, heq⟩ | ⟨n, rfl, -, heq⟩
      · rw [heq]
        exact ⟨⟨hcurrent.owned, hcurrent.awaiting⟩, h.callers⟩
      · rw [heq]
        exact ⟨⟨hcurrent.owned, hcurrent.awaiting⟩, h.callers⟩
      · -- the callee comes on top, and the frame that called it waits for nothing else
        have hn := (hreply n rfl).mapRoot (g := (·.calledFrom { m.current with awaiting := none }))
          fun f hf => ⟨hf.owned, hf.awaiting⟩
        rw [heq]
        exact ⟨hn.current,
          List.forall_mem_append.2 ⟨hn.callers, List.forall_mem_cons.2 ⟨hcurrent, h.callers⟩⟩⟩

end Machine

/-! ### Worlds that differ in some properties -/

/-- `o'` differs from `o` at most in the properties with `allowed` names. Even these it may lack, or
have in addition. -/
structure Object.SameBut (allowed : String → Prop) (o o' : Object) : Prop where
  id : o'.id = o.id
  parent : o'.parent = o.parent
  created : o'.created = o.created
  verbs : o'.verbs = o.verbs
  props : ∀ name, ¬allowed name → o'.props.get? name = o.props.get? name

/-- `w'` differs from `w` at most in the properties that are `allowed` to differ, each given by its
object and its name. In particular the same objects exist in both. -/
structure World.SameBut (allowed : ObjectId → String → Prop) (w w' : World) : Prop where
  aliases : w'.aliases = w.aliases
  missing : ∀ id, w.object? id = none → w'.object? id = none
  objects : ∀ id o, w.object? id = some o →
    ∃ o', w'.object? id = some o' ∧ o.SameBut (allowed id) o'

/-- The same of stores, whose streams of new ids are equal: scripts cannot create objects, so
nothing is drawn. -/
structure Store.SameBut (allowed : ObjectId → String → Prop) (s s' : Store) : Prop where
  stream : s'.stream = s.stream
  world : s.world.SameBut allowed s'.world

section SameBut

variable {names names' : String → Prop} {allowed allowed' : ObjectId → String → Prop}

/-- An object does not differ from itself. -/
theorem Object.SameBut.refl (o : Object) : o.SameBut names o := ⟨rfl, rfl, rfl, rfl, fun _ _ => rfl⟩

/-- Differences add up only within what is allowed. This is the step in an induction over several
writes. -/
theorem Object.SameBut.trans {o₁ o₂ o₃ : Object} (h : o₁.SameBut names o₂)
    (h' : o₂.SameBut names o₃) : o₁.SameBut names o₃ where
  id := h'.id.trans h.id
  parent := h'.parent.trans h.parent
  created := h'.created.trans h.created
  verbs := h'.verbs.trans h.verbs
  props name hname := (h'.props name hname).trans (h.props name hname)

/-- More may be allowed. A single write is stated with the one name it changes, and used where any
name may change. -/
theorem Object.SameBut.mono {o o' : Object} (h : o.SameBut names o')
    (hsub : ∀ name, names name → names' name) : o.SameBut names' o' where
  id := h.id
  parent := h.parent
  created := h.created
  verbs := h.verbs
  props name hname := h.props name fun hn => hname (hsub name hn)

/-- If no property may differ, the objects are equal. Properties are a table, so it is equal if all
lookups in it are. -/
theorem Object.SameBut.eq {o o' : Object} (h : o.SameBut names o') (hnone : ∀ name, ¬names name) :
    o' = o := by
  have hprops : o'.props = o.props := Table.ext_get? fun name => h.props name (hnone name)
  cases o
  cases o'
  congr
  · exact h.id
  · exact h.parent
  · exact h.created
  · exact h.verbs

namespace World

variable {w w' : World}

/-- A world does not differ from itself. -/
theorem SameBut.refl (w : World) : w.SameBut allowed w :=
  ⟨rfl, fun _ h => h, fun _ o ho => ⟨o, ho, .refl o⟩⟩

/-- Worlds that differ in what is allowed, one after another, differ in what is allowed. No object
is lost on the way, so the objects can be followed from one world to the next. -/
theorem SameBut.trans {w₁ w₂ w₃ : World} (h : w₁.SameBut allowed w₂) (h' : w₂.SameBut allowed w₃) :
    w₁.SameBut allowed w₃ := by
  refine ⟨h'.aliases.trans h.aliases, fun id hid => h'.missing id (h.missing id hid), ?_⟩
  intro id o₁ ho₁
  obtain ⟨o₂, ho₂, hsame⟩ := h.objects id o₁ ho₁
  obtain ⟨o₃, ho₃, hsame'⟩ := h'.objects id o₂ ho₂
  exact ⟨o₃, ho₃, hsame.trans hsame'⟩

/-- More properties may be allowed to differ. -/
theorem SameBut.mono (h : w.SameBut allowed w')
    (hsub : ∀ id name, allowed id name → allowed' id name) : w.SameBut allowed' w' := by
  refine ⟨h.aliases, h.missing, fun id o ho => ?_⟩
  obtain ⟨o', ho', hsame⟩ := h.objects id o ho
  exact ⟨o', ho', hsame.mono (hsub id)⟩

/-- An object without a property that may differ is the same in both worlds. In particular it is an
object of both or of neither. -/
theorem SameBut.object?_eq (h : w.SameBut allowed w') {id : ObjectId}
    (hnone : ∀ name, ¬allowed id name) : w'.object? id = w.object? id := by
  cases ho : w.object? id with
  | none => exact h.missing id ho
  | some o =>
    obtain ⟨o', ho', hsame⟩ := h.objects id o ho
    rw [ho', hsame.eq hnone]

/-! ### What a request changes -/

/-- **A write changes at most the property it names**, and no read-only one. An object that is
missing is not made, and a read-only property is left as it is. -/
theorem setProp_sameBut (w : World) (object : ObjectId) (name : String) (value : Value) :
    w.SameBut (fun id n => id = object ∧ n = name ∧ isReadOnly n = false)
      (w.serve (.setProp object name value)).1 := by
  rw [serve_setProp]
  cases hobject : w.object? object with
  | none => exact .refl w
  | some o =>
    refine ⟨rfl, fun id hid => ?_, fun id o₁ ho₁ => ?_⟩
    · -- the object that is written to exists, so no object comes to exist
      have hne : id ≠ object := by
        rintro rfl
        rw [hid] at hobject
        cases hobject
      exact (w.objects.get?_insert_of_ne _ hne).trans hid
    · by_cases hid : id = object
      · subst hid
        rw [hobject] at ho₁
        cases ho₁
        refine ⟨_, w.objects.get?_insert_self _ _, ?_⟩
        -- the property is read-only and stays, or it is writable and named by the write
        split
        · exact .refl o
        · next hwritable =>
          refine ⟨rfl, rfl, rfl, rfl, fun n hn => o.props.get?_insert_of_ne value ?_⟩
          rintro rfl
          exact hn ⟨rfl, rfl, by simpa using hwritable⟩
      · exact ⟨o₁, (w.objects.get?_insert_of_ne _ hid).trans ho₁, .refl o₁⟩

end World

namespace Store

variable {s s' : Store}

/-- A store does not differ from itself. -/
theorem SameBut.refl (s : Store) : s.SameBut allowed s := ⟨rfl, .refl s.world⟩

/-- Stores that differ in what is allowed, one after another, differ in what is allowed. -/
theorem SameBut.trans {s₁ s₂ s₃ : Store} (h : s₁.SameBut allowed s₂) (h' : s₂.SameBut allowed s₃) :
    s₁.SameBut allowed s₃ := ⟨h'.stream.trans h.stream, h.world.trans h'.world⟩

/-- More properties of a store may be allowed to differ. -/
theorem SameBut.mono (h : s.SameBut allowed s')
    (hsub : ∀ id name, allowed id name → allowed' id name) : s.SameBut allowed' s' :=
  ⟨h.stream, h.world.mono hsub⟩

end Store

end SameBut

/-! ### Tasks -/

namespace Task

variable {t : Task}

/-- What the next tick asks is a request of the owner, since the machine waits for it after its
step. -/
theorem request?_isOf (h : t.machine.RunsAs owner) {r : Request} (hr : t.request? = some r) :
    r.IsOf owner := by
  obtain ⟨hmachine, hsuspended⟩ := h.step
  exact hmachine.current.awaiting r (hsuspended r (step_of_request? hr))

/-- A tick in which something is asked has it served, however the store answers. A fault is an
answer too: it is raised by the next step, not by this tick. -/
theorem tick_result_served (h : t.machine.RunsAs owner) {r : Request} (hr : t.request? = some r)
    (s : Store) : (t.tick s).2.2 = .ok (.served r.kind) := by
  -- the machine waits for the answer, so it does not refuse it
  have hawaiting := h.step.2 r (step_of_request? hr)
  rw [(tick_machine_served s hr).2]
  cases (Host.serve s r).2 with
  | error fault =>
    rw [Machine.resume_error hawaiting]
    rfl
  | ok reply =>
    rw [Machine.resume_ok hawaiting]
    rfl

/-- **A tick** leaves all frames of a task running as their owner. The step does so, and the store
answers a request of the owner with a machine that runs as the owner too. -/
theorem tick_runsAs (h : t.machine.RunsAs owner) (s : Store) :
    (t.tick s).1.machine.RunsAs owner := by
  cases hr : t.request? with
  | none =>
    rcases tick_machine_stepped s hr with hmachine | hmachine
    · rw [hmachine]
      exact h
    · rw [hmachine]
      exact h.step.1
  | some r =>
    rw [(tick_machine_served s hr).1]
    -- a machine in the answer runs as the object of the request, which is the owner
    refine h.step.1.resume fun n hn => ?_
    obtain ⟨f, rfl, hfresh, howner⟩ := World.serve_frame (request?_isOf h hr) hn
    rw [← howner]
    exact .start hfresh.runsAs

/-- **A tick changes the store by a write only**, and then at most the one property that is
written. -/
theorem tick_store (h : t.machine.RunsAs owner) (s : Store) :
    (t.tick s).2.1 = s ∨ ∃ name value, t.request? = some (.setProp owner name value) ∧
      (t.tick s).2.2 = .ok (.served .setProp) ∧
      s.SameBut (fun id n => id = owner ∧ n = name ∧ World.isReadOnly n = false)
        (t.tick s).2.1 := by
  cases hr : t.request? with
  | none =>
    left
    rw [tick_host, hr]
  | some r =>
    have hhost : (t.tick s).2.1 = { s with world := (s.world.serve r).1 } := by
      rw [tick_host, hr]
      rfl
    -- the other kinds of requests leave the world as it is
    by_cases hkind : r.kind = .setProp
    · right
      cases r with
      | setProp object name value =>
        -- the machine writes on behalf of its owner, so it writes to the owner
        obtain rfl : object = owner := request?_isOf h hr
        refine ⟨name, value, rfl, tick_result_served h hr s, ?_⟩
        rw [hhost]
        exact ⟨rfl, s.world.setProp_sameBut object name value⟩
      | getProp object name => cases hkind
      | resolveAlias name => cases hkind
      | call object args => cases hkind
    · left
      rw [hhost, s.world.serve_eq_self hkind]

/-- How far a task that started with the store `s` has come: `t` and `s'` are the task and the store
now. -/
structure Confined (owner : ObjectId) (s : Store) (t : Task) (s' : Store) : Prop where
  /-- Every frame runs as `owner`. -/
  owners : ∀ f ∈ t.machine.frames, f.owner = owner
  /-- The next tick asks nothing but on behalf of `owner`. -/
  requests : ∀ r, t.request? = some r → r.IsOf owner
  /-- So far only properties of `owner` have changed, and no read-only ones. -/
  store : s.SameBut (fun id name => id = owner ∧ World.isReadOnly name = false) s'
  /-- If the next tick changes the store, it serves a write and changes the written property only.
  -/
  writes : (t.tick s').2.1 ≠ s' → (t.tick s').2.2 = .ok (.served .setProp) ∧
    ∃ name value, t.request? = some (.setProp owner name value) ∧
      s'.SameBut (fun id n => id = owner ∧ n = name) (t.tick s').2.1

/-- So do any number of ticks. -/
theorem tickTimes_runsAs (h : t.machine.RunsAs owner) (s : Store) (n : Nat) :
    (t.tickTimes s n).1.machine.RunsAs owner := by
  induction n with
  | zero => exact h
  | succ n ih => exact tick_runsAs ih _

/-- After any number of ticks the store differs from the first one in writable properties of the
owner only. The induction is on the ticks, each of which adds one write at most. -/
theorem tickTimes_sameBut (h : t.machine.RunsAs owner) (s : Store) (n : Nat) :
    s.SameBut (fun id name => id = owner ∧ World.isReadOnly name = false)
      (t.tickTimes s n).2.1 := by
  induction n with
  | zero => exact .refl s
  | succ n ih =>
    refine ih.trans ?_
    rcases tick_store (tickTimes_runsAs h s n) (t.tickTimes s n).2.1 with
      heq | ⟨name, value, -, -, hsame⟩
    · change Store.SameBut _ _ ((t.tickTimes s n).1.tick (t.tickTimes s n).2.1).2.1
      rw [heq]
      exact .refl _
    · exact hsame.mono fun id n hn => ⟨hn.1, hn.2.2⟩

/-- **Scripts are confined to their object.** Let a task start with a frame at the beginning of its
script, in any store, and tick any number of times, whatever the ticks return. Every frame of the
machine then runs as the owner of the first one, what the machine asks it asks on behalf of the
owner, the store differs from the first one at most in properties of the owner that are not
read-only, and the next tick changes the store only by serving a write, and only in the property
that is written. -/
theorem tickTimes_confined {root : Frame} (hroot : root.Fresh)
    (ht : t.machine = .start root) (s : Store) (n : Nat) :
    Confined root.owner s (t.tickTimes s n).1 (t.tickTimes s n).2.1 := by
  have hstart : t.machine.RunsAs root.owner := by
    rw [ht]
    exact .start hroot.runsAs
  -- the invariant holds now, and says what the next tick can ask and change
  have hnow := tickTimes_runsAs hstart s n
  refine ⟨fun f hf => hnow.owner_eq hf, fun r hr => request?_isOf hnow hr,
    tickTimes_sameBut hstart s n, fun hchange => ?_⟩
  rcases tick_store hnow (t.tickTimes s n).2.1 with heq | ⟨name, value, hr, hresult, hsame⟩
  · exact absurd heq hchange
  · exact ⟨hresult, name, value, hr, hsame.mono fun id n hn => ⟨hn.1, hn.2.1⟩⟩

end Task

/-- Two objects, of which the first inherits a verb of the second. The verb writes a property that
neither of them has. -/
def company : Store :=
  { world :=
      { objects := Table.ofList
          [(⟨1⟩, { id := ⟨1⟩, parent := some ⟨2⟩ }),
            (⟨2⟩, { id := ⟨2⟩, verbs := Table.ofList [("smile", "%mood = 'happy'")] })] }
    stream := { seed := 0 } }

/-- A task of the first object that calls the inherited verb. -/
def smiling : Task :=
  { machine := .start { owner := ⟨1⟩, script := [.call ⟨"smile", none, none, none, []⟩] } }

/-- The inherited verb writes to the object that called it, not to the one that defines it. -/
theorem smiling_confined :
    Task.Confined ⟨1⟩ company (smiling.tickTimes company 2).1 (smiling.tickTimes company 2).2.1 ∧
    (smiling.tickTimes company 2).2.2 = [.ok (.served .call), .ok (.served .setProp)] ∧
    (smiling.tickTimes company 2).2.1.world.readProp ⟨1⟩ "mood" = .ok (.str "happy") ∧
    (smiling.tickTimes company 2).2.1.world.readProp ⟨2⟩ "mood"
      = .error (.propNotFound "mood") := by
  refine ⟨Task.tickTimes_confined (Frame.fresh_new ⟨1⟩ _) rfl company 2, ?_, ?_, ?_⟩
  · decide +kernel
  · decide +kernel
  · decide +kernel

end VerbScript
