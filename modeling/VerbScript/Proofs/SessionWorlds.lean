import VerbScript.Proofs.Inheritance
import VerbScript.Proofs.TaskFaults

/-!
# The world of a session

What holds of the world of a session between two commands. The alias `Me` names the object that
scripts run on, and this object exists: a session makes sure of it when it takes a world over, and
no script can change it, since scripts write properties only. And if all verbs compile, then it
stays so: scripts cannot write verbs, and a session stores none that does not compile.

* `World.SameBut` with all properties allowed — what scripts leave of a world
  (`World.serve_sameBut`, `Session.runScript_sameBut`).
* `World.VerbsCompile` — every verb that is stored compiles. Then no request is answered with a
  syntax error (`World.VerbsCompile.serve_fails`), and no script is stopped by one
  (`Session.runScript_compiled`).
* `Session.Anchored` — the alias and the object of a session. `Session.Anchored.answers` and
  `Session.Anchored.runSource_me` say what scripts see of it.
-/

namespace VerbScript

namespace World

variable {w w' : World} {allowed : ObjectId → String → Prop}

/-! ### What scripts leave of a world -/

/-- **Requests write properties only.** A read or a call leaves the world as it is, and a write
changes one property of one object. -/
theorem serve_sameBut (w : World) (r : Request) : w.SameBut (fun _ _ => True) (w.serve r).1 := by
  by_cases hkind : r.kind = .setProp
  · cases r with
    | setProp object name value =>
      exact (w.setProp_sameBut object name value).mono fun _ _ _ => trivial
    | getProp object name => cases hkind
    | resolveAlias name => cases hkind
    | call object args => cases hkind
  · rw [w.serve_eq_self hkind]
    exact .refl w

/-- Properties have no part in what an alias names. -/
theorem SameBut.alias?_eq (h : w.SameBut allowed w') (name : String) :
    w'.alias? name = w.alias? name := by
  unfold alias?
  rw [h.aliases]

/-- Nor in which objects there are. -/
theorem SameBut.contains (h : w.SameBut allowed w') {id : ObjectId} (hid : w.contains id = true) :
    w'.contains id = true := by
  obtain ⟨o, ho⟩ := exists_object hid
  obtain ⟨o', ho', -⟩ := h.objects id o ho
  exact contains_eq_true ho'

/-! ### Stored verbs -/

/-- **Every verb that is stored compiles.** This is an invariant of sessions that begin with an
empty world: they store a verb only if it compiles. A world that is loaded need not have it. -/
def VerbsCompile (w : World) : Prop :=
  ∀ id o name source, w.object? id = some o → o.verbs.get? name = some source →
    ∃ script, Script.compile source = .ok script

/-- A world without objects has no verb that could fail. -/
theorem verbsCompile_empty : VerbsCompile {} := nofun

/-- A change of properties stores no verb and removes none. So no script, whatever it does, brings a
source into the world that does not compile. -/
theorem VerbsCompile.of_sameBut (h : w.VerbsCompile) (hsame : w.SameBut allowed w') :
    w'.VerbsCompile := by
  intro id o' name source ho' hsource
  cases ho : w.object? id with
  | none =>
    rw [hsame.missing id ho] at ho'
    cases ho'
  | some o =>
    obtain ⟨o'', ho'', hobject⟩ := hsame.objects id o ho
    obtain rfl : o'' = o' := Option.some.inj (ho''.symm.trans ho')
    -- the object has other properties, but the same verbs
    rw [hobject.verbs] at hsource
    exact h id o name source ho hsource

/-- An object may be put into the world if its verbs compile. Of all other objects nothing has
changed. -/
theorem VerbsCompile.put (h : w.VerbsCompile) (id : ObjectId) {o : Object}
    (ho : ∀ name source, o.verbs.get? name = some source →
      ∃ script, Script.compile source = .ok script) : (w.put id o).VerbsCompile := by
  intro j o' name source hfound hsource
  rw [object?_put] at hfound
  split at hfound
  · cases hfound
    exact ho name source hsource
  · exact h j o' name source hfound hsource

/-- What is found for a verb is stored on some object. It need not be the one that was asked for, as
verbs are inherited. -/
theorem findVerb_stored {id : ObjectId} {verb source : String}
    (h : w.findVerb id verb = .ok source) :
    ∃ j o, w.object? j = some o ∧ o.verbs.get? verb = some source := by
  rw [findVerb_eq_inherited] at h
  unfold inherited at h
  cases ho : w.object? id with
  | none =>
    rw [ho] at h
    cases h
  | some o =>
    rw [ho] at h
    change given (.verbNotFound verb) ((w.chain o).findSome? (·.verbs.get? verb)) = _ at h
    cases hfound : (w.chain o).findSome? (·.verbs.get? verb) with
    | none =>
      rw [hfound] at h
      cases h
    | some source' =>
      rw [hfound] at h
      cases h
      -- the object that gives the verb is on the line of ancestors
      obtain ⟨o', hmem, hsource⟩ := List.exists_of_findSome?_eq_some hfound
      rw [chain_eq_lineage ho] at hmem
      obtain ⟨j, -, hj⟩ := List.mem_filterMap.1 hmem
      exact ⟨j, o', hj, hsource⟩

/-- **If all verbs compile, no request is answered with a syntax error.** A call is the only request
that compiles anything, and it compiles a stored verb. -/
theorem VerbsCompile.serve_fails (h : w.VerbsCompile) (r : Request) :
    FailsWith (fun fault => ∀ e, fault ≠ .compile e) (w.serve r).2 := by
  refine (World.serve_fails w r).mono fun fault hfault e => ?_
  rintro rfl
  rcases hfault with hmissing | ⟨object, verb, source, e', hfind, hcompile, -⟩
  · exact hmissing
  · -- the source that is rejected is stored somewhere, so it compiles
    obtain ⟨j, o, ho, hsource⟩ := findVerb_stored hfind
    obtain ⟨script, hscript⟩ := h j o verb source ho hsource
    rw [hscript] at hcompile
    cases hcompile

end World

/-! ### Stages -/

namespace Stage

/-- A stage changes its world as the request changes it. -/
theorem serve_world (s : Stage) (r : Request) :
    (s.serve r).1.store.world = (s.store.world.serve r).1 := by
  unfold serve
  dsimp only
  split
  · split <;> rfl
  · rfl

/-- As a host, a stage keeps everything but properties, whatever it is asked. The other requests
only read the world, and what a native verb says is no part of it. -/
theorem maintains_sameBut (w : World) :
    Host.Maintains (fun s : Stage => w.SameBut (fun _ _ => True) s.store.world)
      (fun _ => True) where
  kept s r h := by
    change w.SameBut _ (s.serve r).1.store.world
    rw [s.serve_world]
    exact h.trans (World.serve_sameBut _ r)
  fails _ _ _ _ _ := trivial

/-- As a host, a stage keeps its verbs, and while they compile it answers no request with a syntax
error. -/
theorem maintains_verbsCompile :
    Host.Maintains (fun s : Stage => s.store.world.VerbsCompile)
      (fun fault => ∀ e, fault ≠ .compile e) where
  kept s r h := by
    change (s.serve r).1.store.world.VerbsCompile
    rw [s.serve_world]
    exact h.of_sameBut (World.serve_sameBut _ r)
  fails s r h := by
    change FailsWith _ (s.serve r).2
    -- a verb of the stage itself has no source at all
    rcases s.serve_cases r with heq | ⟨object, args, -, heq⟩
    · rw [heq]
      exact h.serve_fails r
    · rw [heq]
      exact .ok _

end Stage

/-! ### Sessions -/

namespace Session

variable {s s' : Session}

/-- The frame of a script that is run: it runs as the object of the session, without any
variables. -/
def frame (s : Session) (script : Script) : Frame :=
  { owner := s.player, script, maxDepth := s.settings.maxDepth }

/-- Every script that is run begins at its beginning. -/
theorem frame_fresh (s : Session) (script : Script) : (s.frame script).Fresh :=
  ⟨⟨rfl, rfl, rfl⟩, rfl, rfl, rfl⟩

/-- The task of a script that is run. It takes the limit and the tracer from the session. -/
def task (s : Session) (script : Script) : Task :=
  { machine := .start (s.frame script), limit := s.settings.limit, tracer := some s.tracer }

/-- A session runs a script as a task, and keeps the stage and the tracer that the run leaves. -/
theorem runScript_eq (s : Session) (script : Script) :
    s.runScript script =
      ({ s with
          stage := ((s.task script).run s.stage).2.1
          tracer := ((s.task script).run s.stage).1.tracer.getD s.tracer },
        ((s.task script).run s.stage).2.2.mapError .raised) := rfl

/-- **A script writes properties only.** So objects, verbs and names are as they were, whatever the
script does and however it ends. -/
theorem runScript_sameBut (s : Session) (script : Script) :
    s.world.SameBut (fun _ _ => True) (s.runScript script).1.world := by
  rw [runScript_eq]
  exact Task.run_maintained (Stage.maintains_sameBut s.world) (.refl s.world)

/-- **If all verbs compile, no script is stopped by a syntax error.** It may be stopped by any other
fault. -/
theorem runScript_compiled (h : s.world.VerbsCompile) (script : Script) (e : SyntaxError) :
    (s.runScript script).2 ≠ .error (.raised (.compile e)) := by
  -- a syntax error is nothing that a script runs into by itself
  have hown : ∀ fault : Fault, fault.Own → ∀ e, fault ≠ .compile e := by
    rintro _ hfault e rfl
    exact hfault
  have hfails : FailsWith (fun fault => ∀ e, fault ≠ .compile e)
      ((s.task script).run s.stage).2.2 :=
    Task.run_fails Stage.agrees Stage.maintains_verbsCompile hown (s.frame_fresh script) rfl rfl h
  intro hresult
  rw [runScript_eq] at hresult
  -- a run that fails does so with a fault of the script or of the stage
  cases hrun : ((s.task script).run s.stage).2.2 with
  | ok v =>
    rw [hrun] at hresult
    cases hresult
  | error fault =>
    rw [hrun] at hresult
    cases hresult
    exact hfails _ hrun e rfl

/-- A world with a new object, which has neither properties nor verbs, under the alias of the
player. -/
def settle (w : World) (id : ObjectId) (clock : UInt64) : World :=
  (w.put id { id, created := clock }).setAlias playerAlias id

/-- A session takes the object that has the alias, or makes one. The object that is made gets the
alias, so the next session takes it. -/
theorem ensurePlayer_cases (store : Store) (clock : UInt64) :
    (∃ id, store.world.alias? playerAlias = some id ∧ store.world.contains id = true ∧
      ensurePlayer store clock = (id, store)) ∨
    ∃ id stream, ensurePlayer store clock
      = (id, { world := settle store.world id clock, stream }) := by
  -- whichever id is drawn, the new object comes under it
  have hmade : ∃ id stream, ensurePlayer.made store clock
      = (id, { world := settle store.world id clock, stream }) := by
    rcases hfresh : store.freshId with ⟨id, stream⟩
    refine ⟨id, stream, ?_⟩
    unfold ensurePlayer.made
    rw [Store.create_of_freshId hfresh]
    rfl
  unfold ensurePlayer
  -- an alias that names no object is as good as none
  split
  next id halias =>
    split
    next hexist => exact .inl ⟨id, halias, hexist, rfl⟩
    next => exact .inr hmade
  next => exact .inr hmade

/-- **The anchor of a session**: its alias names the object that scripts run on, which exists.
Scripts cannot unmake it, as they write properties only. -/
structure Anchored (s : Session) : Prop where
  named : s.world.alias? playerAlias = some s.player
  exist : s.world.contains s.player = true

/-- **A session anchors itself in the world it takes over**, whatever has the alias there: an object
that exists is taken, and otherwise a new one is made and named. -/
theorem ensurePlayer_anchored (store : Store) (clock : UInt64) :
    (ensurePlayer store clock).2.world.alias? playerAlias = some (ensurePlayer store clock).1 ∧
    (ensurePlayer store clock).2.world.contains (ensurePlayer store clock).1 = true := by
  rcases ensurePlayer_cases store clock with ⟨id, halias, hexist, heq⟩ | ⟨id, stream, heq⟩
  · rw [heq]
    exact ⟨halias, hexist⟩
  · rw [heq]
    refine ⟨Table.get?_insert_self _ _ _, ?_⟩
    exact World.contains_eq_true (World.object?_put_self store.world id _)

/-- A session is anchored from its beginning. -/
theorem ofStore_anchored (store : Store) (settings : Settings) :
    (ofStore store settings).Anchored :=
  let h := ensurePlayer_anchored store settings.clock
  ⟨h.1, h.2⟩

/-- A new world holds one object at most, and it has no verbs. The object is that of the player,
which has just been made. -/
theorem start_verbsCompile (settings : Settings) : (start settings).world.VerbsCompile := by
  change (ensurePlayer (.ofSeed settings.seed) settings.clock).2.world.VerbsCompile
  rcases ensurePlayer_cases (.ofSeed settings.seed) settings.clock with
    ⟨id, -, -, heq⟩ | ⟨id, stream, heq⟩
  · rw [heq]
    exact World.verbsCompile_empty
  · rw [heq]
    exact World.verbsCompile_empty.put id nofun

namespace Anchored

/-- What writes properties only keeps the anchor. Scripts do no more than this: neither the names
nor the objects of a world change by a request. -/
theorem of_sameBut {allowed : ObjectId → String → Prop} (h : s.Anchored)
    (hplayer : s'.player = s.player) (hsame : s.world.SameBut allowed s'.world) :
    s'.Anchored := by
  refine ⟨?_, ?_⟩
  · rw [hsame.alias?_eq, hplayer]
    exact h.named
  · rw [hplayer]
    exact hsame.contains h.exist

/-- The object of the session, with what is listed of it. It exists, so no listing is empty for the
want of an object. -/
theorem exists_player (h : s.Anchored) :
    ∃ o, s.world.object? s.player = some o ∧ s.props = .ok o.props.toList ∧
      s.verbNames = o.verbs.keys := by
  obtain ⟨o, ho⟩ := World.exists_object h.exist
  refine ⟨o, ho, ?_, ?_⟩
  · unfold props World.props
    rw [ho]
    rfl
  · unfold verbNames World.verbNames
    rw [ho]
    rfl

/-- A verb is defined if its source compiles, and only then. What is stored is the source, not the
script. -/
theorem defineVerb_eq (h : s.Anchored) (name source : String) :
    (∃ e, Script.compile source = .error e ∧ s.defineVerb name source = .error (.rejected e)) ∨
    ∃ script o, Script.compile source = .ok script ∧ s.world.object? s.player = some o ∧
      s.defineVerb name source = .ok { s with stage := { s.stage with store := { s.stage.store with
        world := s.world.put s.player { o with verbs := o.verbs.insert name source } } } } := by
  obtain ⟨o, ho⟩ := World.exists_object h.exist
  have hset : s.world.setVerb s.player name source
      = .ok (s.world.put s.player { o with verbs := o.verbs.insert name source }) := by
    unfold World.setVerb World.change
    rw [ho]
    rfl
  unfold Session.defineVerb
  rw [hset]
  cases Script.compile source with
  | error e => exact .inl ⟨e, rfl, rfl⟩
  | ok script => exact .inr ⟨script, o, rfl, ho, rfl⟩

/-- **A session that has defined a verb** is still anchored, and the verb compiles. A definition
that fails gives no session at all. -/
theorem of_defineVerb (h : s.Anchored) {name source : String}
    (hdefined : s.defineVerb name source = .ok s') :
    s'.Anchored ∧ s'.settings = s.settings ∧
      (s.world.VerbsCompile → s'.world.VerbsCompile) := by
  rcases h.defineVerb_eq name source with ⟨e, -, heq⟩ | ⟨script, o, hcompile, ho, heq⟩
  · rw [heq] at hdefined
    cases hdefined
  · rw [heq] at hdefined
    cases hdefined
    refine ⟨⟨h.named, ?_⟩, rfl, fun hverbs => hverbs.put s.player ?_⟩
    · exact World.contains_eq_true (World.object?_put_self s.world s.player _)
    · -- a verb of the object is the new one or an old one
      intro name' source' hsource
      change (o.verbs.insert name source).get? name' = some source' at hsource
      rw [Table.get?_insert] at hsource
      split at hsource
      · cases hsource
        exact ⟨script, hcompile⟩
      · exact hverbs s.player o name' source' ho hsource

/-- **Whenever a script asks what the alias names**, the answer is the object of the session. That
is after any number of ticks, since no tick can change what the alias names. -/
theorem answers (h : s.Anchored) (script : Script) (n : Nat) :
    (Host.serve ((s.task script).tickTimes s.stage n).2.1 (.resolveAlias playerAlias)).2
      = .ok (.value (.object s.player)) := by
  have hsame := Task.tickTimes_maintained (t := s.task script) (Stage.maintains_sameBut s.world)
    (.refl s.world) n
  -- whatever has happened up to this tick, the aliases are those of the beginning
  have hnamed := (hsame.alias?_eq playerAlias).trans h.named
  generalize ((s.task script).tickTimes s.stage n).2.1 = stage at hnamed
  change (stage.serve (.resolveAlias playerAlias)).2 = _
  rcases stage.serve_cases (.resolveAlias playerAlias) with heq | ⟨object, args, hcall, -⟩
  · rw [heq]
    simp only [World.serve, hnamed]
  · cases hcall

end Anchored

/-- **A session that has loaded a world** is anchored in it, and keeps its settings. Its object may
be another one than before. -/
theorem load_anchored {disk : Disk} {path : String} (h : s.load disk path = .ok s') :
    s'.Anchored ∧ s'.settings = s.settings := by
  obtain ⟨store, -, rfl⟩ := Except.map_eq_ok h
  let hplayer := ensurePlayer_anchored store s.settings.clock
  exact ⟨⟨hplayer.1, hplayer.2⟩, rfl⟩

/-! ### The object of the session, returned by a script -/

/-- The script that returns what the alias names. -/
def aliasScript : Script := [.assign .set ⟨.var, Frame.returnName, none⟩ [.named playerAlias]]

/-- It is one line of source. -/
theorem compile_aliasScript : Script.compile "$_return = ##Me" = .ok aliasScript := by
  decide +kernel

/-- The script asks for the alias first, and is at its end when it has the answer. It takes two
steps with one answer between them, whatever world gives the answer. -/
theorem aliasScript_steps (owner v : ObjectId) (maxDepth : Nat) :
    let root : Frame := { owner, script := aliasScript, maxDepth }
    (Machine.start root).step =
      (.start { root with awaiting := some (.resolveAlias playerAlias) },
        .ok (.suspended (.resolveAlias playerAlias))) ∧
    (Machine.start { root with awaiting := some (.resolveAlias playerAlias) }).resume
      (.ok (.value (.object v))) = (.start { root with replies := [.object v] }, .ok ()) ∧
    ∃ m, (Machine.start { root with replies := [.object v] }).step = (m, .error .endOfScript) ∧
      m.returnValue = .object v :=
  ⟨rfl, rfl, _, rfl, rfl⟩

/-- The first tick has the alias resolved, and the second one ends the script. Both have to be
admitted by the limit. -/
theorem Anchored.aliasScript_ends (h : s.Anchored) (hadmits : (s.task aliasScript).Admits 2) :
    (s.task aliasScript).Ends s.stage 1 (.ok (.object s.player)) := by
  obtain ⟨hfirst, hanswer, m, hsecond, hreturn⟩ :=
    aliasScript_steps s.player s.player s.settings.maxDepth
  have hstep : (s.task aliasScript).machine.step = _ := hfirst
  have hr : (s.task aliasScript).request? = some (.resolveAlias playerAlias) := by
    rw [Task.request?_eq (hadmits.mono (by decide)).exhausted_eq, hstep]
  obtain ⟨hmachine, hresult⟩ := Task.tick_machine_served s.stage hr
  rw [show (Host.serve s.stage (.resolveAlias playerAlias)).2 = _ from h.answers aliasScript 0,
    hstep, hanswer] at hmachine hresult
  -- with the answer in its log the machine is at the end
  have hend : ((s.task aliasScript).tickTimes s.stage 1).1.machine.step
      = (m, .error .endOfScript) := by
    change ((s.task aliasScript).tick s.stage).1.machine.step = _
    rw [hmachine]
    exact hsecond
  refine ⟨fun k hk => ?_, ?_⟩
  · obtain rfl : k = 0 := by omega
    change Tick.outcome? ((s.task aliasScript).tick s.stage).2.2 = none
    rw [hresult]
    rfl
  · unfold Task.resultAfter
    rw [(Task.tick_finished _ (Task.tickTimes_exhausted hadmits s.stage) hend).2, hreturn]
    rfl

/-- **A script that returns what the alias names** results in the object of the session, if it may
take the two ticks that it needs. -/
theorem Anchored.runSource_me (h : s.Anchored)
    (hlimit : ∀ limit, s.settings.limit = some limit → 2 ≤ limit) :
    (s.runSource "$_return = ##Me").2 = .ok (.object s.player) := by
  have hadmits : (s.task aliasScript).Admits 2 := fun limit hsome => hlimit limit hsome
  -- what a run is given is at least its limit
  have hfuel : 1 < (s.task aliasScript).fuel := by
    unfold Task.fuel
    cases hsome : (s.task aliasScript).limit with
    | none =>
      change 1 < UInt64.size
      decide
    | some limit =>
      have hle := hadmits limit hsome
      dsimp only
      omega
  unfold runSource
  rw [compile_aliasScript]
  dsimp only
  rw [runScript_eq, Task.run_of_ends (h.aliasScript_ends hadmits) hfuel]
  rfl

end Session

end VerbScript
