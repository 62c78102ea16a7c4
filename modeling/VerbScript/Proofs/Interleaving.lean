import Mathlib.Data.List.Basic
import Mathlib.Data.List.Induction
import Mathlib.Logic.Function.Basic
import VerbScript.Proofs.Confinement

/-!
# Independent tasks commute

Tasks that share a store do not notice each other if none of them runs as an object that another one
inherits from.

* `World.lineage w id` — the ids at which a walk from `id` up its parents looks objects up.
  `World.chain_eq_lineage` says that inheritance looks nowhere else, and `World.lineage_congr` that
  no script can change the walk.
* `World.serve_congr` — the footprint of requests: worlds that differ only in properties out of
  sight of an object answer its requests alike, and differ in nothing else afterwards.
* `Ensemble` — tasks that take turns on one store.
* `Ensemble.Follows` — the invariant, one for each task: the task is what it would be alone, and the
  store differs from the one it would have alone only in properties of the owners of the other
  tasks.
* `Ensemble.play_independent` — the theorem.
-/

namespace VerbScript

/-! ### The walk up the parents -/

namespace World

variable {w w' : World} {allowed : ObjectId → String → Prop}

/-- The ids at which `chainFrom` looks up its objects. The two are the same recursion, and this one
keeps the ids in place of the objects. -/
def lineageFrom (w : World) (seen : List ObjectId) : Nat → ObjectId → List ObjectId
  | 0, _ => []
  | fuel + 1, id =>
    match w.object? id with
    | none => []
    | some o =>
      if o.id ∈ seen then []
      else
        id :: match o.parent with
          | some parent => lineageFrom w (o.id :: seen) fuel parent
          | none => []

/-- The ids of an object and its ancestors, as a walk from the object up its parents meets them. It
ends where a parent is missing or has been met before. -/
def lineage (w : World) (id : ObjectId) : List ObjectId := w.lineageFrom [] w.objects.size id

/-- The walk ends at an id without an object. -/
theorem lineageFrom_of_missing {id : ObjectId} (h : w.object? id = none) (seen : List ObjectId)
    (fuel : Nat) : w.lineageFrom seen fuel id = [] := by
  cases fuel with
  | zero => rfl
  | succ fuel =>
    unfold lineageFrom
    rw [h]

/-- The walk over objects and the walk over ids meet the same. The induction is on the steps that
both may take. -/
theorem chainFrom_eq_lineageFrom {id : ObjectId} {o : Object} (h : w.object? id = some o)
    (seen : List ObjectId) (fuel : Nat) :
    w.chainFrom seen fuel o = (w.lineageFrom seen fuel id).filterMap w.object? := by
  induction fuel generalizing id o seen with
  | zero => rfl
  | succ fuel ih =>
    unfold chainFrom lineageFrom
    rw [h]
    by_cases hseen : o.id ∈ seen
    · simp only [if_pos hseen, List.filterMap_nil]
    · simp only [if_neg hseen, List.filterMap_cons, h]
      -- the head is `o` on both sides; above it one walk follows objects, the other one ids
      congr 1
      cases hparent : o.parent with
      | none => rfl
      | some parent =>
        simp only [Option.bind_some]
        cases hp : w.object? parent with
        | none =>
          change [] = (w.lineageFrom (o.id :: seen) fuel parent).filterMap w.object?
          rw [lineageFrom_of_missing hp, List.filterMap_nil]
        | some p => exact ih hp (o.id :: seen)

/-- **Inheritance looks at the objects of the lineage**, in order, and at no others. So what an
object inherits is known from the objects on its walk. -/
theorem chain_eq_lineage {id : ObjectId} {o : Object} (h : w.object? id = some o) :
    w.chain o = (w.lineage id).filterMap w.object? := chainFrom_eq_lineageFrom h [] w.objects.size

/-- Worlds that differ in properties only are walked alike. The induction is on the steps that the
walk has left, with the ids it has seen. -/
theorem lineageFrom_congr (h : w.SameBut allowed w') (seen : List ObjectId) (fuel : Nat)
    (id : ObjectId) : w'.lineageFrom seen fuel id = w.lineageFrom seen fuel id := by
  induction fuel generalizing id seen with
  | zero => rfl
  | succ fuel ih =>
    cases ho : w.object? id with
    | none => rw [lineageFrom_of_missing ho, lineageFrom_of_missing (h.missing id ho)]
    | some o =>
      -- the walk looks at the id and the parent of an object only
      obtain ⟨o', ho', hsame⟩ := h.objects id o ho
      unfold lineageFrom
      rw [ho, ho']
      simp only [hsame.id, hsame.parent, ih]

/-- They have as many objects too, so the walks may take as many steps. The number of objects is
what a walk is bounded by. -/
theorem SameBut.size_eq (h : w.SameBut allowed w') : w'.objects.size = w.objects.size := by
  refine Table.size_eq_of_isSome fun id => ?_
  change (w'.object? id).isSome = (w.object? id).isSome
  cases ho : w.object? id with
  -- an id is in use in both worlds or in neither
  | none => rw [h.missing id ho]
  | some o =>
    obtain ⟨o', ho', -⟩ := h.objects id o ho
    rw [ho']
    rfl

/-- **Properties do not change the walk.** It goes by the ids and the parents of objects, which
scripts cannot write. -/
theorem lineage_congr (h : w.SameBut allowed w') (id : ObjectId) :
    w'.lineage id = w.lineage id := by
  unfold lineage
  rw [h.size_eq]
  exact lineageFrom_congr h [] w.objects.size id

/-! ### The footprint of requests -/

/-- The object `j` is in sight of scripts that run as `id`: it is the object itself, or the walk
meets it. -/
def InSight (w : World) (id j : ObjectId) : Prop := j = id ∨ j ∈ w.lineage id

variable {id : ObjectId}

/-- What is in sight is looked up alike: the walk is the same, and so are the objects that it
meets. -/
theorem inherited_congr (h : w.SameBut allowed w')
    (hsight : ∀ j, w.InSight id j → ∀ name, ¬allowed j name) {α : Type}
    (probe : Object → Option α) : w'.inherited id probe = w.inherited id probe := by
  have hid : w'.object? id = w.object? id := h.object?_eq (hsight id (.inl rfl))
  unfold inherited
  rw [hid]
  cases ho : w.object? id with
  | none => rfl
  | some o =>
    have hchain : w'.chain o = w.chain o := by
      rw [chain_eq_lineage ho, chain_eq_lineage (hid.trans ho), lineage_congr h]
      refine List.filterMap_congr fun j hj => ?_
      exact h.object?_eq (hsight j (.inr hj))
    simp only [hchain]

/-- So a property in sight reads alike. -/
theorem readProp_congr (h : w.SameBut allowed w')
    (hsight : ∀ j, w.InSight id j → ∀ name, ¬allowed j name) (name : String) :
    w'.readProp id name = w.readProp id name := by
  unfold readProp
  rw [h.object?_eq (hsight id (.inl rfl)), inherited_congr h hsight]

/-- A call runs the same verb, which is looked up in sight too. -/
theorem callee_congr (h : w.SameBut allowed w')
    (hsight : ∀ j, w.InSight id j → ∀ name, ¬allowed j name) (args : CallArgs) :
    w'.callee id args = w.callee id args := by
  rw [callee_eq, callee_eq]
  unfold findVerb
  rw [inherited_congr h hsight]

/-- Worlds that differ as allowed still do so if the same object is put into both, as they differ
nowhere but at other ids. -/
theorem SameBut.insert (h : w.SameBut allowed w') (id : ObjectId) (o : Object) :
    SameBut allowed { w with objects := w.objects.insert id o }
      { w' with objects := w'.objects.insert id o } := by
  refine ⟨h.aliases, fun j hj => ?_, fun j oj hj => ?_⟩
  · simp only [object?, Table.get?_insert] at hj ⊢
    split at hj
    · cases hj
    · next hne =>
      rw [if_neg hne]
      exact h.missing j hj
  · simp only [object?, Table.get?_insert] at hj ⊢
    split at hj
    · next heq =>
      cases hj
      exact ⟨o, if_pos heq, .refl o⟩
    · next hne =>
      rw [if_neg hne]
      exact h.objects j oj hj

/-- **The footprint of a request.** Worlds that differ only in properties out of sight of `id`
answer the requests of `id` alike, and differ as before afterwards. -/
theorem serve_congr (h : w.SameBut allowed w')
    (hsight : ∀ j, w.InSight id j → ∀ name, ¬allowed j name) {r : Request} (hr : r.IsOf id) :
    (w'.serve r).2 = (w.serve r).2 ∧ (w.serve r).1.SameBut allowed (w'.serve r).1 := by
  cases r with
  | getProp object name =>
    obtain rfl : object = id := hr
    refine ⟨?_, h⟩
    simp only [serve, readProp_congr h hsight]
  | setProp object name value =>
    obtain rfl : object = id := hr
    -- the object that is written to is the same in both worlds, so the same object is put
    rw [serve_setProp, serve_setProp, h.object?_eq (hsight object (.inl rfl))]
    cases w.object? object with
    | none => exact ⟨rfl, h⟩
    | some o => exact ⟨rfl, h.insert object _⟩
  -- names are the same in both worlds
  | resolveAlias name =>
    simp only [serve, alias?, h.aliases]
    cases w.aliases.get? name with
    | none => exact ⟨rfl, h⟩
    | some target => exact ⟨rfl, h⟩
  | call object args =>
    obtain rfl : object = id := hr
    refine ⟨?_, h⟩
    simp only [serve, callee_congr h hsight]

/-- A world is known by its names and by the object under each id. So two worlds are equal if no
lookup tells them apart. -/
theorem ext_object? (haliases : w'.aliases = w.aliases)
    (hobjects : ∀ id, w'.object? id = w.object? id) : w' = w := by
  have htable : w'.objects = w.objects := Table.ext_get? hobjects
  cases w
  cases w'
  cases htable
  cases haliases
  rfl

end World

/-- **The footprint of a tick.** On stores that differ only in properties out of sight of its owner,
a task ticks alike, and the stores differ as before afterwards. -/
theorem Task.tick_footprint {t : Task} {id : ObjectId} {allowed : ObjectId → String → Prop}
    {s s' : Store} (ht : t.machine.RunsAs id) (h : s.SameBut allowed s')
    (hsight : ∀ j, s.world.InSight id j → ∀ name, ¬allowed j name) :
    (t.tick s').1 = (t.tick s).1 ∧ (t.tick s').2.2 = (t.tick s).2.2 ∧
      (t.tick s).2.1.SameBut allowed (t.tick s').2.1 := by
  have hserve : ∀ r, t.request? = some r →
      (Host.serve s' r).2 = (Host.serve s r).2 ∧
        (Host.serve s r).1.SameBut allowed (Host.serve s' r).1 := by
    intro r hr
    obtain ⟨hanswer, hworld⟩ := World.serve_congr h.world hsight (request?_isOf ht hr)
    exact ⟨hanswer, h.stream, hworld⟩
  -- the task learns of the store by the answer only
  obtain ⟨htask, hresult⟩ := tick_congr fun r hr => (hserve r hr).1
  refine ⟨htask, hresult, ?_⟩
  rw [tick_host, tick_host]
  cases hr : t.request? with
  | none => exact h
  | some r => exact (hserve r hr).2

/-! ### Tasks that take turns -/

/-- Tasks that share a store, and what the ticks of each have returned. Each task has a tracer of
its own, so the store is all that they share. -/
structure Ensemble (ι : Type) where
  tasks : ι → Task
  store : Store
  results : ι → List (Except Fault Tick) := fun _ => []

namespace Ensemble

variable {ι : Type} [DecidableEq ι] {e : Ensemble ι} {owner : ι → ObjectId} {i j : ι}

/-- The task `i` ticks once. The store that it leaves is the one that the next task finds. -/
def turn (e : Ensemble ι) (i : ι) : Ensemble ι :=
  let (task, store, result) := (e.tasks i).tick e.store
  { tasks := Function.update e.tasks i task
    store
    results := Function.update e.results i (e.results i ++ [result]) }

/-- The tasks tick in the order of a schedule, which may leave some of them out. -/
def play (e : Ensemble ι) (schedule : List ι) : Ensemble ι := schedule.foldl turn e

/-- The properties of the owners of all tasks but `i`. These are what the other tasks may have
written. -/
def Others (owner : ι → ObjectId) (i : ι) (id : ObjectId) (_ : String) : Prop :=
  ∃ j, j ≠ i ∧ id = owner j

/-- The task `i` has come as far as the `solo` run of it: it is the same task, its ticks have
returned the same, and the store differs from the one of the solo run only in properties of the
other owners. -/
structure Follows (owner : ι → ObjectId) (e : Ensemble ι) (i : ι)
    (solo : Task × Store × List (Except Fault Tick)) : Prop where
  task : e.tasks i = solo.1
  results : e.results i = solo.2.2
  store : solo.2.1.SameBut (Others owner i) e.store

/-- **The turn of another task** goes unnoticed: it changes the store in a property of its own owner
at most, and the task `i` not at all. -/
theorem Follows.turn_other {solo : Task × Store × List (Except Fault Tick)}
    (h : e.Follows owner i solo) (hne : j ≠ i) (hj : (e.tasks j).machine.RunsAs (owner j)) :
    (e.turn j).Follows owner i solo := by
  refine ⟨?_, ?_, h.store.trans ?_⟩
  · exact (Function.update_of_ne hne.symm _ _).trans h.task
  · exact (Function.update_of_ne hne.symm _ _).trans h.results
  · change e.store.SameBut _ ((e.tasks j).tick e.store).2.1
    -- the other task has written nothing, or a property of its own object
    rcases Task.tick_store hj e.store with heq | ⟨name, value, -, -, hsame⟩
    · rw [heq]
      exact .refl _
    · exact hsame.mono fun id n hn => ⟨j, hne, hn.1⟩

/-- **The turn of the task itself** is the next tick of its solo run, since both stores answer its
request alike. -/
theorem Follows.turn_own {t : Task} {s : Store} {n : Nat} (h : e.Follows owner i (t.tickTimes s n))
    (ht : t.machine.RunsAs (owner i))
    (hsight : ∀ id, s.world.InSight (owner i) id → ∀ name, ¬Others owner i id name) :
    (e.turn i).Follows owner i (t.tickTimes s (n + 1)) := by
  have hruns : (t.tickTimes s n).1.machine.RunsAs (owner i) := Task.tickTimes_runsAs ht s n
  -- the walk from the owner is still the one of the first store
  have hsight' : ∀ id, (t.tickTimes s n).2.1.world.InSight (owner i) id →
      ∀ name, ¬Others owner i id name := by
    intro id hid
    refine hsight id ?_
    unfold World.InSight at hid ⊢
    rwa [World.lineage_congr (Task.tickTimes_sameBut ht s n).world] at hid
  -- both stores answer alike, by the footprint
  obtain ⟨htask, hresult, hstore⟩ := Task.tick_footprint hruns h.store hsight'
  rw [← h.task] at htask hresult hstore
  refine ⟨?_, ?_, ?_⟩
  · change Function.update e.tasks i ((e.tasks i).tick e.store).1 i = _
    rw [Function.update_self, htask, h.task]
    rfl
  · change Function.update e.results i (e.results i ++ [((e.tasks i).tick e.store).2.2]) i = _
    rw [Function.update_self, hresult, h.results, h.task]
    rfl
  · rw [h.task] at hstore
    change Store.SameBut _ _ ((e.tasks i).tick e.store).2.1
    rw [h.task]
    exact hstore

/-- **A whole schedule**: every task follows its solo run of as many ticks as the schedule gives it.
The induction is on the schedule from its end, so that the last turn is made by tasks that
follow. -/
theorem play_follows {tasks : ι → Task} {s : Store}
    (hruns : ∀ i, (tasks i).machine.RunsAs (owner i))
    (hsight : ∀ i id, s.world.InSight (owner i) id → ∀ name, ¬Others owner i id name)
    (schedule : List ι) (i : ι) :
    (play { tasks, store := s } schedule).Follows owner i
      ((tasks i).tickTimes s (schedule.count i)) := by
  induction schedule using List.reverseRecOn generalizing i with
  | nil => exact ⟨rfl, rfl, .refl s⟩
  | append_singleton schedule j ih =>
    have hplay : play { tasks, store := s } (schedule ++ [j])
        = (play { tasks, store := s } schedule).turn j := List.foldl_concat _ _ _ _
    rw [hplay, List.count_append, List.count_singleton]
    -- the last turn is the task's own or another one's
    by_cases hij : j = i
    · subst hij
      rw [if_pos (beq_self_eq_true j)]
      exact (ih j).turn_own (hruns j) (hsight j)
    · rw [if_neg (by simpa using hij)]
      refine (ih i).turn_other hij ?_
      rw [(ih j).task]
      exact Task.tickTimes_runsAs (hruns j) s _

omit [DecidableEq ι] in
/-- Ensembles whose tasks follow the same solo runs have the same store: at the owner of a task it
is the one of the solo run, and elsewhere the one of any solo run. -/
theorem store_eq_of_follows {e' : Ensemble ι} {solo : ι → Task × Store × List (Except Fault Tick)}
    (hinj : ∀ i j, owner i = owner j → i = j) (h : ∀ i, e.Follows owner i (solo i))
    (h' : ∀ i, e'.Follows owner i (solo i)) (i₀ : ι) : e'.store = e.store := by
  have hobjects : ∀ id, e'.store.world.object? id = e.store.world.object? id := by
    intro id
    -- some solo run is decisive for `id`: the one of the task that owns it, or any if no task does
    have hnear : ∃ i, ∀ name, ¬Others owner i id name := by
      by_cases hid : ∃ i, id = owner i
      · obtain ⟨i, rfl⟩ := hid
        refine ⟨i, fun name hother => ?_⟩
        obtain ⟨j, hne, heq⟩ := hother
        exact hne (hinj i j heq).symm
      · exact ⟨i₀, fun name ⟨j, _, heq⟩ => hid ⟨j, heq⟩⟩
    obtain ⟨i, hi⟩ := hnear
    -- both stores have what this run has
    rw [(h i).store.world.object?_eq hi, (h' i).store.world.object?_eq hi]
  have haliases : e'.store.world.aliases = e.store.world.aliases :=
    (h' i₀).store.world.aliases.trans (h i₀).store.world.aliases.symm
  have hworld : e'.store.world = e.store.world := World.ext_object? haliases hobjects
  have hstream : e'.store.stream = e.store.stream :=
    (h' i₀).store.stream.trans (h i₀).store.stream.symm
  calc
    e'.store = ⟨e'.store.world, e'.store.stream⟩ := rfl
    _ = ⟨e.store.world, e.store.stream⟩ := by rw [hworld, hstream]
    _ = e.store := rfl

/-- **Independent tasks commute.** Let tasks share a store, each started with a frame at the
beginning of its script, with different owners of which none is met on the walk from another one up
its parents. In every interleaving of their ticks, each task becomes what it becomes when it ticks
alone as many times on the first store, and its ticks return the same. Interleavings with the same
number of ticks of each task leave the same store. -/
theorem play_independent {root : ι → Frame} {tasks : ι → Task} (hfresh : ∀ i, (root i).Fresh)
    (hstart : ∀ i, (tasks i).machine = .start (root i)) (s : Store)
    (hne : ∀ i j, i ≠ j → (root i).owner ≠ (root j).owner)
    (hapart : ∀ i j, i ≠ j → (root j).owner ∉ s.world.lineage (root i).owner) (schedule : List ι) :
    (∀ i, (play { tasks, store := s } schedule).tasks i
        = ((tasks i).tickTimes s (schedule.count i)).1 ∧
      (play { tasks, store := s } schedule).results i
        = ((tasks i).tickTimes s (schedule.count i)).2.2) ∧
    ∀ schedule' : List ι, (∀ i, schedule'.count i = schedule.count i) →
      (play { tasks, store := s } schedule').store
        = (play { tasks, store := s } schedule).store := by
  have hruns : ∀ i, (tasks i).machine.RunsAs (root i).owner := by
    intro i
    rw [hstart i]
    exact .start (hfresh i).runsAs
  have hsight : ∀ i id, s.world.InSight (root i).owner id →
      ∀ name, ¬Others (fun i => (root i).owner) i id name := by
    rintro i id hid name ⟨j, hji, rfl⟩
    -- the owner of another task is neither this one nor met on its walk
    rcases hid with heq | hmem
    · exact hne j i hji heq
    · exact hapart i j hji.symm hmem
  have hfollows := fun schedule i => play_follows hruns hsight schedule i
  refine ⟨fun i => ⟨(hfollows schedule i).task, (hfollows schedule i).results⟩, ?_⟩
  intro schedule' hcount
  cases schedule with
  | nil =>
    -- without a tick there need not be a task at all
    have hnil : schedule' = [] := List.eq_nil_iff_forall_not_mem.2 fun i hi => by
      have hpos := List.count_pos_iff.2 hi
      rw [hcount i] at hpos
      exact absurd hpos (Nat.lt_irrefl 0)
    rw [hnil]
  | cons i₀ schedule =>
    have hinj : ∀ i j, (root i).owner = (root j).owner → i = j := by
      intro i j heq
      by_contra hij
      exact hne i j hij heq
    -- the solo runs of both schedules are the same, since the counts are
    refine store_eq_of_follows hinj (hfollows (i₀ :: schedule)) (fun i => ?_) i₀
    rw [← hcount i]
    exact hfollows schedule' i

/-- Two objects that inherit a verb of a third one. -/
def siblings : Store :=
  { world :=
      { objects := Table.ofList
          [(⟨1⟩, { id := ⟨1⟩, parent := some ⟨3⟩ }), (⟨2⟩, { id := ⟨2⟩, parent := some ⟨3⟩ }),
            (⟨3⟩, { id := ⟨3⟩, verbs := Table.ofList [("smile", "%mood = 'happy'")] })] }
    stream := { seed := 0 } }

/-- The first frame of a task that calls the inherited verb, as one object or the other. -/
def smile (first : Bool) : Frame :=
  { owner := if first then ⟨1⟩ else ⟨2⟩, script := [.call ⟨"smile", none, none, none, []⟩] }

/-- The task of one object or the other. -/
def smiler (first : Bool) : Task := { machine := .start (smile first) }

/-- The tasks of both objects may call the verb of their parent in any order. They share the object
that defines it, but neither of them is an ancestor of the other. -/
theorem smile_independent :
    (play { tasks := smiler, store := siblings } [true, false, true, false]).results true
      = [.ok (.served .call), .ok (.served .setProp)] ∧
    (play { tasks := smiler, store := siblings } [false, false, true, true]).store
      = (play { tasks := smiler, store := siblings } [true, false, true, false]).store := by
  have hfresh : ∀ first, (smile first).Fresh := fun first => Frame.fresh_new _ _
  have hne : ∀ i j, i ≠ j → (smile i).owner ≠ (smile j).owner := by decide
  have hapart : ∀ i j, i ≠ j → (smile j).owner ∉ siblings.world.lineage (smile i).owner := by
    have hone : siblings.world.lineage ⟨1⟩ = [⟨1⟩, ⟨3⟩] := by decide +kernel
    have htwo : siblings.world.lineage ⟨2⟩ = [⟨2⟩, ⟨3⟩] := by decide +kernel
    rintro (_ | _) (_ | _) hij
    · exact absurd rfl hij
    · change _ ∉ siblings.world.lineage ⟨2⟩
      rw [htwo]
      decide
    · change _ ∉ siblings.world.lineage ⟨1⟩
      rw [hone]
      decide
    · exact absurd rfl hij
  have hstart : ∀ first, (smiler first).machine = .start (smile first) := fun first => rfl
  obtain ⟨hsolo, hstore⟩ :=
    play_independent hfresh hstart siblings hne hapart [true, false, true, false]
  refine ⟨(hsolo true).2.trans ?_, hstore [false, false, true, true] (by decide)⟩
  decide +kernel

end Ensemble

end VerbScript
