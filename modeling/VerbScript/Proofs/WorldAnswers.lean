import VerbScript.Proofs.MachineSteps
import VerbScript.World.Store

/-!
# What a world answers

The facts about `World.serve` that do not depend on what the world holds.

* `World.callee_fails` — a call fails because something is missing, or because of the source of the
  verb.
* `World.serve_fails`, `World.serve_ordinary` — so do all requests; in particular a world does not
  fail with the end of a script.
* `World.serve_frame` — the machine of a called verb is at its beginning, and it runs as the object
  the call names.
* `World.serve_eq_self` — only a write changes the world.
* `World.serve_setProp` — what a write does.
-/

namespace VerbScript

/-- Something that is named does not exist. These are the faults by which a world says that it has
nothing to answer with. -/
def Fault.Missing : Fault → Prop
  | propNotFound _ => True
  | verbNotFound _ => True
  | objectNotFound _ => True
  | unknownAlias _ => True
  | _ => False

/-- That something is missing is a failure like any other, and no end of a script. -/
theorem Fault.Missing.ordinary {fault : Fault} (h : fault.Missing) : fault.Ordinary := by
  cases fault <;> trivial

namespace World

variable {w : World}

/-! ### Faults -/

/-- The ancestors of an object can be gone through unless the object itself is missing. -/
theorem inherited_error {α : Type} {id : ObjectId} {probe : Object → Option α} {fault : Fault}
    (h : w.inherited id probe = .error fault) : fault = .objectNotFound id := by
  unfold inherited at h
  split at h
  · -- an object that exists has ancestors to go through, if only itself
    cases h
  · cases h
    rfl

/-- So this is the only fault of looking something up along the ancestors. -/
theorem inherited_missing {α : Type} (w : World) (id : ObjectId) (probe : Object → Option α) :
    FailsWith Fault.Missing (w.inherited id probe) := by
  intro fault h
  rw [inherited_error h]
  trivial

/-- A property may be missing, or the object that is asked for it. Built-in names are always
there. -/
theorem readProp_missing (w : World) (id : ObjectId) (name : String) :
    FailsWith Fault.Missing (w.readProp id name) := by
  unfold readProp
  split
  · exact .error trivial
  · split
    · -- the two built-in names
      exact .ok _
    · split
      · exact .ok _
      · -- any other name is looked up along the ancestors
        refine (w.inherited_missing id _).bind fun found => ?_
        cases found with
        | some v => exact .ok v
        | none => exact .error trivial

/-- A verb may be missing, or the object. -/
theorem findVerb_missing (w : World) (id : ObjectId) (name : String) :
    FailsWith Fault.Missing (w.findVerb id name) := by
  refine (w.inherited_missing id _).bind fun found => ?_
  cases found with
  | some source => exact .ok source
  | none => exact .error trivial

/-- **A called verb** is looked up, compiled, and runs as the object the call names. What is said of
calls below is read off this equation, part by part. -/
theorem callee_eq (w : World) (object : ObjectId) (args : CallArgs) :
    w.callee object args = (w.findVerb object args.verb >>= fun source =>
      (Script.compile source).mapError .compile >>= fun script =>
        .ok (Frame.forCall object script args)) := by
  unfold callee frameForCall
  cases w.findVerb object args.verb with
  | error fault => rfl
  | ok source =>
    -- a failure to compile is wrapped as the fault of a call in one go or in two
    change Except.mapError _ (Except.mapError _ (Script.compile source) >>= _)
      = (Except.mapError _ (Script.compile source) >>= _)
    cases Script.compile source <;> rfl

/-- **A call fails** because something is missing, or because the source that is found for the verb
is rejected. The second case names the source, so that a fault of the compiler can always be traced
back to a verb of the world. -/
theorem callee_fails (w : World) (object : ObjectId) (args : CallArgs) :
    FailsWith (fun fault => fault.Missing ∨ ∃ source e, w.findVerb object args.verb = .ok source ∧
      Script.compile source = .error e ∧ fault = .compile e) (w.callee object args) := by
  rw [callee_eq]
  cases hfind : w.findVerb object args.verb with
  | error fault => exact .error (.inl (w.findVerb_missing object args.verb fault hfind))
  | ok source =>
    refine FailsWith.bind (x := (Script.compile source).mapError .compile) ?_ fun script => .ok _
    cases hcompile : Script.compile source with
    | ok script => exact .ok script
    | error e => exact .error (.inr ⟨source, e, rfl, hcompile, rfl⟩)

/-- A verb that is found and compiles runs in a fresh frame, as the object the call names. This need
not be the object that defines the verb. -/
theorem callee_ok {object : ObjectId} {args : CallArgs} {f : Frame}
    (h : w.callee object args = .ok f) : f.Fresh ∧ f.owner = object := by
  rw [callee_eq] at h
  cases hv : w.findVerb object args.verb with
  | error fault =>
    rw [hv] at h
    cases h
  | ok source =>
    rw [hv] at h
    -- of the three ways through the equation only the last one results in a frame
    change ((Script.compile source).mapError Fault.compile >>= _) = _ at h
    cases hs : Script.compile source with
    | error error =>
      rw [hs] at h
      cases h
    | ok script =>
      rw [hs] at h
      cases h
      exact ⟨Frame.fresh_forCall object script args, rfl⟩

/-! ### Answers -/

/-- A write of a name that scripts may write replaces the object by one with the property set. -/
theorem serve_setProp (w : World) (object : ObjectId) (name : String) (value : Value) :
    w.serve (.setProp object name value) = match w.object? object with
      | some o =>
        let o' := if isReadOnly name then o else { o with props := o.props.insert name value }
        ({ w with objects := w.objects.insert object o' }, .ok .done)
      | none => (w, .error (.objectNotFound object)) := by
  -- the name is looked at only once the object is found
  cases h : w.object? object <;> simp only [serve, writeProp, change, h]

/-- **Only writes change a world.** A request that reads, resolves a name or calls a verb leaves it
as it is, also if it fails. A call changes nothing either: the machine that it brings has still to
be run. -/
theorem serve_eq_self {r : Request} (w : World) (h : r.kind ≠ .setProp) : (w.serve r).1 = w := by
  cases r with
  | getProp object name => rfl
  | setProp object name value => exact absurd rfl h
  | resolveAlias name =>
    -- the name is found or not; both answers leave the world
    simp only [serve]
    split <;> rfl
  | call object args => rfl

/-- **A world fails** because something is missing, or because the source of a called verb is
rejected. The cases are the kinds of requests, and each of them has a lemma above. -/
theorem serve_fails (w : World) (r : Request) :
    FailsWith (fun fault => fault.Missing ∨ ∃ object verb source e,
      w.findVerb object verb = .ok source ∧ Script.compile source = .error e ∧
      fault = .compile e) (w.serve r).2 := by
  cases r with
  | getProp object name => exact ((w.readProp_missing object name).map _).mono fun _ => .inl
  | setProp object name value =>
    rw [serve_setProp]
    cases w.object? object with
    | some o => exact .ok _
    | none => exact .error (.inl trivial)
  | resolveAlias name =>
    simp only [serve]
    cases w.alias? name with
    | some id => exact .ok _
    | none => exact .error (.inl trivial)
  | call object args =>
    -- wrapping the frame of the call as an answer adds no fault
    exact ((w.callee_fails object args).map _).mono fun _ => .imp_right fun ⟨source, e, h⟩ =>
      ⟨object, args.verb, source, e, h⟩

/-- In particular a world fails with ordinary faults only: it never answers with the end of a script
or with a limit that a machine has reached. This is what tasks ask of their hosts. -/
theorem serve_ordinary (w : World) (r : Request) : FailsWith Fault.Ordinary (w.serve r).2 := by
  refine (w.serve_fails r).mono fun fault h => ?_
  rcases h with hmissing | ⟨object, verb, source, e, -, -, rfl⟩
  · exact hmissing.ordinary
  · trivial

/-- **The machines a world answers with** are at their beginning, and they run as the object of the
request. So a world brings a single frame at a time, and never a script that is halfway through. -/
theorem serve_frame {r : Request} {m : Machine} {owner : ObjectId} (hr : r.IsOf owner)
    (h : (w.serve r).2 = .ok (.frame m)) : ∃ f, m = .start f ∧ f.Fresh ∧ f.owner = owner := by
  cases r with
  | getProp object name =>
    -- a read that succeeds answers with a value, and a write with `done`
    change (w.readProp object name).map Reply.value = _ at h
    cases hv : w.readProp object name <;> rw [hv] at h <;> cases h
  | setProp object name value =>
    rw [serve_setProp] at h
    cases ho : w.object? object <;> rw [ho] at h <;> cases h
  | resolveAlias name =>
    simp only [serve] at h
    split at h <;> cases h
  -- only a call is answered with a machine
  | call object args =>
    change (w.callee object args).map (fun f => Reply.frame (.start f)) = _ at h
    cases hc : w.callee object args with
    | error fault =>
      rw [hc] at h
      cases h
    | ok g =>
      rw [hc] at h
      cases h
      obtain ⟨hfresh, howner⟩ := callee_ok hc
      exact ⟨g, rfl, hfresh, howner.trans hr⟩

end World

end VerbScript
