import VerbScript.Proofs.TraceEvents

/-!
# The call stack in a trace

Whoever reads the trace of a task can follow its stack of frames: a verb that is entered is on top
of those that have been entered before, one that returns is the newest that is still open, and an
error closes all. This module shows that the reader is right about the machine after every tick.

* `Trace.level` and `Trace.calls` — what the reader counts, and the stack that he keeps. Both are
  folds over the events.
* `Trace.Mirrors trace m` — he is right about the machine. `Task.Tells.mirrors` carries this over a
  tick, `Task.Story.mirrors` over any number of them.
* `Task.Tells.of_framePushed`, `of_frameReturned`, `of_request` — where such an event stands among
  the events of its tick, and what the tick has done.
* `Task.Story t host n trace` — the trace is what the first `n` ticks record. `Task.Story.recordsAt`
  is the locator: an event of the trace is recorded in one tick, behind what the ticks before have
  recorded, and before events that all have later ticks.
* `Task.Reconstructs` — what the trace tells. Its parts about single events come from the locator,
  the lemma on the event in its tick, and the reader being right before the tick.

`Task.trace_reconstructs` collects this for all tasks on stores and on stages.
-/

namespace VerbScript

/-! ### Reading a trace -/

namespace TraceEvent

/-- What an event makes of the number of verbs that are open. An error closes all of them, since it
gives up all frames but the outermost. -/
def shift (level : Int) : TraceEvent → Int
  | .framePushed .. => level + 1
  | .frameReturned .. => level - 1
  | .error _ => 0
  | _ => level

/-- What an event makes of the verbs that are open, the newest first, each with the depth of its
frame. -/
def stack (calls : List (String × Nat)) : TraceEvent → List (String × Nat)
  | .framePushed verb depth => (verb, depth) :: calls
  | .frameReturned .. => calls.tail
  | .error _ => []
  | _ => calls

end TraceEvent

namespace Trace

/-- The number of open verbs that a trace leads to. A reader who has not seen the beginning of the
trace would count less. -/
def level (trace : Trace) : Int := trace.foldl (fun level e => e.2.shift level) 0

/-- The open verbs that a trace leads to, the newest first. A reader who keeps this stack can tell
which verb a return belongs to. -/
def calls (trace : Trace) : List (String × Nat) := trace.foldl (fun calls e => e.2.stack calls) []

/-- The reader goes on counting where he has stopped. -/
theorem level_append (past new : Trace) :
    (past ++ new).level = new.foldl (fun level e => e.2.shift level) past.level :=
  List.foldl_append

/-- He also goes on with his stack where he has stopped. -/
theorem calls_append (past new : Trace) :
    (past ++ new).calls = new.foldl (fun calls e => e.2.stack calls) past.calls :=
  List.foldl_append

/-- **The reader is right about the machine**: he counts the called frames, and his open verbs have
their depths. -/
structure Mirrors (trace : Trace) (m : Machine) : Prop where
  level : trace.level = m.callers.length
  depths : trace.calls.map Prod.snd = (List.range' 1 m.callers.length).reverse

end Trace

namespace Task

variable {σ : Type} [Host σ] {t : Task} {host : σ} {limit capacity n : Nat} {past trace : Trace}
variable {events : List TraceEvent}

/-- **A tick** leaves the reader right. The cases are the ways in which a tick can go; first for
what he counts, then for the depths on his stack. -/
theorem Tells.mirrors (h : t.Tells host events) (horderly : t.machine.Orderly limit)
    (hpast : past.Mirrors t.machine) (tick : Nat) :
    (past ++ events.map (tick, ·)).Mirrors (t.tick host).1.machine := by
  obtain ⟨hlevel, hdepths⟩ := hpast
  constructor
  · rw [Trace.level_append, hlevel]
    cases h with
    | moved path same => rw [same]; rfl
    -- the newest verb has returned, and its frame is gone
    | returned ends stack popped =>
      rw [stack, popped]
      show ((_ + 1 : Nat) : Int) - 1 = _
      omega
    | answered asked same => rw [same]; rfl
    -- a verb has been entered, and its frame is on top
    | called asked pushed => rw [pushed]; rfl
    | finished alone same => rw [same]; rfl
    | failed alone => rw [alone]; rfl
  · rw [Trace.calls_append]
    cases h with
    | moved path same => rw [same]; exact hdepths
    -- the stack of the reader loses the newest verb, whose depth is the largest
    | @returned g caller callers ends stack popped =>
      rw [stack, List.length_cons, List.range'_1_concat, List.reverse_append] at hdepths
      rw [popped]
      show past.calls.tail.map Prod.snd = _
      rw [List.map_tail, hdepths]
      rfl
    | answered asked same => rw [same]; exact hdepths
    -- the new depth is one more than that of the frame that has called, which has a depth for each
    -- of its callers
    | called asked pushed =>
      rw [pushed, List.length_cons, List.range'_1_concat, List.reverse_append, ← hdepths,
        Nat.add_comm 1, ← horderly.depths_split.2]
      rfl
    | finished alone same => rw [same]; exact hdepths
    | failed alone => rw [alone]; rfl

/-! ### Where events stand in a tick -/

variable {pre post : List TraceEvent} {depth : Nat}

/-- An event that does not come later is the first one, with nothing before it. The events of a tick
are a short list without repetitions, so this is how a request and what follows it are found in
it. -/
theorem split_first {e a : TraceEvent} {l : List TraceEvent} (h : pre ++ e :: post = a :: l)
    (hlater : e ∉ l) : pre = [] ∧ e = a ∧ post = l := by
  cases pre with
  | nil =>
    obtain ⟨rfl, rfl⟩ := List.cons.inj h
    exact ⟨rfl, rfl, rfl⟩
  | cons b pre =>
    obtain ⟨-, rfl⟩ := List.cons.inj h
    exact absurd (List.mem_append_right _ List.mem_cons_self) hlater

/-- Another event than the first one comes later. -/
theorem split_later {e a : TraceEvent} {l : List TraceEvent} (h : pre ++ e :: post = a :: l)
    (hne : e ≠ a) : ∃ pre', pre = a :: pre' ∧ pre' ++ e :: post = l := by
  cases pre with
  | nil => exact absurd (List.cons.inj h).1 hne
  | cons b pre =>
    obtain ⟨rfl, hl⟩ := List.cons.inj h
    exact ⟨pre, rfl, hl⟩

/-- **A verb is entered** behind the request that calls it and the answer that brings its frame.
Both are of the same tick, and nothing else is recorded before it in this tick. -/
theorem Tells.of_framePushed {verb : String}
    (h : t.Tells host (pre ++ .framePushed verb depth :: post)) :
    ∃ object args, t.request? = some (.call object args) ∧ args.verb = verb ∧
      depth = t.machine.current.depth + 1 ∧ pre =
        [.request t.machine.current.depth (Request.call object args).display, .reply "frame"] := by
  have hmem : TraceEvent.framePushed verb depth ∈ pre ++ .framePushed verb depth :: post :=
    List.mem_append_right _ List.mem_cons_self
  generalize hevents : pre ++ TraceEvent.framePushed verb depth :: post = events at h hmem
  cases h with
  | called asked pushed =>
    -- of the three events of such a tick, the verb that is entered is the last
    obtain ⟨pre₁, rfl, hreply⟩ := split_later hevents nofun
    obtain ⟨pre₂, rfl, hlast⟩ := split_later hreply nofun
    obtain ⟨rfl, hpushed, -⟩ := split_first hlast List.not_mem_nil
    obtain ⟨rfl, rfl⟩ := TraceEvent.framePushed.inj hpushed
    exact ⟨_, _, asked, rfl, rfl, rfl⟩
  -- no other kind of tick enters a verb
  | _ => simp at hmem

/-- **A verb returns** at the beginning of a tick, in which its frame has come to the end. It is the
executing frame, and its caller goes on with the value. -/
theorem Tells.of_frameReturned {value : Value}
    (h : t.Tells host (pre ++ .frameReturned depth value :: post)) :
    ∃ g caller callers, t.machine.current.step = (g, .error .endOfScript) ∧
      t.machine.callers = caller :: callers ∧ pre = [] ∧ depth = caller.depth + 1 ∧
      value = g.returnValue := by
  have hmem : TraceEvent.frameReturned depth value ∈ pre ++ .frameReturned depth value :: post :=
    List.mem_append_right _ List.mem_cons_self
  generalize hevents : pre ++ TraceEvent.frameReturned depth value :: post = events at h hmem
  cases h with
  | returned ends stack popped =>
    obtain ⟨rfl, hreturned, -⟩ := split_first hevents (by simp)
    obtain ⟨rfl, rfl⟩ := TraceEvent.frameReturned.inj hreturned
    exact ⟨_, _, _, ends, stack, rfl, rfl, rfl⟩
  | _ => simp at hmem

/-- **A request** is made at the beginning of a tick, and there is one answer to it. The answer
comes right behind it; what follows is at most the frame that has been pushed. -/
theorem Tells.of_request {text : String} (h : t.Tells host (pre ++ .request depth text :: post)) :
    pre = [] ∧ ∃ kind rest, post = .reply kind :: rest ∧ ∀ kind', .reply kind' ∉ rest := by
  have hmem : TraceEvent.request depth text ∈ pre ++ .request depth text :: post :=
    List.mem_append_right _ List.mem_cons_self
  generalize hevents : pre ++ TraceEvent.request depth text :: post = events at h hmem
  cases h with
  | answered asked same =>
    obtain ⟨rfl, -, rfl⟩ := split_first hevents (by simp)
    exact ⟨rfl, _, _, rfl, fun _ => List.not_mem_nil⟩
  | called asked pushed =>
    obtain ⟨rfl, -, rfl⟩ := split_first hevents (by simp)
    exact ⟨rfl, _, _, rfl, fun kind' => by simp⟩
  | _ => simp at hmem

/-! ### The story of some ticks -/

/-- **What the first ticks record**, each event with its tick. A tick that the limit refuses records
nothing and is not counted. -/
inductive Story (t : Task) (host : σ) : Nat → Trace → Prop where
  | start : Story t host 0 []
  | refused {n : Nat} {past : Trace} (before : Story t host n past)
      (refused : (t.tickTimes host n).1.exhausted = true) : Story t host (n + 1) past
  | tick {n : Nat} {past : Trace} {events : List TraceEvent} (before : Story t host n past)
      (admitted : (t.tickTimes host n).1.exhausted = false)
      (tells : (t.tickTimes host n).1.Tells (t.tickTimes host n).2.1 events) :
      Story t host (n + 1) (past ++ events.map ((t.tickTimes host n).1.ticks + 1, ·))

/-- A tick that is refused leaves the task as it is. -/
theorem tickTimes_refused (h : (t.tickTimes host n).1.exhausted = true) :
    (t.tickTimes host (n + 1)).1 = (t.tickTimes host n).1 := by
  show ((t.tickTimes host n).1.tick (t.tickTimes host n).2.1).1 = (t.tickTimes host n).1
  rw [tick_refused _ h]

/-- **Every number of ticks has a story**, and it is what the tracer has recorded. The induction is
on the ticks. -/
theorem exists_story (hhost : Host.Agrees σ) (h : t.machine.Settled limit)
    (hrecords : t.Records capacity []) (host : σ) (n : Nat) :
    ∃ trace, t.Story host n trace ∧ (t.tickTimes host n).1.Records capacity trace := by
  induction n with
  | zero => exact ⟨[], .start, hrecords⟩
  | succ n ih =>
    obtain ⟨past, hstory, hpast⟩ := ih
    cases hlimit : (t.tickTimes host n).1.exhausted with
    | true =>
      refine ⟨past, .refused hstory hlimit, ?_⟩
      rw [tickTimes_refused hlimit]
      exact hpast
    | false =>
      obtain ⟨events, htells, hevents⟩ :=
        tick_tells hhost (tickTimes_settled hhost h host n) hpast hlimit (t.tickTimes host n).2.1
      exact ⟨_, .tick hstory hlimit htells, hevents⟩

/-- **After every tick the reader is right.** Before the first one nothing has been entered, and the
machine has a single frame. -/
theorem Story.mirrors (h : t.Story host n trace)
    (horderly : ∀ k, (t.tickTimes host k).1.machine.Orderly limit)
    (halone : t.machine.callers = []) : trace.Mirrors (t.tickTimes host n).1.machine := by
  induction h with
  | start =>
    constructor
    · show (0 : Int) = t.machine.callers.length
      rw [halone]
      rfl
    · show [] = (List.range' 1 t.machine.callers.length).reverse
      rw [halone]
      rfl
  | refused before refused ih =>
    rw [tickTimes_refused refused]
    exact ih
  | tick before admitted tells ih => exact tells.mirrors (horderly _) ih _

/-- What has been recorded is stamped with a tick that has been counted. A tick that is refused is
not counted, but it records nothing either. -/
theorem Story.stamp_le (h : t.Story host n trace) :
    ∀ e ∈ trace, e.1 ≤ (t.tickTimes host n).1.ticks := by
  induction h with
  | start => exact List.forall_mem_nil _
  | refused before refused ih =>
    rw [tickTimes_refused refused]
    exact ih
  | @tick n past events before admitted tells ih =>
    have hcounted : (t.tickTimes host (n + 1)).1.ticks = (t.tickTimes host n).1.ticks + 1 :=
      tick_ticks _ admitted
    rw [hcounted, List.forall_mem_append]
    refine ⟨fun e he => Nat.le_succ_of_le (ih e he), fun e he => ?_⟩
    obtain ⟨event, -, rfl⟩ := List.mem_map.1 he
    exact Nat.le_refl _

/-- **The event is recorded in one of the first ticks.** Around it, in `before` and `after`, are the
other events of the tick, before these is what the ticks before have recorded, and what comes after
has a later tick. -/
def RecordsAt (t : Task) (host : σ) (n tick : Nat) (event : TraceEvent) (before after : Trace) :
    Prop :=
  ∃ k past pre post later, k < n ∧ t.Story host k past ∧
    (t.tickTimes host k).1.Tells (t.tickTimes host k).2.1 (pre ++ event :: post) ∧
    (t.tickTimes host k).1.ticks + 1 = tick ∧ before = past ++ pre.map (tick, ·) ∧
    after = post.map (tick, ·) ++ later ∧ ∀ e ∈ later, tick < e.1

variable {tick : Nat} {event : TraceEvent} {before after new : Trace}

/-- More ticks add events behind it, which have later ticks. -/
theorem RecordsAt.later (h : t.RecordsAt host n tick event before after)
    (hnew : ∀ e ∈ new, tick < e.1) :
    t.RecordsAt host (n + 1) tick event before (after ++ new) := by
  obtain ⟨k, past, pre, post, later, hk, hstory, htells, htick, hbefore, hafter, hlater⟩ := h
  refine ⟨k, past, pre, post, later ++ new, Nat.lt_succ_of_lt hk, hstory, htells, htick, hbefore,
    ?_, List.forall_mem_append.2 ⟨hlater, hnew⟩⟩
  rw [hafter, List.append_assoc]

/-- An event of the last tick stands behind the whole story before it, and nothing has been recorded
since. -/
theorem Story.recordsAt_last (h : t.Story host n past)
    (htells : (t.tickTimes host n).1.Tells (t.tickTimes host n).2.1 events) (new : Trace)
    (hevents : events.map ((t.tickTimes host n).1.ticks + 1, ·) = new ++ (tick, event) :: after) :
    t.RecordsAt host (n + 1) tick event (past ++ new) after := by
  obtain ⟨pre, rest, rfl, rfl, hrest⟩ := List.map_eq_append_iff.1 hevents
  obtain ⟨event', post, rfl, hevent, rfl⟩ := List.map_eq_cons_iff.1 hrest
  obtain ⟨rfl, rfl⟩ := Prod.mk.inj hevent
  exact ⟨n, past, pre, post, [], Nat.lt_succ_self n, h, htells, rfl, rfl,
    (List.append_nil _).symm, List.forall_mem_nil _⟩

/-- **Every event is recorded in a tick.** The induction is on the story; an event is of the last
tick, or it has been recorded before. -/
theorem Story.recordsAt (h : t.Story host n trace)
    (hsplit : trace = before ++ (tick, event) :: after) :
    t.RecordsAt host n tick event before after := by
  induction h generalizing after with
  | start => exact absurd hsplit.symm (List.append_ne_nil_of_right_ne_nil _ (List.cons_ne_nil _ _))
  | refused story refused ih =>
    obtain ⟨k, past, pre, post, later, hk, hrest⟩ := ih hsplit
    exact ⟨k, past, pre, post, later, Nat.lt_succ_of_lt hk, hrest⟩
  | @tick n past events story admitted tells ih =>
    -- the event is among those of the last tick, or it was there before
    rcases List.append_eq_append_iff.1 hsplit with ⟨new, rfl, hevents⟩ | ⟨rest, hpast, hafter⟩
    · exact story.recordsAt_last tells new hevents
    · cases rest with
      -- the story ends right before the event, so it is the first one of the last tick
      | nil =>
        rw [List.append_nil] at hpast
        subst hpast
        have hrecords := story.recordsAt_last tells [] hafter.symm
        rw [List.append_nil] at hrecords
        exact hrecords
      | cons e rest =>
        obtain ⟨rfl, rfl⟩ := List.cons.inj hafter
        refine (ih hpast).later fun e he => ?_
        obtain ⟨event', -, rfl⟩ := List.mem_map.1 he
        -- the event was stamped in an earlier tick, and the last one has the next number
        refine Nat.lt_succ_of_le (story.stamp_le (tick, event) ?_)
        rw [hpast]
        exact List.mem_append_right _ List.mem_cons_self

/-! ### What a trace tells -/

/-- **A trace tells the calls** of the first `n` ticks. Each part says of one kind of event what can
be concluded from it about the machine. -/
structure Reconstructs (t : Task) (host : σ) (n : Nat) (trace : Trace) : Prop where
  /-- The reader counts the frames above the outermost one. -/
  level : trace.level = (t.tickTimes host n).1.machine.frameCount - 1
  /-- A verb is entered at the level that it brings the reader to, right behind the request that
  calls it. -/
  pushed : ∀ (before after : Trace) (tick : Nat) (verb : String) (depth : Nat),
    trace = before ++ (tick, .framePushed verb depth) :: after →
      Trace.level (before ++ [(tick, .framePushed verb depth)]) = depth ∧
      ∃ k earlier depth' object args, k < n ∧ (t.tickTimes host k).1.ticks + 1 = tick ∧
        (t.tickTimes host k).1.request? = some (.call object args) ∧ args.verb = verb ∧
        before = earlier ++
          [(tick, .request depth' (Request.call object args).display), (tick, .reply "frame")]
  /-- A verb that returns is the newest one that is open, and it returns the result of the frame
  that has come to its end in the same tick. -/
  returned : ∀ (before after : Trace) (tick depth : Nat) (value : Value),
    trace = before ++ (tick, .frameReturned depth value) :: after →
      (∃ verb rest, before.calls = (verb, depth) :: rest) ∧
      ∃ k g, k < n ∧ (t.tickTimes host k).1.ticks + 1 = tick ∧
        (t.tickTimes host k).1.machine.callers ≠ [] ∧
        (t.tickTimes host k).1.machine.current.step = (g, .error .endOfScript) ∧
        value = g.returnValue
  /-- A request is answered at once, and its tick has no other answer. -/
  answered : ∀ (before after : Trace) (tick depth : Nat) (text : String),
    trace = before ++ (tick, .request depth text) :: after →
      ∃ kind rest, after = (tick, .reply kind) :: rest ∧
        ∀ kind', (tick, .reply kind') ∉ before ∧ (tick, .reply kind') ∉ rest

/-- **The story of some ticks tells the calls.** Its parts are read off the tick of the event, and
what was there before it. -/
theorem Story.reconstructs (h : t.Story host n trace)
    (horderly : ∀ k, (t.tickTimes host k).1.machine.Orderly limit)
    (halone : t.machine.callers = []) : t.Reconstructs host n trace := by
  constructor
  · rw [(h.mirrors horderly halone).level]
    unfold Machine.frameCount
    omega
  · intro before after tick verb depth hsplit
    obtain ⟨k, past, pre, post, later, hk, hstory, htells, rfl, rfl, -, -⟩ := h.recordsAt hsplit
    obtain ⟨object, args, hasked, hverb, hdepth, rfl⟩ := htells.of_framePushed
    refine ⟨?_, k, past, _, object, args, hk, rfl, hasked, hverb, rfl⟩
    -- the reader has counted the frames before the tick, and now counts one more
    rw [Trace.level_append, Trace.level_append, (hstory.mirrors horderly halone).level, hdepth,
      (horderly k).depths_split.2]
    rfl
  · intro before after tick depth value hsplit
    obtain ⟨k, past, pre, post, later, hk, hstory, htells, rfl, rfl, -, -⟩ := h.recordsAt hsplit
    -- before the tick the reader has as many open verbs as there are called frames
    obtain ⟨g, caller, callers, hends, hstack, rfl, hdepth, hvalue⟩ := htells.of_frameReturned
    refine ⟨?_, k, g, hk, rfl, ?_, hends, hvalue⟩
    · rw [List.map_nil, List.append_nil]
      -- so the newest of them has the depth of the frame that returns
      have hdepths := (hstory.mirrors horderly halone).depths
      rw [hstack, List.length_cons, List.range'_1_concat, List.reverse_append] at hdepths
      obtain ⟨⟨verb, newest⟩, rest, hcalls, hnewest, -⟩ := List.map_eq_cons_iff.1 hdepths
      have hcaller := (horderly k).caller_depth hstack
      obtain rfl : newest = depth := by
        rw [show newest = 1 + callers.length from hnewest, hdepth, hcaller]
        exact Nat.add_comm 1 _
      exact ⟨verb, rest, hcalls⟩
    · rw [hstack]
      exact List.cons_ne_nil _ _
  · intro before after tick depth text hsplit
    obtain ⟨k, past, pre, post, later, hk, hstory, htells, rfl, rfl, rfl, hlater⟩ :=
      h.recordsAt hsplit
    obtain ⟨rfl, kind, rest, rfl, hrest⟩ := htells.of_request
    -- another answer with this tick would be one of the tick itself
    refine ⟨kind, _, rfl, fun kind' => ⟨fun hbefore => ?_, fun hafter => ?_⟩⟩
    · rw [List.map_nil, List.append_nil] at hbefore
      exact absurd (hstory.stamp_le _ hbefore) (Nat.not_succ_le_self _)
    · rcases List.mem_append.1 hafter with hafter | hafter
      · obtain ⟨event, hevent, heq⟩ := List.mem_map.1 hafter
        obtain ⟨-, rfl⟩ := Prod.mk.inj heq
        exact hrest kind' hevent
      · exact absurd (hlater _ hafter) (Nat.lt_irrefl _)

/-- After `n` ticks the tracer holds a trace that tells the calls, if its buffer has not
overflowed. -/
def Traced (t : Task) (host : σ) (n : Nat) : Prop :=
  ∃ tracer, (t.tickTimes host n).1.tracer = some tracer ∧
    (tracer.buffer.nextId ≤ tracer.buffer.capacity → t.Reconstructs host n tracer.buffer.trace)

/-- A task that starts settled and alone, with a new buffer, holds such a trace. -/
theorem traced_of_settled (hhost : Host.Agrees σ) (h : t.machine.Settled limit)
    (halone : t.machine.callers = []) (hrecords : t.Records capacity []) (host : σ) (n : Nat) :
    t.Traced host n := by
  obtain ⟨trace, hstory, tracer, htracer, hheld⟩ := exists_story hhost h hrecords host n
  refine ⟨tracer, htracer, fun hfits => ?_⟩
  rw [hheld.trace_eq hfits]
  exact hstory.reconstructs (fun k => (tickTimes_settled hhost h host k).orderly) halone

/-- **The trace tells the call stack.** Let a task start with a frame at the beginning of its script
that nothing has called, under an enabled tracer without a filter whose buffer is new, and tick any
number of times on any store, or on any stage over a store. As long as the buffer has not
overflowed, whoever reads its trace counts the frames above the outermost one; each verb that is
entered has the depth that he counts to, and stands behind the request that has called it; each verb
that returns has the depth of the newest one that is open, and the result of the frame that has
ended; and behind each request is the one answer that its tick has. -/
theorem trace_reconstructs {root : Frame} (hroot : root.Fresh) (houtermost : root.depth = 0)
    (ht : t.machine = .start root) {tracer : Tracer} (htracer : t.tracer = some tracer)
    (henabled : tracer.enabled = true) (hfilter : tracer.filter = [])
    (hbuffer : tracer.buffer = { capacity }) (n : Nat) :
    (∀ s : Store, t.Traced s n) ∧ (∀ s : Stage, t.Traced s n) := by
  have hsettled := settled_of_fresh hroot houtermost ht
  have halone : t.machine.callers = [] := by
    rw [ht]
    rfl
  have hrecords : t.Records capacity [] := ⟨tracer, htracer, .start henabled hfilter hbuffer⟩
  constructor
  · intro s
    exact traced_of_settled Store.agrees hsettled halone hrecords s n
  · intro s
    exact traced_of_settled Stage.agrees hsettled halone hrecords s n

end Task

/-- An object with a verb that calls another one. -/
def lobby : Store :=
  { world :=
      { objects := Table.ofList
          [(⟨1⟩,
            { id := ⟨1⟩, verbs := Table.ofList [("greet", "wave"), ("wave", "$_return = 3")] })] }
    stream := { seed := 0 } }

/-- A traced task that calls the verb. -/
def visiting : Task :=
  { machine := .start { owner := ⟨1⟩, script := [.call ⟨"greet", none, none, none, []⟩] }
    tracer := some { enabled := true } }

/-- After three ticks the inner verb has returned, and the outer one is still open. The
reconstruction from the recorded events says the same: one open call, at depth one. -/
theorem visiting_reconstructed :
    ∃ tracer, (visiting.tickTimes lobby 3).1.tracer = some tracer ∧
      visiting.Reconstructs lobby 3 tracer.buffer.trace ∧
      tracer.buffer.trace.map (fun e => (e.1, e.2.type)) =
        [(1, .request), (1, .reply), (1, .framePushed), (2, .request), (2, .reply),
          (2, .framePushed), (3, .frameReturned), (3, .step)] ∧
      tracer.buffer.trace.calls = [("greet", 1)] := by
  have htraced : visiting.Traced lobby 3 :=
    (Task.trace_reconstructs (Frame.fresh_new ⟨1⟩ _) rfl rfl rfl rfl rfl rfl 3).1 lobby
  obtain ⟨tracer, htracer, htold⟩ := htraced
  -- what the three ticks record is computed; that it is right comes from the theorem
  have hrun : (visiting.tickTimes lobby 3).1.tracer.map (fun tracer =>
      (decide (tracer.buffer.nextId ≤ tracer.buffer.capacity),
        tracer.buffer.trace.map (fun e => (e.1, e.2.type)), Trace.calls tracer.buffer.trace)) =
      some (true,
        [(1, .request), (1, .reply), (1, .framePushed), (2, .request), (2, .reply),
          (2, .framePushed), (3, .frameReturned), (3, .step)], [("greet", 1)]) := by
    decide +kernel
  rw [htracer] at hrun
  obtain ⟨hfits, hrest⟩ := Prod.mk.inj (Option.some.inj hrun)
  obtain ⟨htypes, hcalls⟩ := Prod.mk.inj hrest
  exact ⟨tracer, htracer, htold (of_decide_eq_true hfits), htypes, hcalls⟩

end VerbScript
